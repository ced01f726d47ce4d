import LiveBoard.Board.View
import LiveBoard.Proofs.Board.Runs
import Mathlib.Data.List.Basic

/-!
Approvals are listed under the task that a field of their own names.

Agents may put the task of an approval into its payload instead, and the rows of the approval show
it from there. Such an approval is listed under no task.
-/

namespace LiveBoard

namespace Approval

/-- The keys under which the payload of an approval may name its task, the first one first. -/
def taskKeys : List String := ["task_id", "taskId", "taskID"]

/-- The task that the payload of an approval names: the first text or number under its keys. -/
def payloadTask (approval : Approval) : Option String :=
  taskKeys.findSome? approval.payloadText

/-- The label of the row that shows the task of an approval. -/
def taskLabel : String := "Task"

/-- The tasks that the rows of an approval show. -/
def shownTasks (approval : Approval) : List String :=
  (approval.rows.filter (·.1 = taskLabel)).map (·.2)

/-- An approval names the task of its own field, or else that of its payload. -/
theorem namedTask_eq (approval : Approval) :
    approval.namedTask = approval.taskId.or approval.payloadTask := by
  -- The keys are tried one after the other, which is what going through their list does.
  simp only [namedTask, payloadTask, taskKeys, List.findSome?_cons, List.findSome?_nil]
  cases approval.payloadText "task_id" <;> cases approval.payloadText "taskId" <;>
    cases approval.payloadText "taskID" <;> simp

/-- The rows of an approval show the task that it names, and no other one. -/
theorem shownTasks_eq (approval : Approval) :
    approval.shownTasks = approval.namedTask.toList := by
  -- The rows of other kinds have labels of their own.
  have other {label : String} (apart : label ≠ taskLabel) (text : Option String) :
      ((text.map fun text => (label, text)).toList).filter (·.1 = taskLabel) = [] := by
    cases text <;> simp [apart]
  have assignee (assigns : Bool) (text : String) :
      (if assigns then [("Assignee", text)] else []).filter (·.1 = taskLabel) = [] := by
    cases assigns <;> simp [taskLabel]
  have task (text : Option String) :
      ((text.map fun text => ("Task", text)).toList).filter (·.1 = taskLabel) =
        (text.map fun text => ("Task", text)).toList := by
    cases text <;> simp [taskLabel]
  simp only [shownTasks, rows, List.filter_append, task, assignee,
    other (show "Title" ≠ taskLabel by decide), other (show "Role" ≠ taskLabel by decide),
    List.append_nil]
  cases approval.namedTask <;> rfl

end Approval

namespace BoardState

variable {state : BoardState} {taskId : String} {approval : Approval}

/-- The approvals that name a task, as they are stored. -/
def approvalsNaming (state : BoardState) (taskId : String) : List Approval :=
  state.approvals.filter (·.namedTask = some taskId)

/-- An approval is listed under the task of its own field, and only if it has one. -/
theorem mem_taskApprovals_iff :
    approval ∈ state.taskApprovals taskId ↔
      approval ∈ state.approvals ∧ approval.taskId = some taskId := by
  -- The list goes by the field alone.
  simp [taskApprovals]

/-- Of the approvals that name a task, those are listed under it that do so in their own field. -/
theorem taskApprovals_eq_filter (state : BoardState) (taskId : String) :
    state.taskApprovals taskId = (state.approvalsNaming taskId).filter (·.taskId.isSome) := by
  rw [taskApprovals, approvalsNaming, List.filter_filter]
  refine List.filter_congr fun approval _ => ?_
  -- A field of its own goes before the payload.
  rw [Approval.namedTask_eq]
  cases approval.taskId <;> simp

/-- All approvals that name a task are listed just when none does so in its payload alone. -/
theorem taskApprovals_eq_approvalsNaming_iff :
    state.taskApprovals taskId = state.approvalsNaming taskId ↔
      ∀ approval ∈ state.approvals, approval.payloadTask = some taskId →
        approval.taskId.isSome := by
  rw [taskApprovals_eq_filter, List.filter_eq_self]
  simp only [approvalsNaming, List.mem_filter, decide_eq_true_eq, and_imp, Approval.namedTask_eq]
  refine forall₂_congr fun approval member => ?_
  -- With a field of its own there is nothing to show, and without one only the payload may name it.
  cases approval.taskId <;> simp

/--
Which approvals are listed under a task, and what their rows show.

Of the approvals that name the task, those are listed, in their order, that do so in a field of
their own, and their rows show that task alone. An approval without that field is listed under no
task, whatever its rows show. So all that name the task are listed just when none of them does so in
its payload alone.
-/
theorem taskApprovals_exact (state : BoardState) (taskId : String) :
    state.taskApprovals taskId = (state.approvalsNaming taskId).filter (·.taskId.isSome) ∧
    (∀ approval ∈ state.taskApprovals taskId, approval.shownTasks = [taskId]) ∧
    (∀ approval ∈ state.approvals, approval.taskId = none →
      approval.shownTasks = approval.payloadTask.toList ∧
        ∀ other, approval ∉ state.taskApprovals other) ∧
    (state.taskApprovals taskId = state.approvalsNaming taskId ↔
      ∀ approval ∈ state.approvals, approval.payloadTask = some taskId →
        approval.taskId.isSome) := by
  refine ⟨taskApprovals_eq_filter state taskId, ?_, ?_, taskApprovals_eq_approvalsNaming_iff⟩
  · intro approval listed
    have own := (mem_taskApprovals_iff.mp listed).2
    rw [Approval.shownTasks_eq, Approval.namedTask_eq, own]
    rfl
  · intro approval _ unnamed
    -- Without the field, the rows show what the payload names, and the list has no use for that.
    constructor
    · rw [Approval.shownTasks_eq, Approval.namedTask_eq, unnamed, Option.none_or]
    · intro other listed
      -- What is listed under a task has a field that names it.
      rw [(mem_taskApprovals_iff.mp listed).2] at unnamed
      cases unnamed

/-- A frame with an approval that names its task in its payload. -/
def askedInPayload : BoardAction :=
  .approvalUpserted (some [("id", .string "p"), ("action_type", .string "deploy"),
    ("confidence", .ofNat 1), ("created_at", .string "2024-01-01T00:00:00Z"),
    ("payload", .object [("taskId", .string "t")])]) none none

/-- A frame with an approval that names the same task in a field of its own. -/
def askedInField : BoardAction :=
  .approvalUpserted (some [("id", .string "q"), ("action_type", .string "deploy"),
    ("confidence", .ofNat 1), ("created_at", .string "2024-01-01T00:00:00Z"),
    ("task_id", .string "t")]) none none

/-- An approval that names a task in its payload is not listed under it. -/
theorem not_forall_listed :
    ¬ ∀ (state : BoardState) (taskId : String),
      state.taskApprovals taskId = state.approvalsNaming taskId := by
  intro listed
  -- One frame from an agent that names the task in the payload is enough.
  have same := listed ((empty "b").reduceAll [askedInPayload]) "t"
  exact absurd (congrArg List.length same) (by decide)

/-- Of two approvals whose rows show the same task, only one is listed under it. -/
theorem taskApprovals_exact_twoWays :
    ((empty "b").reduceAll [askedInPayload, askedInField]).approvals.map (·.shownTasks) =
      [["t"], ["t"]] ∧
    (((empty "b").reduceAll [askedInPayload, askedInField]).taskApprovals "t").map (·.id) =
      ["q"] ∧
    ((empty "b").reduceAll [askedInPayload, askedInField]).taskApprovals "t" ≠
      ((empty "b").reduceAll [askedInPayload, askedInField]).approvalsNaming "t" := by
  obtain ⟨-, -, -, all⟩ :=
    taskApprovals_exact ((empty "b").reduceAll [askedInPayload, askedInField]) "t"
  refine ⟨by decide, by decide, fun same => ?_⟩
  exact absurd (all.mp same) (by decide)

end BoardState

end LiveBoard
