import LiveBoard.Proofs.Board.Replay
import LiveBoard.Proofs.Board.Upserting

/-! What each action that a feed brings changes of a board, and what of the board it goes by. -/

namespace LiveBoard

section Named

variable {patch : Patch} {id : String} (named : patch.id? = some id)
include named

/-- A patch puts the task that it makes of the first one of its identifier. -/
theorem Task.upsert_of_named (agents : List Agent) (tasks : List Task) :
    (Task.merging agents).upsert patch tasks =
      ((Task.merging agents).merge patch id (tasks.find? (·.id = id))).map
        fun task => Keyed.put Task.id task tasks :=
  (Task.merging_lawful agents).upsert_of_named named tasks

/-- A patch puts the agent that it makes of the first one of its identifier. -/
theorem Agent.upsert_of_named (agents : List Agent) :
    Agent.merging.upsert patch agents =
      (Agent.merging.merge patch id (agents.find? (·.id = id))).map
        fun agent => Keyed.put Agent.id agent agents :=
  Agent.merging_lawful.upsert_of_named named agents

/-- A patch makes a task of the identifier that it names. -/
theorem Task.id_merge {agents : List Agent} {held : Option Task} {task : Task}
    (made : (Task.merging agents).merge patch id held = .ok task) : task.id = id :=
  (Task.merging_lawful agents).idOf_merge named made

/-- A patch makes an agent of the identifier that it names. -/
theorem Agent.id_merge {held : Option Agent} {agent : Agent}
    (made : Agent.merging.merge patch id held = .ok agent) : agent.id = id :=
  Agent.merging_lawful.idOf_merge named made

end Named

namespace TaskCounts

/-- A task with the counters that there are. -/
def update (counts : TaskCounts) (task : Task) : Task :=
  { task with
    approvalsCount := counts.approvalsCount.getD task.approvalsCount
    approvalsPendingCount := counts.approvalsPendingCount.getD task.approvalsPendingCount }

/-- Counters leave the identifier of a task as it is. -/
@[simp] theorem update_id (counts : TaskCounts) (task : Task) :
    (counts.update task).id = task.id := rfl

/-- Tasks of which one has the counters of a frame, if the frame names it. -/
def counted (counts : Option TaskCounts) (tasks : List Task) : List Task :=
  match counts.bind named? with
  | some (taskId, counts) => BoardState.replaceFirst (·.id = taskId) counts.update tasks
  | none => tasks

/-- To count the tasks by a frame is to make the one change that it names, if it names one. -/
theorem alterAll_named? (counts : Option TaskCounts) (tasks : List Task) :
    changes.alterAll tasks (counts.bind named?).toList = counted counts tasks := by
  -- Counters that name no task are a run without a change.
  unfold counted
  cases counts.bind named? with
  | none => rfl
  | some named =>
    obtain ⟨taskId, given⟩ := named
    exact alter_eq (by rintro task rfl; rfl) tasks

end TaskCounts

namespace BoardAction

/-- Whether an action loads a snapshot. -/
def loads : BoardAction → Bool
  | .snapshotLoaded _ => true
  | _ => false

/-- No feed brings a snapshot. -/
theorem IsStreamed.loads_eq_false {action : BoardAction} (streamed : action.IsStreamed) :
    action.loads = false := by
  obtain ⟨feed, brought⟩ := streamed
  -- The feeds are four, and none of them has a clause for snapshots.
  cases action with
  | snapshotLoaded snapshot => cases feed <;> cases brought
  | _ => rfl

end BoardAction

namespace BoardState

/-- What a step made, or what was there if it was refused. -/
def kept {α : Type} (held : α) : Except Refusal α → α
  | .ok made => made
  | .error _ => held

/-- Why a step was refused, if it was. -/
def refusal? {α : Type} : Except Refusal α → Option Refusal
  | .ok _ => none
  | .error refusal => some refusal

/-- A change after a step does not show in why the step was refused. -/
@[simp] theorem refusal?_map {α β : Type} (change : α → β) (made : Except Refusal α) :
    refusal? (made.map change) = refusal? made := by
  cases made <;> rfl

/-- The live feed with a comment in front, if the comment names a task. -/
def echo (comment : TaskComment) (feed : List TaskComment) : List TaskComment :=
  if comment.taskId.isSome then feedComment comment feed else feed

/-- A task that is moved keeps its identifier. -/
theorem moveTask_id (status : TaskStatus) (task : Task) : (moveTask status task).id = task.id := by
  -- In the inbox a task loses its assignee as well, and elsewhere nothing.
  unfold moveTask
  split <;> rfl

variable (state : BoardState)

/-- A patch of a task changes the tasks, by the agents that there are. -/
theorem reduce_taskUpserted (patch : Patch) :
    state.reduce (.taskUpserted patch) =
      let made := (Task.merging state.agents).upsert patch state.tasks
      ⟨{ state with tasks := kept state.tasks made }, refusal? made⟩ := by
  -- Whether the patch is merged or refused, both sides are read off the list that it makes.
  rw [reduce, upsertTask_eq]
  cases (Task.merging state.agents).upsert patch state.tasks <;> rfl

/-- A patch of an agent changes the agents. -/
theorem reduce_agentUpserted (patch : Patch) :
    state.reduce (.agentUpserted patch) =
      let made := Agent.merging.upsert patch state.agents
      ⟨{ state with agents := kept state.agents made }, refusal? made⟩ := by
  rw [reduce, upsertAgent_eq]
  cases Agent.merging.upsert patch state.agents <;> rfl

/-- An approval frame changes the approvals, and unless they refuse it the counters. -/
theorem reduce_approvalUpserted (approval : Option Patch) (counts : Option TaskCounts)
    (pending : Option UInt32) :
    state.reduce (.approvalUpserted approval counts pending) =
      let made := approved approval state.approvals
      ⟨{ state with
          approvals := kept state.approvals made
          tasks := kept state.tasks (made.map fun _ => TaskCounts.counted counts state.tasks)
          pendingApprovalsCount := kept state.pendingApprovalsCount
            (made.map fun _ => pending.getD state.pendingApprovalsCount) },
        refusal? made⟩ := by
  rw [reduce, receiveApproval_eq, TaskCounts.alterAll_named?]
  -- If the approvals refuse the frame, none of the three parts is replaced.
  cases approved approval state.approvals <;> rfl

/-- A comment changes the open thread and the live feed. -/
theorem reduce_commentReceived (comment : TaskComment) :
    state.reduce (.commentReceived comment) =
      ⟨{ state with
          detail := hear state.detail comment
          liveFeed := echo comment state.liveFeed }, none⟩ := by
  -- All that a comment changes is known but for the live feed, which is read off what it leaves.
  obtain ⟨feed, heard⟩ := exists_receiveComment state comment
  have shown : (state.receiveComment comment).liveFeed = echo comment state.liveFeed := by
    unfold receiveComment echo
    cases comment.taskId <;> rfl
  obtain rfl : feed = echo comment state.liveFeed := by
    rw [heard] at shown
    exact shown
  rw [reduce, heard]

/-- A message changes the chat. -/
theorem reduce_chatReceived (message : ChatMessage) :
    state.reduce (.chatReceived message) =
      ⟨{ state with chatMessages := say state.chatMessages message }, none⟩ := by
  rw [reduce, receiveChat_eq]

/-- But for a snapshot, an action leaves the board alone, and says its message in the chat. -/
theorem reduce_of_not_loads {action : BoardAction} (other : action.loads = false) :
    (state.reduce action).state.board = state.board ∧
      (state.reduce action).state.chatMessages =
        action.message?.toList.foldl say state.chatMessages := by
  -- Only a snapshot replaces the chat, and only a message adds to it.
  cases action with
  | snapshotLoaded snapshot => cases other
  | taskUpserted patch =>
    rw [reduce_taskUpserted]
    exact ⟨rfl, rfl⟩
  | agentUpserted patch =>
    rw [reduce_agentUpserted]
    exact ⟨rfl, rfl⟩
  | approvalUpserted approval counts pending =>
    rw [reduce_approvalUpserted]
    exact ⟨rfl, rfl⟩
  | commentReceived comment =>
    rw [reduce_commentReceived]
    exact ⟨rfl, rfl⟩
  | chatReceived message =>
    rw [reduce_chatReceived]
    exact ⟨rfl, rfl⟩
  | commentPosted comment =>
    -- A comment that names no task is dropped.
    simp only [reduce, postComment]
    cases comment.taskId <;> exact ⟨rfl, rfl⟩
  | taskOpened taskId =>
    -- A task that is not held is not opened.
    simp only [reduce, openTask]
    split <;> exact ⟨rfl, rfl⟩
  | _ => exact ⟨rfl, rfl⟩

/-- A patch of a task that is refused changes nothing. -/
theorem state_upsertTask {patch : Patch} (refused : (state.upsertTask patch).refusal ≠ none) :
    (state.upsertTask patch).state = state :=
  state_attempt refused

/-- A patch of an approval that is refused changes nothing. -/
theorem state_upsertApproval {patch : Patch}
    (refused : (state.upsertApproval patch).refusal ≠ none) :
    (state.upsertApproval patch).state = state :=
  state_attempt refused

/-- A patch of an agent that is refused changes nothing. -/
theorem state_upsertAgent {patch : Patch} (refused : (state.upsertAgent patch).refusal ≠ none) :
    (state.upsertAgent patch).state = state :=
  state_attempt refused

/-- A frame of an approval that is refused changes nothing, whatever else it carries. -/
theorem state_receiveApproval {approval : Option Patch} {counts : Option TaskCounts}
    {pending : Option UInt32}
    (refused : (state.receiveApproval approval counts pending).refusal ≠ none) :
    (state.receiveApproval approval counts pending).state = state := by
  cases approval with
  -- Counters alone are never refused.
  | none => exact absurd rfl refused
  | some patch =>
    unfold receiveApproval at refused ⊢
    -- The counters are applied only to a state that the patch was merged into.
    cases merged : (state.upsertApproval patch).refusal with
    | none => simp [merged] at refused
    | some refusal => simpa [merged] using state.state_upsertApproval (by simp [merged])

/-- An action that is refused changes nothing. -/
theorem reduce_of_refused {state : BoardState} {action : BoardAction}
    (refused : (state.reduce action).refusal ≠ none) : (state.reduce action).state = state := by
  -- The three kinds that merge a patch give back the state that they were given.
  cases action with
  | taskUpserted patch => exact state_upsertTask state refused
  | agentUpserted patch => exact state_upsertAgent state refused
  | approvalUpserted approval counts pending => exact state_receiveApproval state refused
  -- No action of another kind is ever refused.
  | _ => exact absurd rfl refused

end BoardState

end LiveBoard
