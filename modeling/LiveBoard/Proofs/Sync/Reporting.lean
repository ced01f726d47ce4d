import LiveBoard.Proofs.Sync.Changes

/-!
Which failures of a change its sections show.

An error of the server, or of the input, is noted in the sections of the change. A task that is not
held, a thread that is not open and an answer that is refused are returned alone: all error slots
stay as they were when the answer came, but for one of the change that may have been emptied.
-/

namespace LiveBoard

/-- Whether a failure is noted in the sections of the change that fails. -/
def SyncError.isNoted : SyncError → Bool
  | .api _ | .input _ => true
  | .taskNotFound _ | .noOpenTask | .refused _ => false

namespace Mutation

variable {α : Type}

/--
If an outcome is a failure, the failure shows in sections or else nowhere.

One that shows nowhere leaves the slots as a store had them, or those of the sections empty.
-/
def Reports (parts : List Section) (heard : BoardStore)
    (outcome : BoardStore × Except SyncError α) : Prop :=
  ∀ error, outcome.2 = .error error →
    if error.isNoted then ∀ part ∈ parts, outcome.1.state.error? part = some error.message
    else ∀ part, outcome.1.state.error? part = heard.state.error? part ∨
      (part ∈ parts ∧ outcome.1.state.error? part = none)

section Outcomes

variable {parts : List Section} {part : Section} {heard store : BoardStore}
  {result : Except SyncError α}

/-- What succeeds reports nothing. -/
theorem reports_ok (value : α) : Reports parts heard (store, .ok value) := nofun

/-- A failure that is noted shows in its section. -/
theorem reports_fail {error : SyncError} (noted : error.isNoted) :
    Reports (α := α) [part] heard (fail part error store) := by
  intro other returned
  obtain rfl : error = other := by simpa [fail] using returned
  rw [if_pos noted]
  intro shown member
  obtain rfl := List.mem_singleton.mp member
  -- The error is the last that happens to the slot.
  simp only [fail, BoardStore.apply_state, BoardState.reduce, BoardState.error?_setError, if_true]

/-- A failure that is not noted may leave all slots as they were. -/
theorem reports_alone {error : SyncError} (unnoted : error.isNoted = false) :
    Reports (α := α) parts heard (heard, .error error) := by
  intro other returned
  obtain rfl := Except.error.inj returned
  rw [unnoted, if_neg Bool.false_ne_true]
  exact fun shown => .inl rfl

/-- A failure that is not noted may leave the slot of its section empty. -/
theorem reports_clear (unnoted : ∀ error, result = .error error → error.isNoted = false)
    (same : store.state.errors = heard.state.errors) :
    Reports [part] heard (clear part store, result) := by
  intro error returned
  rw [unnoted error returned, if_neg Bool.false_ne_true]
  -- The slot of the section is emptied, and all others are left as they were.
  intro shown
  simp only [clear, BoardStore.apply_state, BoardState.reduce, BoardState.error?_setError]
  by_cases own : part = shown
  · exact .inr (by simp [own])
  · rw [if_neg own]
    exact .inl (congrArg (·.get shown) same)

/-- An action that is refused leaves no trace, so what counts is what follows when it is not. -/
theorem reports_confirm {action : BoardAction}
    {next : BoardStore → BoardStore × Except SyncError α}
    (after : Reports parts store (next (store.apply action))) :
    Reports parts store (confirm action store next) := by
  rcases confirm_eq action store next with ⟨refusal, refused⟩ | gone
  · -- A refusal is returned with the store as it was, so every slot is as it was.
    rw [refused]
    exact reports_alone rfl
  · rw [gone]
    exact after

/-- What is looked up after an action was confirmed may fail, with the slot of the section empty. -/
theorem reports_lookup {action : BoardAction} (found : BoardStore → Except SyncError α)
    (unmarked : action.marks = false)
    (unnoted : ∀ store error, found store = .error error → error.isNoted = false) :
    Reports [part] store (confirm action store fun store =>
      (clear part store, found (clear part store))) :=
  reports_confirm (reports_clear (unnoted _) (BoardStore.errors_apply unmarked))

/-- A task that is not held is not noted in any section. -/
theorem isNoted_storedTask (taskId : String) (store : BoardStore) (error : SyncError)
    (returned : storedTask taskId store = .error error) : error.isNoted = false := by
  unfold storedTask at returned
  -- The only failure of a look-up is that there is no such task.
  split at returned
  · cases returned
  · obtain rfl := Except.error.inj returned
    rfl

end Outcomes

/-- A change of which every failure shows in sections, or else nowhere. -/
def Noting (parts : List Section) (before : BoardStore) : Mutation α → Prop
  | .finished store result => Reports parts before (store, result)
  | .asking _ _ resume => ∀ heard reply, Reports parts heard (resume heard reply)

/-- Whatever the answer, and whatever comes before it, a change reports its failure. -/
theorem Noting.run {parts : List Section} {before : BoardStore} {mutation : Mutation α}
    (noting : mutation.Noting parts before)
    (answer : {β : Type} → Call β → BoardStore → BoardStore × Except ApiError β) :
    Reports parts (mutation.heard before answer) (mutation.run answer) := by
  cases mutation with
  | finished store result => exact noting
  | asking store call resume => exact noting (answer call store).1 (answer call store).2

section Noting

variable (boardId : String) (store : BoardStore)

/-- The creation of a task reports its failures, but for an answer that is of no use. -/
theorem noting_createTask (title : String) (description : Option String)
    (priority : TaskPriority) :
    (createTask boardId title description priority store).Noting [.createTask] store := by
  unfold createTask
  split
  · exact reports_fail rfl
  · intro heard reply
    -- A rejection by the server is noted in the one section of the change.
    cases reply with
    | error error => exact reports_fail rfl
    | ok created =>
      -- The answer has to name a task, has to be merged, and then the task has to be held.
      dsimp only
      split
      · exact reports_alone rfl
      · exact reports_lookup _ rfl (isNoted_storedTask _)

/-- An edit reports its failures, but for a task that is not held or an answer that is refused. -/
theorem noting_updateTask (taskId : String) (update : TaskUpdate) :
    (updateTask boardId taskId update store).Noting [.saveTask] store := by
  -- The edit is checked before the task is looked up, and only a fault of the edit is noted.
  unfold updateTask
  split
  · exact reports_fail rfl
  · split
    · rename_i error missing
      exact reports_alone (isNoted_storedTask taskId store error missing)
    · intro heard reply
      cases reply with
      | error error => exact reports_fail rfl
      | ok updated =>
        exact reports_lookup _ rfl (isNoted_storedTask _)

/-- The deletion of a task reports all its failures. -/
theorem noting_deleteTask (taskId : String) :
    (deleteTask boardId taskId store).Noting [.deleteTask] store := by
  intro heard reply
  cases reply with
  | error error => exact reports_fail rfl
  | ok deleted => exact reports_confirm (reports_ok ())

/-- A move reports its failures, but for an answer that is refused. -/
theorem noting_moveTask (taskId : String) (status : TaskStatus) :
    (moveTask boardId taskId status store).Noting [.board] store := by
  -- A task that is not held, or is in the column already, is no failure.
  unfold moveTask
  split
  · exact reports_ok ()
  · split
    · exact reports_ok ()
    · intro heard reply
      cases reply with
      | error error => exact reports_fail rfl
      | ok updated => exact reports_confirm (reports_ok ())

/-- A decision reports its failures, but for an answer refused or an approval that is not held. -/
theorem noting_decideApproval (approvalId : String) (status : ApprovalStatus) :
    (decideApproval boardId approvalId status store).Noting [.approvals] store := by
  intro heard reply
  cases reply with
  | error error => exact reports_fail rfl
  | ok decided =>
    refine reports_confirm (reports_clear (fun error returned => ?_)
      (BoardStore.errors_apply rfl))
    -- The approval is looked up under the identifier that was asked for, not that of the answer.
    split at returned
    · cases returned
    · obtain rfl := Except.error.inj returned
      rfl

/-- The opening of a task reports its failures, but for a task that is not held. -/
theorem noting_openTask (taskId : String) :
    (openTask boardId taskId store).Noting [.comments] store := by
  unfold openTask
  split
  · rename_i error missing
    -- Looking the task up comes before any slot is touched.
    exact reports_alone (isNoted_storedTask taskId store error missing)
  · intro heard reply
    cases reply with
    | error error => exact reports_fail rfl
    | ok comments => exact reports_confirm (reports_ok comments)

/-- A comment reports its failures, but for the want of an open task. -/
theorem noting_postComment (message : String) :
    (postComment boardId message store).Noting [.postComment] store := by
  unfold postComment
  split
  · exact reports_alone rfl
  · -- A blank text is a fault of the input, which is noted.
    split
    · exact reports_fail rfl
    · intro heard reply
      cases reply with
      | error error => exact reports_fail rfl
      | ok created => exact reports_confirm (reports_ok created)

/-- A message reports all its failures. -/
theorem noting_sendChat (content : String) :
    (sendChat boardId content store).Noting [.chat] store := by
  unfold sendChat
  split
  · exact reports_ok none
  · intro heard reply
    cases reply with
    | error error => exact reports_fail rfl
    | ok created => exact reports_confirm (reports_ok (some created))

/-- A snapshot reports its failure in each section that it would have filled. -/
theorem noting_loadSnapshot :
    (loadSnapshot boardId store).Noting BoardState.snapshotSections store := by
  intro heard reply
  cases reply with
  | error error =>
    -- One action fills the slots of all the sections.
    intro other returned
    obtain rfl := Except.error.inj returned
    intro part member
    have shown := @BoardState.error?_failIn heard.state error.message
      BoardState.snapshotSections part
    rw [if_pos member] at shown
    exact shown
  | ok snapshot => exact reports_confirm (reports_ok ())

/-- Every change shows its failures in its sections, or else nowhere. -/
theorem noting_start (change : Change α) :
    (change.start boardId store).Noting change.sections store := by
  cases change with
  | createTask title description priority =>
    exact noting_createTask boardId store title description priority
  | updateTask taskId update => exact noting_updateTask boardId store taskId update
  | deleteTask taskId => exact noting_deleteTask boardId store taskId
  | moveTask taskId status => exact noting_moveTask boardId store taskId status
  | decideApproval approvalId status => exact noting_decideApproval boardId store approvalId status
  | openTask taskId => exact noting_openTask boardId store taskId
  | postComment message => exact noting_postComment boardId store message
  | sendChat content => exact noting_sendChat boardId store content
  | loadSnapshot => exact noting_loadSnapshot boardId store

end Noting

end Mutation

/--
A change that fails shows the failure in its sections, or else nowhere.

Whatever the server answers, and whatever comes in before that, a failure of the server or of the
input is the error that the sections of the change hold in the end. Any other failure is returned
alone: each slot holds what it held when the answer came, or is one of the change and empty.
-/
theorem Change.reports_run {α : Type} {change : Change α} {boardId : String}
    {before after : BoardStore} {error : SyncError}
    {answer : {β : Type} → Call β → BoardStore → BoardStore × Except ApiError β}
    (failed : (change.start boardId before).run answer = (after, .error error)) :
    if error.isNoted then ∀ part ∈ change.sections, after.state.error? part = some error.message
    else
      let heard := (change.start boardId before).heard before answer
      ∀ part, after.state.error? part = heard.state.error? part ∨
        (part ∈ change.sections ∧ after.state.error? part = none) := by
  have reports := (Mutation.noting_start boardId before change).run answer
  rw [failed] at reports
  exact reports error rfl

/-- A server whose answer to a new task names no task, and that refuses all else. -/
def nameless {β : Type} (call : Call β) (store : BoardStore) : BoardStore × Except ApiError β :=
  match call with
  | .createTask .. => (store, .ok [("title", .string "One")])
  | _ => (store, .error .notSignedIn)

/-- An answer that names no task is returned as a failure that no section shows. -/
theorem Change.not_forall_noted :
    ¬ ∀ (α : Type) (change : Change α) (boardId : String) (before after : BoardStore)
      (error : SyncError)
      (answer : {β : Type} → Call β → BoardStore → BoardStore × Except ApiError β),
      (change.start boardId before).run answer = (after, .error error) →
      ∀ part ∈ change.sections, after.state.error? part = some error.message := by
  intro noted
  -- The section in which the failure belongs is still empty when it is returned.
  have shown := noted Task (.createTask "One" none .medium) "b" (.empty "b") (.empty "b")
    (.refused (.missingId .task)) nameless rfl .createTask (by decide)
  exact absurd shown (by decide)

/-- A deletion that is refused shows so, and a task that was created without a name does not. -/
theorem Change.reports_run_nameless :
    (∃ after, ((Change.deleteTask "t").start "b" (.empty "b")).run nameless =
        (after, .error (.api .notSignedIn)) ∧
      after.state.error? .deleteTask =
        some "Not signed in: configure an API token to access boards") ∧
    ∃ after, ((Change.createTask "One" none .medium).start "b" (.empty "b")).run nameless =
        (after, .error (.refused (.missingId .task))) ∧
      ∀ part, after.state.error? part = none := by
  refine ⟨⟨_, rfl, ?_⟩, ⟨_, rfl, fun part => ?_⟩⟩
  · exact @Change.reports_run _ (.deleteTask "t") "b" (.empty "b") _ _ nameless rfl .deleteTask
      (by decide)
  · have kept := @Change.reports_run _ (.createTask "One" none .medium) "b" (.empty "b") _ _
      nameless rfl part
    -- No slot was filled before the answer came.
    rcases kept with same | ⟨-, none⟩
    · rw [same]
      cases part <;> rfl
    · exact none

end LiveBoard
