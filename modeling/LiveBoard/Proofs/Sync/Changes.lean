import LiveBoard.Proofs.Board.Effects
import LiveBoard.Sync.Mutation

/-!
The changes that are made through the server, as values, each with the sections that show its
failure, and what the steps that they share make of the error slots.
-/

namespace LiveBoard

/-- A change that is made through the server, by the type of what it returns. -/
inductive Change : Type → Type where
  | createTask (title : String) (description : Option String) (priority : TaskPriority) :
    Change Task
  | updateTask (taskId : String) (update : TaskUpdate) : Change Task
  | deleteTask (taskId : String) : Change Unit
  | moveTask (taskId : String) (status : TaskStatus) : Change Unit
  | decideApproval (approvalId : String) (status : ApprovalStatus) : Change Approval
  | openTask (taskId : String) : Change (List TaskComment)
  | postComment (message : String) : Change TaskComment
  | sendChat (content : String) : Change (Option ChatMessage)
  | loadSnapshot : Change Unit

namespace Change

variable {α : Type}

/-- Run a change up to its request, or to its end without one. -/
def start (boardId : String) : Change α → BoardStore → Mutation α
  | .createTask title description priority => .createTask boardId title description priority
  | .updateTask taskId update => .updateTask boardId taskId update
  | .deleteTask taskId => .deleteTask boardId taskId
  | .moveTask taskId status => .moveTask boardId taskId status
  | .decideApproval approvalId status => .decideApproval boardId approvalId status
  | .openTask taskId => .openTask boardId taskId
  | .postComment message => .postComment boardId message
  | .sendChat content => .sendChat boardId content
  | .loadSnapshot => .loadSnapshot boardId

/-- The sections that show the failure of a change. -/
def sections : Change α → List Section
  | .createTask .. => [.createTask]
  | .updateTask .. => [.saveTask]
  | .deleteTask _ => [.deleteTask]
  -- Moves have no section of their own.
  | .moveTask .. => [.board]
  | .decideApproval .. => [.approvals]
  | .openTask _ => [.comments]
  | .postComment _ => [.postComment]
  | .sendChat _ => [.chat]
  | .loadSnapshot => BoardState.snapshotSections

/-- The state that a change leaves when its request fails, but for the error. -/
def base (state : BoardState) : Change α → BoardState
  -- The task that is opened stays open without its thread.
  | .openTask taskId => state.openTask taskId
  | _ => state

end Change

namespace BoardState

variable {state : BoardState}

/-- Setting one error slot shows in that section and in no other. -/
theorem error?_setError (part other : Section) (slot : Option String) :
    (state.setError part slot).error? other = if part = other then slot else state.error? other :=
  SectionErrors.get_set state.errors part other slot

/-- Setting the slots of some sections alike shows in these and in no other. -/
theorem error?_foldl_setError (slot : Option String) (parts : List Section) (other : Section) :
    (parts.foldl (fun state part => state.setError part slot) state).error? other =
      if other ∈ parts then slot else state.error? other := by
  -- Section by section, each of which sets one slot.
  induction parts generalizing state with
  | nil => simp
  | cons part parts ih =>
    rw [List.foldl_cons, ih, error?_setError]
    -- Setting a slot twice to the same is setting it once.
    by_cases same : part = other
    · simp [same]
    · simp [same, Ne.symm same]

/-- The state with the same error in the slots of some sections. -/
def failIn (message : String) (parts : List Section) (state : BoardState) : BoardState :=
  parts.foldl (fun state part => state.setError part (some message)) state

/-- An error in the slots of some sections shows there, and leaves all other slots as they were. -/
theorem error?_failIn (message : String) (parts : List Section) (other : Section) :
    (state.failIn message parts).error? other =
      if other ∈ parts then some message else state.error? other :=
  error?_foldl_setError (some message) parts other

/-- The state with other error slots. -/
def withErrors (state : BoardState) (errors : SectionErrors) : BoardState :=
  { state with errors := errors }

/-- An error in the slots of some sections changes nothing but error slots. -/
theorem withErrors_failIn (message : String) (parts : List Section) (errors : SectionErrors) :
    (state.failIn message parts).withErrors errors = state.withErrors errors := by
  unfold failIn
  -- Each slot that is set is overwritten in the end.
  induction parts generalizing state with
  | nil => rfl
  | cons part parts ih =>
    rw [List.foldl_cons, ih]
    rfl

end BoardState

/-- Whether an action fills or empties error slots. -/
def BoardAction.marks : BoardAction → Bool
  | .snapshotLoaded _ | .snapshotFailed _ | .taskOpened _ | .taskClosed | .sectionFailed _ _
  | .sectionCleared _ => true
  | _ => false

namespace BoardState

/-- Actions of all other kinds leave the error slots as they are, accepted or refused. -/
theorem errors_reduce (state : BoardState) {action : BoardAction}
    (unmarked : action.marks = false) : (state.reduce action).state.errors = state.errors := by
  -- Kind by kind: each changes parts of the board that error slots are no part of.
  cases action with
  | taskUpserted patch => rw [reduce_taskUpserted]
  | approvalUpserted approval counts pending => rw [reduce_approvalUpserted]
  | agentUpserted patch => rw [reduce_agentUpserted]
  | commentReceived comment => rw [reduce_commentReceived]
  | chatReceived message => rw [reduce_chatReceived]
  | commentPosted comment =>
    -- A comment that names no task is dropped.
    simp only [reduce, postComment]
    cases comment.taskId <;> rfl
  | taskRemoved taskId => rfl
  | taskStatusChanged taskId status => rfl
  | tasksRestored tasks => rfl
  | commentsLoaded taskId comments => rfl
  | _ => cases unmarked

end BoardState

/-- A store is left as it is by an action that is refused. -/
theorem BoardStore.dispatch_eq (store : BoardStore) (action : BoardAction) :
    (∃ refusal, store.dispatch action = (store, .error refusal)) ∨
      store.dispatch action = (store.apply action, .ok ()) := by
  -- A refused action leaves its state beside the refusal, which is the one it was given.
  cases refused : (store.state.reduce action).refusal with
  | none => exact .inr (by simp only [apply, dispatch, refused])
  | some refusal =>
    have same : (store.state.reduce action).state = store.state :=
      BoardState.reduce_of_refused (by simp [refused])
    exact .inl ⟨refusal, by simp only [dispatch, refused, same]⟩

/-- A store keeps its error slots when an action is applied that fills or empties none. -/
theorem BoardStore.errors_apply {store : BoardStore} {action : BoardAction}
    (unmarked : action.marks = false) : (store.apply action).state.errors = store.state.errors := by
  rw [apply_state, BoardState.errors_reduce store.state unmarked]

namespace Mutation

variable {α : Type}

/-- Whether a change makes a request. -/
def asks : Mutation α → Bool
  | .finished _ _ => false
  | .asking _ _ _ => true

/-- The store as it is when a change gets its answer, or from the start if it asks for none. -/
def heard (before : BoardStore)
    (answer : {β : Type} → Call β → BoardStore → BoardStore × Except ApiError β) :
    Mutation α → BoardStore
  | .finished _ _ => before
  | .asking store call _ => (answer call store).1

/-- A server that answers each call at once, before anything else happens to the board. -/
def promptly (reply : {β : Type} → Call β → Except ApiError β) {β : Type} (call : Call β)
    (store : BoardStore) : BoardStore × Except ApiError β :=
  (store, reply call)

/-- An action that is refused ends a change where it stands, and any other one is gone on from. -/
theorem confirm_eq (action : BoardAction) (store : BoardStore)
    (next : BoardStore → BoardStore × Except SyncError α) :
    (∃ refusal, confirm action store next = (store, .error (.refused refusal))) ∨
      confirm action store next = next (store.apply action) := by
  rcases store.dispatch_eq action with ⟨refusal, refused⟩ | accepted
  · -- What is to follow is reached only past the action.
    exact .inl ⟨refusal, by simp only [confirm, refused]⟩
  · exact .inr (by simp only [confirm, accepted])

section Success

variable {action : BoardAction} {store after : BoardStore} {value : α}
  {next : BoardStore → BoardStore × Except SyncError α}

/-- What goes on from an action to a success goes on from what the action made. -/
theorem confirm_eq_ok (confirmed : confirm action store next = (after, .ok value)) :
    (store.state.reduce action).refusal = none ∧
      next (store.apply action) = (after, .ok value) := by
  cases refused : (store.state.reduce action).refusal with
  | none =>
    -- The store holds what the action made, whether it is dispatched or applied.
    simp only [confirm, BoardStore.dispatch, refused] at confirmed
    exact ⟨rfl, by simpa only [BoardStore.apply, BoardStore.dispatch, refused] using confirmed⟩
  -- A change that is refused does not succeed.
  | some refusal => simp [confirm, BoardStore.dispatch, refused] at confirmed

end Success

end Mutation

end LiveBoard
