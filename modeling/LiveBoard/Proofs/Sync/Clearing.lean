import LiveBoard.Proofs.Sync.Changes

/-!
A change that succeeds clears the error that an earlier one left, unless it is a move.

All error slots stay as they were but for those that the change clears. For a move these are none,
so the board goes on showing the failure of an earlier move.
-/

namespace LiveBoard

/-- The sections of which a change clears the error when it succeeds. -/
def Change.cleared {α : Type} : Change α → List Section
  -- A move shows its failure on the board, and nothing but a snapshot takes it away.
  | .moveTask .. => []
  -- The thread that is opened starts without the errors of the one before.
  | .openTask _ => [.comments, .postComment]
  | change => change.sections

/-- Whether a change is a move. -/
def Change.moves {α : Type} : Change α → Bool
  | .moveTask .. => true
  | _ => false

/-- A change clears the sections that show its failure, unless it is a move. -/
theorem Change.mem_cleared_iff {α : Type} (change : Change α) {part : Section}
    (shown : part ∈ change.sections) : part ∈ change.cleared ↔ change.moves = false := by
  cases change with
  -- For all but two changes the sections shown and those cleared are the same list.
  | moveTask taskId status => simp [cleared, moves]
  | openTask taskId => simp_all [cleared, sections, moves]
  | _ => simp_all [cleared, moves]

namespace Mutation

variable {α : Type}

/-- A change that, where it succeeds at once, leaves all error slots but those that it clears. -/
def Clears (parts : List Section) (before : BoardStore) : Mutation α → Prop
  | .finished _ _ => True
  | .asking asked _ resume => ∀ {reply after value}, resume asked reply = (after, .ok value) →
    ∀ part, after.state.error? part = if part ∈ parts then none else before.state.error? part

section Outcomes

variable {action : BoardAction} {store after : BoardStore} {value : α}
  {next : BoardStore → BoardStore × Except SyncError α}

/-- A change that clears its section once its action is taken in leaves all other slots. -/
theorem error?_of_confirm_clear {part : Section} (unmarked : action.marks = false)
    (clears : ∀ later, (next later).1 = clear part later)
    (confirmed : confirm action store next = (after, .ok value)) (shown : Section) :
    after.state.error? shown = if shown ∈ [part] then none else store.state.error? shown := by
  obtain ⟨-, gone⟩ := confirm_eq_ok confirmed
  -- The action keeps every slot, so the last step alone decides.
  have left : after = clear part (store.apply action) := by rw [← clears, gone]
  have same : (store.apply action).state.error? shown = store.state.error? shown :=
    congrArg (·.get shown) (BoardStore.errors_apply unmarked)
  rw [left, clear, BoardStore.apply_state, BoardState.reduce, BoardState.error?_setError, same]
  simp only [List.mem_singleton, eq_comm]

end Outcomes

section Clears

variable (boardId : String) (store : BoardStore)

/-- The creation of a task clears the error of an earlier one. -/
theorem clears_createTask (title : String) (description : Option String)
    (priority : TaskPriority) :
    (createTask boardId title description priority store).Clears [.createTask] store := by
  unfold createTask
  -- A blank title is refused before anything is asked.
  split
  · trivial
  · intro reply after value succeeded
    cases reply with
    | error error => cases succeeded
    | ok created =>
      dsimp only at succeeded
      split at succeeded
      · cases succeeded
      · exact error?_of_confirm_clear rfl (fun later => rfl) succeeded

/-- The edit of a task clears the error of an earlier one. -/
theorem clears_updateTask (taskId : String) (update : TaskUpdate) :
    (updateTask boardId taskId update store).Clears [.saveTask] store := by
  unfold updateTask
  -- A faulty edit, or one of a task that is not held, is refused before anything is asked.
  split
  · trivial
  · split
    · trivial
    · intro reply after value succeeded
      cases reply with
      | error error => cases succeeded
      | ok updated => exact error?_of_confirm_clear rfl (fun later => rfl) succeeded

/-- The deletion of a task clears the error of an earlier one. -/
theorem clears_deleteTask (taskId : String) :
    (deleteTask boardId taskId store).Clears [.deleteTask] store := by
  -- A deletion asks at once, and only a confirmed one is a success.
  intro reply after value succeeded
  cases reply with
  | error error => cases succeeded
  | ok deleted => exact error?_of_confirm_clear rfl (fun later => rfl) succeeded

/-- A move clears no error. -/
theorem clears_moveTask (taskId : String) (status : TaskStatus) :
    (moveTask boardId taskId status store).Clears [] store := by
  unfold moveTask
  -- A move that has nothing to do asks nothing, and is not what this is about.
  split
  · trivial
  · split
    · trivial
    · intro reply after value succeeded part
      cases reply with
      | error error => cases succeeded
      | ok updated =>
        obtain rfl := congrArg Prod.fst (confirm_eq_ok succeeded).2
        -- Neither the move nor what confirms it concerns an error slot.
        have ahead : (store.apply (.taskStatusChanged taskId status)).state.errors =
            store.state.errors := BoardStore.errors_apply rfl
        have confirmed : ((store.apply (.taskStatusChanged taskId status)).apply
            (.taskUpserted updated)).state.errors = store.state.errors :=
          (BoardStore.errors_apply rfl).trans ahead
        exact congrArg (·.get part) confirmed

/-- A decision clears the error of an earlier one. -/
theorem clears_decideApproval (approvalId : String) (status : ApprovalStatus) :
    (decideApproval boardId approvalId status store).Clears [.approvals] store := by
  intro reply after value succeeded
  cases reply with
  | error error => cases succeeded
  | ok decided => exact error?_of_confirm_clear rfl (fun later => rfl) succeeded

/-- The opening of a task clears the errors of the thread that was open before. -/
theorem clears_openTask (taskId : String) :
    (openTask boardId taskId store).Clears [.comments, .postComment] store := by
  unfold openTask
  split
  · trivial
  · rename_i task held
    intro reply after value succeeded part
    cases reply with
    | error error => cases succeeded
    | ok comments =>
      obtain rfl := congrArg Prod.fst (confirm_eq_ok succeeded).2
      -- A thread is asked for only if its task is held.
      have known : (store.state.task? taskId).isSome := by
        unfold storedTask at held
        split at held
        · simp [*]
        · cases held
      -- The slots are emptied ahead of the request, and the thread that comes leaves them so.
      have same : ((store.apply (.taskOpened taskId)).apply
          (.commentsLoaded taskId comments)).state.errors =
            (store.apply (.taskOpened taskId)).state.errors := BoardStore.errors_apply rfl
      refine (congrArg (·.get part) same).trans ?_
      rw [BoardStore.apply_state, BoardState.reduce, BoardState.openTask, if_pos known]
      exact BoardState.error?_foldl_setError none [.comments, .postComment] part

/-- A comment clears the error of an earlier one. -/
theorem clears_postComment (message : String) :
    (postComment boardId message store).Clears [.postComment] store := by
  unfold postComment
  -- A comment needs an open task and a text before anything is asked.
  split
  · trivial
  · split
    · trivial
    · intro reply after value succeeded
      cases reply with
      | error error => cases succeeded
      | ok created => exact error?_of_confirm_clear rfl (fun later => rfl) succeeded

/-- A message clears the error of an earlier one. -/
theorem clears_sendChat (content : String) :
    (sendChat boardId content store).Clears [.chat] store := by
  unfold sendChat
  -- A message of blanks is not sent at all.
  split
  · trivial
  · intro reply after value succeeded
    cases reply with
    | error error => cases succeeded
    | ok created => exact error?_of_confirm_clear rfl (fun later => rfl) succeeded

/-- A snapshot clears the errors of all the sections that it fills. -/
theorem clears_loadSnapshot :
    (loadSnapshot boardId store).Clears BoardState.snapshotSections store := by
  intro reply after value succeeded part
  cases reply with
  | error error => cases succeeded
  | ok snapshot =>
    -- All slots that a snapshot fills are emptied by the action that loads it.
    obtain rfl := congrArg Prod.fst (confirm_eq_ok succeeded).2
    rw [BoardStore.apply_state]
    exact BoardState.error?_foldl_setError none BoardState.snapshotSections part

/-- Every change clears its sections and no other, and a move clears none. -/
theorem clears_start (change : Change α) :
    (change.start boardId store).Clears change.cleared store := by
  cases change with
  | createTask title description priority =>
    exact clears_createTask boardId store title description priority
  | updateTask taskId update => exact clears_updateTask boardId store taskId update
  | deleteTask taskId => exact clears_deleteTask boardId store taskId
  | moveTask taskId status => exact clears_moveTask boardId store taskId status
  | decideApproval approvalId status =>
    exact clears_decideApproval boardId store approvalId status
  | openTask taskId => exact clears_openTask boardId store taskId
  | postComment message => exact clears_postComment boardId store message
  | sendChat content => exact clears_sendChat boardId store content
  | loadSnapshot => exact clears_loadSnapshot boardId store

end Clears

end Mutation

/--
A change that makes its request and succeeds clears the errors of its sections, and no other.

Every slot is empty if the change clears it, and otherwise as it was before. So no section gains an
error, and a stale one is gone from the section that shows the failures of the change: from all but
the one of a move, which keeps whatever it held.
-/
theorem Change.errors_of_success {α : Type} {change : Change α} {boardId : String}
    {before after : BoardStore} {value : α} {reply : {β : Type} → Call β → Except ApiError β}
    (asks : (change.start boardId before).asks)
    (succeeded : (change.start boardId before).run (Mutation.promptly reply) = (after, .ok value)) :
    (∀ part, after.state.error? part =
      if part ∈ change.cleared then none else before.state.error? part) ∧
    ∀ part ∈ change.sections, after.state.error? part =
      if change.moves then before.state.error? part else none := by
  have slots : ∀ part, after.state.error? part =
      if part ∈ change.cleared then none else before.state.error? part := by
    have clears := Mutation.clears_start boardId before change
    -- A change that ends without a request is excluded by what is assumed.
    cases started : change.start boardId before with
    | finished store result => simp [started, Mutation.asks] at asks
    | asking asked call resume =>
      rw [started] at clears succeeded
      exact clears succeeded
  refine ⟨slots, fun part shown => ?_⟩
  rw [slots part]
  simp only [change.mem_cleared_iff shown]
  cases change.moves <;> rfl

/-- A board of one task, on which a move, a deletion and a message have failed before. -/
def failedBoard : BoardStore :=
  ⟨{ BoardState.empty "b" with
    tasks := [{ Task.schema.blank with id := "t" }]
    errors := { SectionErrors.empty with
      board := some "Unexpected HTTP 500 from task update"
      deleteTask := some "Unexpected HTTP 500 from task delete"
      chat := some "Unexpected HTTP 500 from board chat" } }, 0⟩

/-- A server that confirms changes and deletions of tasks, and refuses all else. -/
def confirming {β : Type} : Call β → Except ApiError β
  | .updateTask _ taskId _ => .ok [("id", .string taskId)]
  | .deleteTask .. => .ok ()
  | _ => .error .notSignedIn

/-- A move that succeeds leaves the error of an earlier one on the board. -/
theorem Change.not_forall_cleared :
    ¬ ∀ (α : Type) (change : Change α) (boardId : String) (before after : BoardStore) (value : α)
      (reply : {β : Type} → Call β → Except ApiError β),
      (change.start boardId before).asks →
      (change.start boardId before).run (Mutation.promptly reply) = (after, .ok value) →
      ∀ part ∈ change.sections, after.state.error? part = none := by
  intro cleared
  -- The move that failed before fails no more, and its error is still there.
  have gone := cleared Unit (.moveTask "t" .review) "b" failedBoard _ () confirming (by decide) rfl
    .board (by decide)
  exact absurd gone (by decide)

/-- A deletion that succeeds takes back its error and no other, and a move takes back none. -/
theorem Change.errors_of_success_failedBefore :
    (∃ after, ((Change.deleteTask "t").start "b" failedBoard).run
        (Mutation.promptly confirming) = (after, .ok ()) ∧
      after.state.error? .deleteTask = none ∧
      after.state.error? .chat = failedBoard.state.error? .chat) ∧
    ∃ after, ((Change.moveTask "t" .review).start "b" failedBoard).run
        (Mutation.promptly confirming) = (after, .ok ()) ∧
      ∀ part, after.state.error? part = failedBoard.state.error? part := by
  refine ⟨⟨_, rfl, ?_⟩, ⟨_, rfl, ?_⟩⟩
  · obtain ⟨slots, -⟩ := @Change.errors_of_success _ (.deleteTask "t") "b" failedBoard _ ()
      confirming (by decide) rfl
    exact ⟨slots .deleteTask, slots .chat⟩
  · obtain ⟨slots, -⟩ := @Change.errors_of_success _ (.moveTask "t" .review) "b" failedBoard _ ()
      confirming (by decide) rfl
    exact slots

end LiveBoard
