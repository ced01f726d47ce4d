import LiveBoard.Proofs.Sync.Changes
import LiveBoard.Proofs.Sync.Rollback

/-!
A change whose request fails leaves nothing behind but the error in its own sections.

A move, which shows ahead of its request, is taken back with its whole list of tasks. The task that
is opened for its thread stays open without it.
-/

namespace LiveBoard

namespace Mutation

variable {α : Type}

/-- A change that, when its request fails at once, leaves a state but for the error in sections. -/
def Withdraws (base : BoardState) (parts : List Section) : Mutation α → Prop
  | .finished _ _ => True
  | .asking asked _ resume => ∀ error : ApiError,
    (resume asked (.error error)).1.state = base.failIn error.message parts ∧
      (resume asked (.error error)).2 = .error (.api error)

/-- A failure that is shown in one section changes nothing else. -/
theorem fail_api (part : Section) (error : ApiError) (store : BoardStore) :
    (fail (α := α) part (.api error) store).1.state = store.state.failIn error.message [part] ∧
      (fail (α := α) part (.api error) store).2 = .error (.api error) :=
  ⟨rfl, rfl⟩

section Withdraws

variable (boardId : String) (store : BoardStore)

/-- The creation of a task is withdrawn when its request fails. -/
theorem withdraws_createTask (title : String) (description : Option String)
    (priority : TaskPriority) :
    (createTask boardId title description priority store).Withdraws store.state [.createTask] := by
  unfold createTask
  -- A blank title is refused before anything is asked.
  split
  · trivial
  · exact fun error => fail_api .createTask error store

/-- The edit of a task is withdrawn when its request fails. -/
theorem withdraws_updateTask (taskId : String) (update : TaskUpdate) :
    (updateTask boardId taskId update store).Withdraws store.state [.saveTask] := by
  unfold updateTask
  -- A faulty edit, or one of a task that is not held, is refused before anything is asked.
  split
  · trivial
  · split
    · trivial
    · exact fun error => fail_api .saveTask error store

/-- A move is taken back when its request fails. -/
theorem withdraws_moveTask (taskId : String) (status : TaskStatus) :
    (moveTask boardId taskId status store).Withdraws store.state [.board] := by
  unfold moveTask
  split
  · trivial
  · split
    · trivial
    · intro error
      -- The move changed the tasks alone, which are put back as they were before it.
      have restored : ((store.apply (.taskStatusChanged taskId status)).apply
          (.tasksRestored store.state.tasks)).state = store.state := by
        rw [BoardStore.apply_state, BoardStore.apply_state]
        rfl
      have failed := fail_api (α := Unit) .board error
        ((store.apply (.taskStatusChanged taskId status)).apply (.tasksRestored store.state.tasks))
      rw [restored] at failed
      exact failed

/-- The thread of a task that was opened stays empty when its request fails. -/
theorem withdraws_openTask (taskId : String) :
    (openTask boardId taskId store).Withdraws (store.state.openTask taskId) [.comments] := by
  unfold openTask
  -- What it is compared with is the board on which the task is open, with an empty thread.
  split
  · trivial
  · exact fun error => fail_api .comments error (store.apply (.taskOpened taskId))

/-- A comment is withdrawn when its request fails. -/
theorem withdraws_postComment (message : String) :
    (postComment boardId message store).Withdraws store.state [.postComment] := by
  unfold postComment
  -- A comment needs an open task and a text before anything is asked.
  split
  · trivial
  · split
    · trivial
    · exact fun error => fail_api .postComment error store

/-- A message is withdrawn when its request fails. -/
theorem withdraws_sendChat (content : String) :
    (sendChat boardId content store).Withdraws store.state [.chat] := by
  unfold sendChat
  -- A message of blanks is not sent.
  split
  · trivial
  · exact fun error => fail_api .chat error store

/-- Every change is withdrawn when its request fails. -/
theorem withdraws_start (change : Change α) :
    (change.start boardId store).Withdraws (change.base store.state) change.sections := by
  -- For three changes all that happens before the answer is the request.
  cases change with
  | createTask title description priority =>
    exact withdraws_createTask boardId store title description priority
  | updateTask taskId update => exact withdraws_updateTask boardId store taskId update
  | deleteTask taskId => exact fun error => fail_api .deleteTask error store
  | moveTask taskId status => exact withdraws_moveTask boardId store taskId status
  | decideApproval approvalId status => exact fun error => fail_api .approvals error store
  | openTask taskId => exact withdraws_openTask boardId store taskId
  | postComment message => exact withdraws_postComment boardId store message
  | sendChat content => exact withdraws_sendChat boardId store content
  | loadSnapshot => exact fun error => ⟨rfl, rfl⟩

end Withdraws

end Mutation

/--
A change whose request fails, with nothing else in between, leaves the board as it was before.

All that differs are the error slots of the sections of the change, which hold the message. What is
compared with is the board before the change, a failed move included; for the opening of a task it
is the board right after the opening.
-/
theorem Change.run_rejected {α : Type} {change : Change α} {boardId : String} {store : BoardStore}
    (asks : (change.start boardId store).asks) (error : ApiError) :
    let before := change.base store.state
    let final := (change.start boardId store).run (Mutation.rejectAfter [] error)
    final.1.state.withErrors before.errors = before ∧
      (∀ part, final.1.state.error? part =
        if part ∈ change.sections then some error.message else before.error? part) ∧
      final.2 = .error (.api error) := by
  intro before final
  obtain ⟨left, returned⟩ : final.1.state = before.failIn error.message change.sections ∧
      final.2 = .error (.api error) := by
    have withdraws := Mutation.withdraws_start boardId store change
    simp only [final]
    -- A change that ends without a request has no answer to fail.
    cases started : change.start boardId store with
    | finished asked result => simp [started, Mutation.asks] at asks
    | asking asked call resume =>
      rw [started] at withdraws
      exact withdraws error
  refine ⟨?_, fun part => ?_, returned⟩
  · rw [left]
    exact BoardState.withErrors_failIn error.message change.sections before.errors
  · rw [left]
    exact BoardState.error?_failIn error.message change.sections part

/-- A board of one task that is assigned, counted and open, with an error in the chat. -/
def busyBoard : BoardStore :=
  ⟨{ BoardState.empty "b" with
    tasks := [{ Task.schema.blank with
      id := "t", status := .review, assignedAgentId := some "a", assignee := some "Ada"
      approvalsCount := 2 }]
    detail := some ⟨"t", [⟨"c", some "t", none, some "done?", default⟩]⟩
    errors := { SectionErrors.empty with chat := some "Unexpected HTTP 500 from board chat" } }, 0⟩

/-- A move to the inbox that fails gives the task its assignee back, and leaves the rest alone. -/
theorem Change.run_rejected_movedBack :
    let error := ApiError.unexpectedStatus "task update" 409
    let final := ((Change.moveTask "t" .inbox).start "b" busyBoard).run
      (Mutation.rejectAfter [] error)
    ((Change.moveTask "t" .inbox).start "b" busyBoard).asks ∧
      final.1.state.tasks = busyBoard.state.tasks ∧
      final.1.state.detail = busyBoard.state.detail ∧
      final.1.state.error? .board = some "Unexpected HTTP 409 from task update" ∧
      final.1.state.error? .chat = some "Unexpected HTTP 500 from board chat" := by
  intro error final
  have asks : ((Change.moveTask "t" .inbox).start "b" busyBoard).asks := by decide
  obtain ⟨same, slots, -⟩ := Change.run_rejected asks error
  -- The slot of the move holds the text of the error, and that of the chat what it held before.
  exact ⟨asks, (congrArg BoardState.tasks same :), (congrArg BoardState.detail same :),
    slots .board, slots .chat⟩

end LiveBoard
