import LiveBoard.Api.Call
import LiveBoard.Board.Store
import LiveBoard.Sync.Error
import LiveBoard.Text.Blank

/-!
Changes to the board that the server has to confirm.

A change runs up to its one request, and goes on from the answer with the local copy as it then is.
What the server confirms is taken in by the same actions as what the feeds say; only a comment that
was posted has an action of its own.
-/

namespace LiveBoard

open Text (nonBlank)

/-- A change that has run up to its request, or to its end without one. -/
inductive Mutation (α : Type) : Type 1 where
  | finished (store : BoardStore) (result : Except SyncError α)
  | asking {β : Type} (store : BoardStore) (call : Call β)
      (resume : BoardStore → Except ApiError β → BoardStore × Except SyncError α)

namespace Mutation

/-- Run a change against a server that may let other actions in before it answers. -/
def run {α : Type} (answer : {β : Type} → Call β → BoardStore → BoardStore × Except ApiError β) :
    Mutation α → BoardStore × Except SyncError α
  | .finished store result => (store, result)
  | .asking store call resume =>
    let (store, reply) := answer call store
    resume store reply

/-- Fail, with the message in the error slot of a section. -/
def fail {α : Type} (part : Section) (error : SyncError) (store : BoardStore) :
    BoardStore × Except SyncError α :=
  (store.apply (.sectionFailed part error.message), .error error)

/-- Apply an action, and fail without a trace in any section if it is refused. -/
def confirm {α : Type} (action : BoardAction) (store : BoardStore)
    (next : BoardStore → BoardStore × Except SyncError α) : BoardStore × Except SyncError α :=
  match store.dispatch action with
  | (store, .ok ()) => next store
  -- The server made the change, so no section shows it as failed.
  | (store, .error refusal) => (store, .error (.refused refusal))

/-- Clear the error slot of a section. -/
def clear (part : Section) (store : BoardStore) : BoardStore :=
  store.apply (.sectionCleared part)

/-- The stored task of an identifier. -/
def storedTask (taskId : String) (store : BoardStore) : Except SyncError Task :=
  match store.state.task? taskId with
  | some task => .ok task
  | none => .error (.taskNotFound taskId)

/-- Create a task in the inbox. -/
def createTask (boardId title : String) (description : Option String) (priority : TaskPriority)
    (store : BoardStore) : Mutation Task :=
  match nonBlank title with
  | none =>
    let (store, result) := fail .createTask (.input .titleMissing) store
    .finished store result
  | some title =>
    .asking store (.createTask boardId ⟨title, description.bind nonBlank, .inbox, priority⟩)
      fun store reply =>
        match reply with
        | .error error => fail .createTask (.api error) store
        | .ok created =>
          match created.id? with
          | none => (store, .error (.refused (.missingId .task)))
          | some id =>
            -- The stored task is returned, with the assignee and counters of the local copy.
            confirm (.taskUpserted created) store fun store =>
              let store := clear .createTask store
              (store, storedTask id store)

/-- The change that is sent: texts are trimmed, and a blank description is null. -/
def normalize (update : TaskUpdate) : Except InputFault TaskUpdate :=
  let description := update.description.map fun description => description.bind nonBlank
  match update.title with
  | none => .ok { update with description := description }
  | some title =>
    match nonBlank title with
    | none => .error .editedTitleMissing
    | some title => .ok { update with title := some title, description := description }

/-- Edit a task; its approval counters stay as they are held. -/
def updateTask (boardId taskId : String) (update : TaskUpdate) (store : BoardStore) :
    Mutation Task :=
  match normalize update with
  | .error fault =>
    let (store, result) := fail .saveTask (.input fault) store
    .finished store result
  | .ok update =>
    match storedTask taskId store with
    | .error error => .finished store (.error error)
    | .ok _ =>
      .asking store (.updateTask boardId taskId update) fun store reply =>
        match reply with
        | .error error => fail .saveTask (.api error) store
        | .ok updated =>
          confirm (.taskUpserted updated) store fun store =>
            let store := clear .saveTask store
            (store, storedTask taskId store)

/-- Delete a task. -/
def deleteTask (boardId taskId : String) (store : BoardStore) : Mutation Unit :=
  .asking store (.deleteTask boardId taskId) fun store reply =>
    match reply with
    | .error error => fail .deleteTask (.api error) store
    | .ok () =>
      confirm (.taskRemoved taskId) store fun store => (clear .deleteTask store, .ok ())

/--
Move a task to another column ahead of the server's answer.

When the server refuses, the task list is put back as it was before the move.
-/
def moveTask (boardId taskId : String) (status : TaskStatus) (store : BoardStore) : Mutation Unit :=
  match store.state.task? taskId with
  | none => .finished store (.ok ())
  | some task =>
    if task.status = status then .finished store (.ok ())
    else
      -- The list is kept as it is now, whatever comes in before the answer.
      let before := store.state.tasks
      .asking (store.apply (.taskStatusChanged taskId status))
        (.updateTask boardId taskId (.ofStatus status)) fun store reply =>
          match reply with
          | .ok updated => confirm (.taskUpserted updated) store fun store => (store, .ok ())
          -- Moves have no section of their own, so the board shows the error.
          | .error error => fail .board (.api error) (store.apply (.tasksRestored before))

/-- Approve or reject what an agent asked for. -/
def decideApproval (boardId approvalId : String) (status : ApprovalStatus) (store : BoardStore) :
    Mutation Approval :=
  .asking store (.decideApproval boardId approvalId status) fun store reply =>
    match reply with
    | .error error => fail .approvals (.api error) store
    | .ok decided =>
      -- The answer carries neither counters nor the number of pending approvals.
      confirm (.approvalUpserted (some decided) none none) store fun store =>
        let store := clear .approvals store
        (store,
          match store.state.approvals.find? (·.id = approvalId) with
          | some approval => .ok approval
          | none => .error (.refused (.missingId .approval)))

/-- Open a task and fetch its thread. -/
def openTask (boardId taskId : String) (store : BoardStore) : Mutation (List TaskComment) :=
  match storedTask taskId store with
  | .error error => .finished store (.error error)
  | .ok _ =>
    .asking (store.apply (.taskOpened taskId)) (.listComments boardId taskId) fun store reply =>
      match reply with
      | .error error => fail .comments (.api error) store
      | .ok comments =>
        confirm (.commentsLoaded taskId comments) store fun store => (store, .ok comments)

/-- Comment on the open task. -/
def postComment (boardId message : String) (store : BoardStore) : Mutation TaskComment :=
  match store.state.detail with
  | none => .finished store (.error .noOpenTask)
  | some detail =>
    match nonBlank message with
    | none =>
      let (store, result) := fail .postComment (.input .messageMissing) store
      .finished store result
    | some message =>
      .asking store (.createComment boardId detail.taskId message) fun store reply =>
        match reply with
        | .error error => fail .postComment (.api error) store
        | .ok created =>
          confirm (.commentPosted created) store fun store =>
            (clear .postComment store, .ok created)

/-- Send a message to the board's chat; blank text sends nothing. -/
def sendChat (boardId content : String) (store : BoardStore) : Mutation (Option ChatMessage) :=
  match nonBlank content with
  | none => .finished store (.ok none)
  | some content =>
    .asking store (.sendChat boardId ⟨content, [ChatMessage.chatTag]⟩) fun store reply =>
      match reply with
      | .error error => fail .chat (.api error) store
      | .ok created =>
        confirm (.chatReceived created) store fun store => (clear .chat store, .ok (some created))

/-- Fetch the snapshot and take it over. -/
def loadSnapshot (boardId : String) (store : BoardStore) : Mutation Unit :=
  .asking store (.snapshot boardId) fun store reply =>
    match reply with
    | .ok snapshot => confirm (.snapshotLoaded snapshot) store fun store => (store, .ok ())
    | .error error => (store.apply (.snapshotFailed error.message), .error (.api error))

end Mutation

end LiveBoard
