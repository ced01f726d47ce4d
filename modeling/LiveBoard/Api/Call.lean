import LiveBoard.Board.Patch

/-! The calls that the server of a board answers. -/

namespace LiveBoard

/-- A task to be created. -/
structure NewTask where
  title : String
  description : Option String
  status : TaskStatus
  priority : TaskPriority
  deriving DecidableEq

/-- A task to be created, as JSON. -/
def NewTask.encode (task : NewTask) : Json :=
  .object [("title", .string task.title), ("description", .ofText? task.description),
    ("status", .string task.status.name), ("priority", .string task.priority.name)]

/--
A change of some fields of a task.

A field that is absent is left alone, and a nullable field may be changed to null.
-/
structure TaskUpdate where
  title : Option String
  description : Option (Option String)
  status : Option TaskStatus
  priority : Option TaskPriority
  assignedAgentId : Option (Option String)
  deriving DecidableEq

namespace TaskUpdate

/-- The change of nothing. -/
def none : TaskUpdate := ⟨.none, .none, .none, .none, .none⟩

/-- The change of the column alone. -/
def ofStatus (status : TaskStatus) : TaskUpdate := { none with status := some status }

/-- Whether a change leaves every field alone. -/
def isEmpty (update : TaskUpdate) : Bool := update = none

/-- A change as JSON, with a member for each field that it names. -/
def encode (update : TaskUpdate) : Json :=
  .object ([
    -- Null is a value to change to, so a field that is left alone must not be sent at all.
    update.title.map fun title => ("title", Json.string title),
    update.description.map fun description => ("description", .ofText? description),
    update.status.map fun status => ("status", .string status.name),
    update.priority.map fun priority => ("priority", .string priority.name),
    update.assignedAgentId.map fun agent => ("assigned_agent_id", .ofText? agent)].filterMap id)

end TaskUpdate

/-- A message to be sent. -/
structure NewMessage where
  content : String
  tags : List String
  deriving DecidableEq

/-- A message to be sent, as JSON. -/
def NewMessage.encode (message : NewMessage) : Json :=
  .object [("content", .string message.content), ("tags", .array (message.tags.map .string))]

/-- What a request asks of the server. -/
inductive Method where
  | get
  | post
  | patch
  | delete
  deriving DecidableEq

/-- The name of a method on the wire. -/
def Method.name : Method → String
  | .get => "GET"
  | .post => "POST"
  | .patch => "PATCH"
  | .delete => "DELETE"

/-- A call, by the type of its answer. -/
inductive Call : Type → Type where
  | snapshot (boardId : String) : Call Snapshot
  | createTask (boardId : String) (task : NewTask) : Call Patch
  | updateTask (boardId taskId : String) (update : TaskUpdate) : Call Patch
  | deleteTask (boardId taskId : String) : Call Unit
  | listComments (boardId taskId : String) : Call (List TaskComment)
  | createComment (boardId taskId message : String) : Call TaskComment
  | decideApproval (boardId approvalId : String) (status : ApprovalStatus) : Call Patch
  | sendChat (boardId : String) (message : NewMessage) : Call ChatMessage

namespace Call

/-- What a call is about, as messages name it. -/
def topic {α : Type} : Call α → String
  | .snapshot _ => "board snapshot"
  | .createTask .. => "task create"
  | .updateTask .. => "task update"
  | .deleteTask .. => "task delete"
  | .listComments .. => "task comments"
  | .createComment .. => "task comment"
  | .decideApproval .. => "approval update"
  | .sendChat .. => "board chat"

/-- The method of a call. -/
def method {α : Type} : Call α → Method
  | .snapshot _ | .listComments .. => .get
  | .createTask .. | .createComment .. | .sendChat .. => .post
  | .updateTask .. | .decideApproval .. => .patch
  | .deleteTask .. => .delete

/-- The path of what belongs to a board. -/
def boardPath (boardId rest : String) : String :=
  -- Identifiers are put into the path as they are.
  "/api/v1/boards/" ++ boardId ++ rest

/-- The path of a call. -/
def path {α : Type} : Call α → String
  | .snapshot boardId => boardPath boardId "/snapshot"
  | .createTask boardId _ => boardPath boardId "/tasks"
  | .updateTask boardId taskId _ | .deleteTask boardId taskId =>
    boardPath boardId ("/tasks/" ++ taskId)
  | .listComments boardId taskId | .createComment boardId taskId _ =>
    boardPath boardId ("/tasks/" ++ taskId ++ "/comments")
  | .decideApproval boardId approvalId _ => boardPath boardId ("/approvals/" ++ approvalId)
  -- Chat is the part of the board's memory that is tagged so.
  | .sendChat boardId _ => boardPath boardId "/memory"

/-- The body of a call. -/
def body {α : Type} : Call α → Option Json
  | .createTask _ task => some task.encode
  | .updateTask _ _ update => some update.encode
  | .createComment _ _ message => some (.object [("message", .string message)])
  | .decideApproval _ _ status => some (.object [("status", .string status.name)])
  | .sendChat _ message => some message.encode
  | .snapshot _ | .deleteTask .. | .listComments .. => none

end Call

end LiveBoard
