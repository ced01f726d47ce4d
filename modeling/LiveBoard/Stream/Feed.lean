import LiveBoard.Board.Action
import LiveBoard.Json.Document
import LiveBoard.Stream.Frame

/-! The four live feeds of a board: where they connect and resume, and what their frames say. -/

namespace LiveBoard

/-- A live feed. -/
inductive Feed where
  | tasks
  | approvals
  | agents
  | chat
  deriving DecidableEq, Repr

/-- Where a feed connects, relative to the address of the server. -/
structure StreamRequest where
  path : String
  query : List (String × String)
  deriving DecidableEq

/-- The query of one attempt to connect, with the point to resume from at its end. -/
def StreamRequest.queryFrom (request : StreamRequest) (since : Option String) :
    List (String × String) :=
  request.query ++ (since.map fun instant => ("since", instant)).toList

/-- Why the data of a frame says nothing. -/
inductive FrameFault where
  | unreadable (fault : ReadFault)
  | undecodable (fault : Fault)
  deriving DecidableEq

/-- The data of a frame of the task feed. -/
structure TaskFrame where
  kind : Option String
  task : Option Patch
  comment : Option Patch

/-- The fields of a frame of the task feed. -/
def TaskFrame.schema : Schema TaskFrame where
  name := "TaskFrame"
  blank := ⟨none, none, none⟩
  fields := [
    .given "type" (.optional .text) (·.kind) fun value frame => { frame with kind := value },
    .given "task" (.optional .map) (·.task) fun value frame => { frame with task := value },
    .given "comment" (.optional .map) (·.comment)
      fun value frame => { frame with comment := value }]

/-- The data of a frame of the approval feed. -/
structure ApprovalFrame where
  approval : Option Patch
  counts : Option TaskCounts
  pending : Option UInt32

/-- The fields of a frame of the approval feed. -/
def ApprovalFrame.schema : Schema ApprovalFrame where
  name := "ApprovalFrame"
  blank := ⟨none, none, none⟩
  fields := [
    .given "approval" (.optional .map) (·.approval)
      fun value frame => { frame with approval := value },
    .given "task_counts" (.optional TaskCounts.schema.codec) (·.counts)
      fun value frame => { frame with counts := value },
    .given "pending_approvals_count" (.optional .count) (·.pending)
      fun value frame => { frame with pending := value }]

/-- The data of a frame of the agent feed. -/
structure AgentFrame where
  agent : Option Patch

/-- The fields of a frame of the agent feed. -/
def AgentFrame.schema : Schema AgentFrame where
  name := "AgentFrame"
  blank := ⟨none⟩
  fields := [
    .given "agent" (.optional .map) (·.agent) fun value frame => { frame with agent := value }]

/-- The data of a frame of the chat feed. -/
structure ChatFrame where
  memory : Option ChatMessage

/-- The fields of a frame of the chat feed. -/
def ChatFrame.schema : Schema ChatFrame where
  name := "ChatFrame"
  blank := ⟨none⟩
  fields := [
    .given "memory" (.optional ChatMessage.schema.codec) (·.memory)
      fun value frame => { frame with memory := value }]

namespace Feed

/-- All feeds, in the order in which they are started. -/
def all : List Feed := [.agents, .tasks, .approvals, .chat]

/-- The name of a feed. -/
def name : Feed → String
  | .tasks => "tasks"
  | .approvals => "approvals"
  | .agents => "agents"
  | .chat => "chat"

/-- The feed of a name. -/
def ofName? (text : String) : Option Feed := all.find? (name · = text)

/-- The event of the frames that a feed reads; it passes over all others. -/
def event : Feed → String
  | .tasks => "task"
  | .approvals => "approval"
  | .agents => "agent"
  | .chat => "memory"

/-- Where a feed connects. -/
def request (boardId : String) : Feed → StreamRequest
  | .tasks => ⟨"/api/v1/boards/" ++ boardId ++ "/tasks/stream", []⟩
  | .approvals => ⟨"/api/v1/boards/" ++ boardId ++ "/approvals/stream", []⟩
  | .agents => ⟨"/api/v1/agents/stream", [("board_id", boardId)]⟩
  | .chat => ⟨"/api/v1/boards/" ++ boardId ++ "/memory/stream", [("is_chat", "true")]⟩

/-- The instants of what is held locally that a feed resumes from. -/
def watermarks (state : BoardState) : Feed → List Instant
  -- A task that was never changed is as recent as its creation.
  | .tasks => state.tasks.filterMap fun task => task.updatedAt.or task.createdAt
  | .approvals => state.approvals.map fun approval => approval.resolvedAt.getD approval.createdAt
  | .agents => state.agents.filterMap fun agent => agent.updatedAt.or agent.lastSeenAt
  | .chat => state.chatMessages.map (·.createdAt)

/-- The point that a feed resumes from: the latest of its instants, if it has any. -/
def cursor (state : BoardState) (feed : Feed) : Option String :=
  (Instant.latest? (feed.watermarks state)).map Instant.render

/-- The kind of the frames that carry a comment. -/
def commentKind : String := "task.comment"

/-- Read the data of a frame. -/
def decodeFrame {ε : Type} (schema : Schema ε) (data : String) : Except FrameFault ε :=
  (schema.codec.parse data).mapError .unreadable

/-- The comment that a frame of the task feed announces, if it names its task. -/
def announcedComment? (frame : TaskFrame) : Option Patch :=
  frame.comment.filter fun comment =>
    -- A comment that names no task could be put into no thread.
    frame.kind = some commentKind && ((comment.get? "task_id").bind Json.text?).isSome

/-- What a frame of the task feed says. -/
def taskActions (frame : TaskFrame) : Except FrameFault (List BoardAction) :=
  match announcedComment? frame with
  | some comment =>
    match Patch.build TaskComment.schema comment with
    | .ok comment => .ok [.commentReceived comment]
    | .error fault => .error (.undecodable fault)
  -- Any other frame may still carry a task, which comes as a patch.
  | none => .ok (frame.task.map .taskUpserted).toList

/-- What a frame of the approval feed says. -/
def approvalActions (frame : ApprovalFrame) : List BoardAction :=
  -- A frame without any of the three parts would change nothing but the revision.
  if frame.approval.isNone && frame.counts.isNone && frame.pending.isNone then []
  else [.approvalUpserted frame.approval frame.counts frame.pending]

/-- What the data of a frame says. -/
def actions (feed : Feed) (data : String) : Except FrameFault (List BoardAction) :=
  match feed with
  | .tasks => (decodeFrame TaskFrame.schema data).bind taskActions
  | .approvals => (decodeFrame ApprovalFrame.schema data).map approvalActions
  | .agents => (decodeFrame AgentFrame.schema data).map fun frame =>
    (frame.agent.map .agentUpserted).toList
  | .chat => (decodeFrame ChatFrame.schema data).map fun frame =>
    (frame.memory.map .chatReceived).toList

/-- The actions that a feed takes from a frame; a frame that is not its own, or faulty, has none. -/
def actionsOf (feed : Feed) (frame : Frame) : List BoardAction :=
  -- A comment that keeps a connection alive makes a frame too, but one without data.
  if frame.event ≠ feed.event ∨ frame.data.isEmpty then []
  else (feed.actions frame.data).toOption.getD []

end Feed

end LiveBoard
