import LiveBoard.Board.Terms
import LiveBoard.Json.Record

/-! What a board is made of, with the fields of each record on the wire. -/

namespace LiveBoard

namespace Codec

/-- A column. -/
def taskStatus : Codec TaskStatus := .choice TaskStatus.all TaskStatus.name

/-- A priority. -/
def taskPriority : Codec TaskPriority := .choice TaskPriority.all TaskPriority.name

/-- The state of an agent. -/
def agentStatus : Codec AgentStatus := .choice AgentStatus.all AgentStatus.name

/-- The state of an approval. -/
def approvalStatus : Codec ApprovalStatus := .choice ApprovalStatus.all ApprovalStatus.name

end Codec

/-- A board. -/
structure Board where
  id : String
  name : String
  slug : Option String
  description : Option String
  gatewayId : Option String
  createdAt : Option Instant
  updatedAt : Option Instant
  deriving DecidableEq, Inhabited

/-- The fields of a board. -/
def Board.schema : Schema Board where
  name := "Board"
  blank :=
    { id := "", name := "", slug := none, description := none, gatewayId := none,
      createdAt := none, updatedAt := none }
  fields := [
    .needed "id" .text (·.id) fun value record => { record with id := value },
    .needed "name" .text (·.name) fun value record => { record with name := value },
    .given "slug" (.optional .text) (·.slug) fun value record => { record with slug := value },
    .given "description" (.optional .text) (·.description)
      fun value record => { record with description := value },
    .given "gateway_id" (.optional .text) (·.gatewayId)
      fun value record => { record with gatewayId := value },
    .given "created_at" .lenientInstant (·.createdAt)
      fun value record => { record with createdAt := value },
    .given "updated_at" .lenientInstant (·.updatedAt)
      fun value record => { record with updatedAt := value }]

/-- A task as its card shows it, with the name of its assignee and its approval counters. -/
structure Task where
  id : String
  boardId : Option String
  title : String
  description : Option String
  status : TaskStatus
  priority : TaskPriority
  dueAt : Option Instant
  assignedAgentId : Option String
  createdByUserId : Option String
  inProgressAt : Option Instant
  createdAt : Option Instant
  updatedAt : Option Instant
  assignee : Option String
  approvalsCount : UInt32
  approvalsPendingCount : UInt32
  deriving DecidableEq, Inhabited

/-- The fields of a task. -/
def Task.schema : Schema Task where
  name := "Task"
  -- A task of which nothing more is said stands in the inbox, with medium priority.
  blank :=
    { id := "", boardId := none, title := "", description := none, status := .inbox,
      priority := .medium, dueAt := none, assignedAgentId := none, createdByUserId := none,
      inProgressAt := none, createdAt := none, updatedAt := none, assignee := none,
      approvalsCount := 0, approvalsPendingCount := 0 }
  fields := [
    .needed "id" .text (·.id) fun value record => { record with id := value },
    .given "board_id" (.optional .text) (·.boardId)
      fun value record => { record with boardId := value },
    .given "title" .text (·.title) fun value record => { record with title := value },
    .given "description" (.optional .text) (·.description)
      fun value record => { record with description := value },
    .given "status" (.orDefault .taskStatus .inbox) (·.status)
      fun value record => { record with status := value },
    .given "priority" (.orDefault .taskPriority .medium) (·.priority)
      fun value record => { record with priority := value },
    .given "due_at" .lenientInstant (·.dueAt) fun value record => { record with dueAt := value },
    .given "assigned_agent_id" (.optional .text) (·.assignedAgentId)
      fun value record => { record with assignedAgentId := value },
    .given "created_by_user_id" (.optional .text) (·.createdByUserId)
      fun value record => { record with createdByUserId := value },
    .given "in_progress_at" .lenientInstant (·.inProgressAt)
      fun value record => { record with inProgressAt := value },
    .given "created_at" .lenientInstant (·.createdAt)
      fun value record => { record with createdAt := value },
    .given "updated_at" .lenientInstant (·.updatedAt)
      fun value record => { record with updatedAt := value },
    .given "assignee" (.optional .text) (·.assignee)
      fun value record => { record with assignee := value },
    .given "approvals_count" (.orDefault .count 0) (·.approvalsCount)
      fun value record => { record with approvalsCount := value },
    .given "approvals_pending_count" (.orDefault .count 0) (·.approvalsPendingCount)
      fun value record => { record with approvalsPendingCount := value }]

/-- An agent that works on a board. -/
structure Agent where
  id : String
  name : String
  status : AgentStatus
  boardId : Option String
  isBoardLead : Bool
  isGatewayMain : Bool
  identityProfile : Option Members
  lastSeenAt : Option Instant
  createdAt : Option Instant
  updatedAt : Option Instant
  deriving DecidableEq, Inhabited

/-- The fields of an agent. -/
def Agent.schema : Schema Agent where
  name := "Agent"
  -- An agent that says nothing of its status cannot be reached.
  blank :=
    { id := "", name := "", status := .offline, boardId := none, isBoardLead := false,
      isGatewayMain := false, identityProfile := none, lastSeenAt := none, createdAt := none,
      updatedAt := none }
  fields := [
    .needed "id" .text (·.id) fun value record => { record with id := value },
    .given "name" .text (·.name) fun value record => { record with name := value },
    .given "status" (.orDefault .agentStatus .offline) (·.status)
      fun value record => { record with status := value },
    .given "board_id" (.optional .text) (·.boardId)
      fun value record => { record with boardId := value },
    .given "is_board_lead" (.orDefault .flag false) (·.isBoardLead)
      fun value record => { record with isBoardLead := value },
    .given "is_gateway_main" (.orDefault .flag false) (·.isGatewayMain)
      fun value record => { record with isGatewayMain := value },
    .given "identity_profile" (.optional .map) (·.identityProfile)
      fun value record => { record with identityProfile := value },
    .given "last_seen_at" .lenientInstant (·.lastSeenAt)
      fun value record => { record with lastSeenAt := value },
    .given "created_at" .lenientInstant (·.createdAt)
      fun value record => { record with createdAt := value },
    .given "updated_at" .lenientInstant (·.updatedAt)
      fun value record => { record with updatedAt := value }]

/-- A comment on a task; one without an agent was written by an operator. -/
structure TaskComment where
  id : String
  taskId : Option String
  agentId : Option String
  message : Option String
  createdAt : Instant
  deriving DecidableEq, Inhabited

/-- The fields of a comment. -/
def TaskComment.schema : Schema TaskComment where
  name := "TaskComment"
  blank :=
    { id := "", taskId := none, agentId := none, message := none, createdAt := default }
  fields := [
    .needed "id" .text (·.id) fun value record => { record with id := value },
    .given "task_id" (.optional .text) (·.taskId)
      fun value record => { record with taskId := value },
    .given "agent_id" (.optional .text) (·.agentId)
      fun value record => { record with agentId := value },
    .given "message" (.optional .text) (·.message)
      fun value record => { record with message := value },
    .needed "created_at" .instant (·.createdAt)
      fun value record => { record with createdAt := value }]

/-- A step that an agent asks leave for. -/
structure Approval where
  id : String
  boardId : Option String
  taskId : Option String
  agentId : Option String
  actionType : String
  status : ApprovalStatus
  confidence : Binary64
  payload : Option Members
  rubricScores : Option Members
  createdAt : Instant
  resolvedAt : Option Instant
  deriving DecidableEq, Inhabited

/-- The fields of an approval. -/
def Approval.schema : Schema Approval where
  name := "Approval"
  -- An approval waits for a decision until one is told.
  blank :=
    { id := "", boardId := none, taskId := none, agentId := none, actionType := "",
      status := .pending, confidence := .zero, payload := none, rubricScores := none,
      createdAt := default, resolvedAt := none }
  fields := [
    .needed "id" .text (·.id) fun value record => { record with id := value },
    .given "board_id" (.optional .text) (·.boardId)
      fun value record => { record with boardId := value },
    .given "task_id" (.optional .text) (·.taskId)
      fun value record => { record with taskId := value },
    .given "agent_id" (.optional .text) (·.agentId)
      fun value record => { record with agentId := value },
    .given "action_type" .text (·.actionType)
      fun value record => { record with actionType := value },
    .given "status" (.orDefault .approvalStatus .pending) (·.status)
      fun value record => { record with status := value },
    .given "confidence" (.orDefault .real .zero) (·.confidence)
      fun value record => { record with confidence := value },
    .given "payload" (.optional .map) (·.payload)
      fun value record => { record with payload := value },
    .given "rubric_scores" (.optional .map) (·.rubricScores)
      fun value record => { record with rubricScores := value },
    .needed "created_at" .instant (·.createdAt)
      fun value record => { record with createdAt := value },
    -- What is no time counts as no resolution, where as a creation it would be refused.
    .given "resolved_at" .lenientInstant (·.resolvedAt)
      fun value record => { record with resolvedAt := value }]

/-- A message of the board's memory; those tagged as chat are shown as chat. -/
structure ChatMessage where
  id : String
  boardId : Option String
  content : String
  tags : List String
  source : Option String
  isChat : Bool
  createdAt : Instant
  deriving DecidableEq, Inhabited

/-- The fields of a message. -/
def ChatMessage.schema : Schema ChatMessage where
  name := "BoardChatMessage"
  blank :=
    { id := "", boardId := none, content := "", tags := [], source := none, isChat := false,
      createdAt := default }
  fields := [
    .needed "id" .text (·.id) fun value record => { record with id := value },
    .given "board_id" (.optional .text) (·.boardId)
      fun value record => { record with boardId := value },
    .given "content" .text (·.content) fun value record => { record with content := value },
    .given "tags" (.orDefault (.list .text) []) (·.tags)
      fun value record => { record with tags := value },
    .given "source" (.optional .text) (·.source)
      fun value record => { record with source := value },
    .given "is_chat" (.orDefault .flag false) (·.isChat)
      fun value record => { record with isChat := value },
    .needed "created_at" .instant (·.createdAt)
      fun value record => { record with createdAt := value }]

/-- Approval counters of one task, as the server last computed them. -/
structure TaskCounts where
  taskId : Option String
  approvalsCount : Option UInt32
  approvalsPendingCount : Option UInt32
  deriving DecidableEq, Inhabited

/-- The fields of approval counters. -/
def TaskCounts.schema : Schema TaskCounts where
  name := "TaskCounts"
  -- A counter that is missing keeps the one that the task has, so there is no default.
  blank :=
    { taskId := none, approvalsCount := none, approvalsPendingCount := none }
  fields := [
    .given "task_id" (.optional .text) (·.taskId)
      fun value record => { record with taskId := value },
    .given "approvals_count" (.optional .count) (·.approvalsCount)
      fun value record => { record with approvalsCount := value },
    .given "approvals_pending_count" (.optional .count) (·.approvalsPendingCount)
      fun value record => { record with approvalsPendingCount := value }]

/-- Everything that a view of a board needs. -/
structure Snapshot where
  board : Board
  tasks : List Task
  agents : List Agent
  approvals : List Approval
  chatMessages : List ChatMessage
  pendingApprovalsCount : UInt32
  deriving DecidableEq

/-- The fields of a snapshot. -/
def Snapshot.schema : Schema Snapshot where
  name := "BoardSnapshot"
  -- All lists may be left out, but there is no snapshot without its board.
  blank :=
    { board := Board.schema.blank, tasks := [], agents := [], approvals := [],
      chatMessages := [], pendingApprovalsCount := 0 }
  fields := [
    .needed "board" Board.schema.codec (·.board) fun value record => { record with board := value },
    .given "tasks" (.orDefault (.list Task.schema.codec) []) (·.tasks)
      fun value record => { record with tasks := value },
    .given "agents" (.orDefault (.list Agent.schema.codec) []) (·.agents)
      fun value record => { record with agents := value },
    .given "approvals" (.orDefault (.list Approval.schema.codec) []) (·.approvals)
      fun value record => { record with approvals := value },
    .given "chat_messages" (.orDefault (.list ChatMessage.schema.codec) []) (·.chatMessages)
      fun value record => { record with chatMessages := value },
    .given "pending_approvals_count" (.orDefault .count 0) (·.pendingApprovalsCount)
      fun value record => { record with pendingApprovalsCount := value }]

namespace ChatMessage

/-- The tag of the messages that are shown as chat. -/
def chatTag : String := "chat"

/-- Whether a message is tagged as chat. -/
def isChatTagged (message : ChatMessage) : Bool := message.tags.contains chatTag

/-- The name of the author; a message without a source came from the user. -/
def sourceLabel (message : ChatMessage) : String := message.source.getD "User"

end ChatMessage

end LiveBoard
