/-! The fixed vocabulary of a board: columns, priorities, and the states of agents and approvals. -/

namespace LiveBoard

/-- The columns of a board, left to right. -/
inductive TaskStatus where
  | inbox
  | inProgress
  | review
  | done
  deriving DecidableEq, Inhabited, Repr

/-- How urgent a task is. -/
inductive TaskPriority where
  | low
  | medium
  | high
  deriving DecidableEq, Inhabited, Repr

/-- Whether an agent can be reached. -/
inductive AgentStatus where
  | online
  | offline
  | provisioning
  | updating
  | deleting
  deriving DecidableEq, Inhabited, Repr

/-- Whether an approval was decided, and how. -/
inductive ApprovalStatus where
  | pending
  | approved
  | rejected
  deriving DecidableEq, Inhabited, Repr

/-- A text that names no member of a vocabulary. -/
inductive UnknownTerm where
  | taskStatus (text : String)
  | priority (text : String)
  | approvalStatus (text : String)
  deriving DecidableEq

/-- The message for a text that names nothing. -/
def UnknownTerm.message : UnknownTerm → String
  | .taskStatus text => "Invalid task status: " ++ text
  | .priority text => "Invalid priority: " ++ text
  | .approvalStatus text => "Invalid approval status: " ++ text

namespace TaskStatus

/-- All columns, left to right. -/
def all : List TaskStatus := [.inbox, .inProgress, .review, .done]

/-- The name of a column on the wire. -/
def name : TaskStatus → String
  | .inbox => "inbox"
  | .inProgress => "in_progress"
  | .review => "review"
  | .done => "done"

/-- The heading of a column. -/
def label : TaskStatus → String
  | .inbox => "Inbox"
  | .inProgress => "In Progress"
  | .review => "Review"
  | .done => "Done"

/-- The column of a name. -/
def parse (text : String) : Except UnknownTerm TaskStatus :=
  match all.find? (name · = text) with
  | some status => .ok status
  | none => .error (.taskStatus text)

end TaskStatus

namespace TaskPriority

/-- All priorities, from the least. -/
def all : List TaskPriority := [.low, .medium, .high]

/-- The name of a priority. -/
def name : TaskPriority → String
  | .low => "low"
  | .medium => "medium"
  | .high => "high"

/-- The priority of a name. -/
def parse (text : String) : Except UnknownTerm TaskPriority :=
  match all.find? (name · = text) with
  | some priority => .ok priority
  | none => .error (.priority text)

end TaskPriority

namespace AgentStatus

/-- All states of an agent. -/
def all : List AgentStatus := [.online, .offline, .provisioning, .updating, .deleting]

/-- The name of an agent's state. -/
def name : AgentStatus → String
  | .online => "online"
  | .offline => "offline"
  | .provisioning => "provisioning"
  | .updating => "updating"
  | .deleting => "deleting"

end AgentStatus

namespace ApprovalStatus

/-- All states of an approval. -/
def all : List ApprovalStatus := [.pending, .approved, .rejected]

/-- The name of an approval's state. -/
def name : ApprovalStatus → String
  | .pending => "pending"
  | .approved => "approved"
  | .rejected => "rejected"

/-- The state of a name. -/
def parse (text : String) : Except UnknownTerm ApprovalStatus :=
  match all.find? (name · = text) with
  | some status => .ok status
  | none => .error (.approvalStatus text)

end ApprovalStatus

end LiveBoard
