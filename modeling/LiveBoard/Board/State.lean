import LiveBoard.Board.Patch

/-! The local copy of a board, with an error slot for each of its sections. -/

namespace LiveBoard

/-- The parts of the view that can fail on their own. -/
inductive Section where
  | board
  | approvals
  | chat
  | comments
  | createTask
  | saveTask
  | deleteTask
  | postComment
  deriving DecidableEq, Repr

namespace Section

/-- All sections, in the order in which their errors are shown. -/
def all : List Section :=
  [.board, .approvals, .chat, .comments, .createTask, .saveTask, .deleteTask, .postComment]

/-- The name of a section. -/
def name : Section → String
  | .board => "board"
  | .approvals => "approvals"
  | .chat => "chat"
  | .comments => "comments"
  | .createTask => "create_task"
  | .saveTask => "save_task"
  | .deleteTask => "delete_task"
  | .postComment => "post_comment"

/-- The section of a name. -/
def ofName? (text : String) : Option Section := all.find? (name · = text)

end Section

/-- The error of each section, if it has one. -/
structure SectionErrors where
  board : Option String
  approvals : Option String
  chat : Option String
  comments : Option String
  createTask : Option String
  saveTask : Option String
  deleteTask : Option String
  postComment : Option String
  deriving DecidableEq

namespace SectionErrors

/-- No section has an error. -/
def empty : SectionErrors := ⟨none, none, none, none, none, none, none, none⟩

/-- The error of a section. -/
def get (errors : SectionErrors) : Section → Option String
  | .board => errors.board
  | .approvals => errors.approvals
  | .chat => errors.chat
  | .comments => errors.comments
  | .createTask => errors.createTask
  | .saveTask => errors.saveTask
  | .deleteTask => errors.deleteTask
  | .postComment => errors.postComment

/-- The errors with the slot of one section filled or emptied. -/
def set (errors : SectionErrors) (part : Section) (slot : Option String) : SectionErrors :=
  match part with
  | .board => { errors with board := slot }
  | .approvals => { errors with approvals := slot }
  | .chat => { errors with chat := slot }
  | .comments => { errors with comments := slot }
  | .createTask => { errors with createTask := slot }
  | .saveTask => { errors with saveTask := slot }
  | .deleteTask => { errors with deleteTask := slot }
  | .postComment => { errors with postComment := slot }

/-- Setting one slot shows in that section and in no other. -/
theorem get_set (errors : SectionErrors) (part other : Section) (slot : Option String) :
    (errors.set part slot).get other = if part = other then slot else errors.get other := by
  -- Each section has a slot of its own, so every pair of them is settled by computation.
  cases part <;> cases other <;> rfl

/-- The sections that have an error, in order, with their errors. -/
def toList (errors : SectionErrors) : List (Section × String) :=
  -- The order is that of the sections, whichever of them failed first.
  Section.all.filterMap fun part => (errors.get part).map fun message => (part, message)

end SectionErrors

/-- The task that is open, with its thread of comments. -/
structure TaskDetail where
  taskId : String
  comments : List TaskComment
  deriving DecidableEq

/-- The local copy of a board. -/
structure BoardState where
  boardId : String
  board : Option Board
  tasks : List Task
  agents : List Agent
  approvals : List Approval
  chatMessages : List ChatMessage
  /-- The latest comments of all tasks, the last to arrive first. -/
  liveFeed : List TaskComment
  detail : Option TaskDetail
  pendingApprovalsCount : UInt32
  errors : SectionErrors
  deriving DecidableEq

namespace BoardState

/-- A board of which nothing is known but its identifier. -/
def empty (boardId : String) : BoardState where
  boardId := boardId
  board := none
  tasks := []
  agents := []
  approvals := []
  chatMessages := []
  liveFeed := []
  detail := none
  pendingApprovalsCount := 0
  errors := .empty

/-- The task of an identifier. -/
def task? (state : BoardState) (taskId : String) : Option Task :=
  state.tasks.find? (·.id = taskId)

/-- The error of a section. -/
def error? (state : BoardState) (part : Section) : Option String :=
  state.errors.get part

/-- The state with the error slot of one section filled or emptied. -/
def setError (state : BoardState) (part : Section) (slot : Option String) : BoardState :=
  { state with errors := state.errors.set part slot }

/-- The name of the agent of an identifier, if there is one. -/
def assigneeName (agents : List Agent) (agentId : Option String) : Option String :=
  -- An agent that is not held has no name to show, though the task stays assigned to it.
  agentId.bind fun wanted => (agents.find? (·.id = wanted)).map (·.name)

end BoardState

end LiveBoard
