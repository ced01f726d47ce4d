import LiveBoard.Board.State
import LiveBoard.Text.Alphanumeric
import LiveBoard.Text.Blank
import LiveBoard.Text.Case

/-! What is shown of a board: its columns, threads, approvals and agents. -/

namespace LiveBoard

/-- The glyph of the agent that leads a board. -/
def leadGlyph : String := "⚙️"

/-- The glyphs that have a short name. -/
def emojiGlyphs : List (String × String) := [
  (":gear:", "⚙️"),
  (":sparkles:", "✨"),
  (":rocket:", "🚀"),
  (":megaphone:", "📣"),
  (":chart_with_upwards_trend:", "📈"),
  (":bulb:", "💡"),
  (":wrench:", "🔧"),
  (":shield:", "🛡️"),
  (":memo:", "📝"),
  (":brain:", "🧠")]

/-- The glyph of a short name, or a glyph given as itself; an unknown short name has none. -/
def resolveEmoji (value : String) : Option String :=
  let trimmed := Text.trim value
  if trimmed.isEmpty then none
  else
    -- What is no short name, and does not look like one, is taken for a glyph.
    match emojiGlyphs.find? (·.1 = trimmed) with
    | some (_, glyph) => some glyph
    | none =>
      -- A single colon is no short name, and is shown as it is.
      if 1 < trimmed.utf8ByteSize && trimmed.startsWith ":" && trimmed.endsWith ":" then none
      else some trimmed

/-- The first letters of the first two words of a name, in upper case. -/
def initials (name : String) : String :=
  -- Blanks in a row leave empty words between them, which have no first letter.
  let words := (name.toList.splitOn ' ').filter (!·.isEmpty)
  String.ofList ((words.take 2).flatMap fun word => (word.take 1).flatMap Text.upperChar)

/-- Put the first letter of every word into upper case; `atStart` tells whether a word may start. -/
def capitalizeWords (atStart : Bool) : List Char → List Char
  | [] => []
  | c :: rest =>
    let letter := Text.isAlphanumeric c
    -- A word starts behind anything that is neither letter nor digit.
    (if atStart && letter then Text.upperChar c else [c]) ++ capitalizeWords (!letter) rest

/-- A kind of action as a title: its parts are set apart, and its words capitalized. -/
def humanizeAction (actionType : String) : String :=
  let parts := actionType.toList.splitOn '.'
  let titled := parts.map fun part =>
    String.ofList (capitalizeWords true (part.map fun c => if c = '_' then ' ' else c))
  " · ".intercalate titled

namespace Agent

/-- The glyph or initials that stand for an agent. -/
def avatar (agent : Agent) : String :=
  -- The lead is known by its glyph, whatever its profile says.
  if agent.isBoardLead then leadGlyph
  else
    let emoji := (agent.identityProfile.bind (·.get? "emoji")).bind Json.text?
    (emoji.bind resolveEmoji).getD (initials agent.name)

end Agent

namespace Approval

/-- A text or number that the payload of an approval holds. -/
def payloadText (approval : Approval) (key : String) : Option String :=
  match approval.payload.bind (·.get? key) with
  | some (.string text) => some text
  | some (.number number) => some number.render
  | _ => none

/-- The task that an approval names, itself or under a key that agents use in its payload. -/
def namedTask (approval : Approval) : Option String :=
  approval.taskId.or ((approval.payloadText "task_id").or
    ((approval.payloadText "taskId").or (approval.payloadText "taskID")))

/-- Whether a list holds another as a run of neighbours. -/
def containsRun (run : List Char) : List Char → Bool
  | [] => run.isEmpty
  | c :: rest => run.isPrefixOf (c :: rest) || containsRun run rest

/-- The rows shown under an approval. -/
def rows (approval : Approval) : List (String × String) :=
  let assigns := containsRun "assign".toList approval.actionType.toList
  let assignee :=
    ((approval.payloadText "assigned_agent_id").or (approval.payloadText "assignedAgentId")).getD
      -- An action that assigns has this row even where its payload names nobody.
      "Unassigned"
  let row (label : String) (text : Option String) := (text.map fun text => (label, text)).toList
  row "Task" approval.namedTask ++ (if assigns then [("Assignee", assignee)] else []) ++
    row "Title" (approval.payloadText "title") ++ row "Role" (approval.payloadText "role")

/-- The reason that an agent gives. -/
def reason (approval : Approval) : Option String := approval.payloadText "reason"

end Approval

/-- How far up an agent is listed. -/
inductive AgentRank where
  | working
  | active
  | provisioning
  | offline
  deriving DecidableEq

namespace AgentRank

/-- The label of a rank. -/
def label : AgentRank → String
  | .working => "Working"
  | .active => "Active"
  | .provisioning => "Provisioning"
  | .offline => "Offline"

/-- The place of a rank in the list. -/
def place : AgentRank → Nat
  | .working => 0
  | .active => 1
  | .provisioning => 2
  | .offline => 3

end AgentRank

namespace BoardState

/-- The tasks of a column, as they are stored. -/
def column (state : BoardState) (status : TaskStatus) : List Task :=
  state.tasks.filter (·.status = status)

/-- All columns, left to right. -/
def columns (state : BoardState) : List (TaskStatus × List Task) :=
  TaskStatus.all.map fun status => (status, state.column status)

/-- Comments from the newest, those of the same instant as they stood. -/
def newestFirst (comments : List TaskComment) : List TaskComment :=
  comments.mergeSort fun a b => b.createdAt.le a.createdAt

/-- The live feed as it is shown. -/
def shownFeed (state : BoardState) : List TaskComment :=
  newestFirst state.liveFeed

/-- The latest comments of all tasks, the newest first. -/
def latestFeed (state : BoardState) (limit : Nat) : List TaskComment :=
  state.shownFeed.take limit

/-- The latest messages of the chat, the oldest first. -/
def latestChat (state : BoardState) (limit : Nat) : List ChatMessage :=
  -- The chat is kept in the order of creation, so the latest messages are the last ones.
  state.chatMessages.drop (state.chatMessages.length - limit)

/-- The thread of the open task as it is shown; without an open task it is empty. -/
def openThread (state : BoardState) : List TaskComment :=
  state.detail.elim [] fun detail => newestFirst detail.comments

/-- The approvals that wait for a decision. -/
def pendingApprovals (state : BoardState) : List Approval :=
  state.approvals.filter (·.status = .pending)

/-- The approvals listed under a task. -/
def taskApprovals (state : BoardState) (taskId : String) : List Approval :=
  state.approvals.filter (·.taskId = some taskId)

/-- Whether a task in progress is assigned to an agent. -/
def isWorking (state : BoardState) (agentId : String) : Bool :=
  state.tasks.any fun task => task.status = .inProgress && task.assignedAgentId = some agentId

/-- The agents to whom tasks in progress are assigned, in ascending order of their identifiers. -/
def workingAgents (state : BoardState) : List String :=
  -- An agent with several tasks in progress is there once for each of them until the end.
  let assigned := state.tasks.filterMap fun task =>
    if task.status = .inProgress then task.assignedAgentId else none
  (assigned.mergeSort fun a b => decide (a ≤ b)).eraseDups

/-- How far up an agent is listed. -/
def agentRank (state : BoardState) (agent : Agent) : AgentRank :=
  if state.isWorking agent.id then .working
  else
    match agent.status with
    | .online => .active
    | .provisioning => .provisioning
    | .offline | .updating | .deleting => .offline

/-- The label of an agent: what it does, as far as the tasks and its status tell. -/
def agentLabel (state : BoardState) (agent : Agent) : String :=
  -- A task in progress counts for more than what an agent says of itself.
  if state.isWorking agent.id then "Working"
  else
    match agent.status with
    | .online => "Active"
    | .provisioning => "Provisioning"
    | .offline | .updating | .deleting => "Offline"

/-- An agent has the label of its rank. -/
theorem agentLabel_eq_label (state : BoardState) (agent : Agent) :
    state.agentLabel agent = (state.agentRank agent).label := by
  unfold agentLabel agentRank
  -- Both ask the same questions in the same order.
  split
  · rfl
  · cases agent.status <;> rfl

/-- What agents are listed by: their rank, their name without case, and their name. -/
def agentKey (state : BoardState) (agent : Agent) : Nat × String × String :=
  ((state.agentRank agent).place, Text.lower agent.name, agent.name)

/-- Whether one key is no greater than another. -/
def keyLe (a b : Nat × String × String) : Bool :=
  a.1 < b.1 || (a.1 = b.1 && (a.2.1 < b.2.1 || (a.2.1 = b.2.1 && a.2.2 ≤ b.2.2)))

/-- Whether an agent is listed no later than another. -/
def agentLe (state : BoardState) (a b : Agent) : Bool :=
  keyLe (state.agentKey a) (state.agentKey b)

/-- The agents as they are listed. -/
def sortedAgents (state : BoardState) : List Agent :=
  state.agents.mergeSort state.agentLe

/-- The agents that a task can be assigned to. -/
def assignableAgents (state : BoardState) : List Agent :=
  state.agents.filter (!·.isBoardLead)

end BoardState

end LiveBoard
