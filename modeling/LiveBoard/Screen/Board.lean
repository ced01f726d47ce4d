import LiveBoard.Board.View
import LiveBoard.Screen.Style
import LiveBoard.Text.Paragraph

/-!
The board and its parts as text for a terminal.

Moments are shown on the clocks of the place where the terminal stands.
-/

namespace LiveBoard

/-- The columns that a board fills when nothing else is known. -/
def defaultWidth : Nat := 100

/-- The fewest columns that a text is filled to. -/
def leastWidth : Nat := 20

namespace Terminal

/-- A text filled to a width, never narrower than the least one. -/
def filled (text : String) (width : Nat) (indent : String) : String :=
  -- On a narrow terminal lines run over the edge rather than break after every word.
  Text.fill text (max width leastWidth) indent

/-- A moment on the clocks of a place, or a dash instead. -/
def momentOrDash (zone : TimeZone) (moment : Option Instant) : String :=
  moment.elim "—" (·.display zone)

/-- Lines, each ended. -/
def lines (texts : List String) : String :=
  String.join (texts.map (· ++ "\n"))

/-- A priority in its color. -/
def priority (terminal : Terminal) (priority : TaskPriority) : String :=
  match priority with
  | .high => terminal.paint .red "high"
  | .medium => terminal.paint .yellow "medium"
  | .low => terminal.paint .green "low"

/-- The heading of a column in its color. -/
def heading (terminal : Terminal) (status : TaskStatus) : String :=
  let style : Style :=
    match status with
    | .inProgress => .magenta
    | .review => .blue
    | .done => .green
    | .inbox => .dim
  terminal.paint style status.label

/-- The card of a task in its column. -/
def card (terminal : Terminal) (task : Task) : String :=
  "  " ++ terminal.paint .dim task.id ++ " " ++ task.title ++
    " [" ++ terminal.priority task.priority ++ "]" ++
    task.assignee.elim "" (fun name => " @" ++ terminal.paint .cyan name) ++
    -- Cards say nothing about approvals unless some are pending.
    if task.approvalsPendingCount = 0 then ""
    else
      " " ++ terminal.icon .approval ++
        terminal.paint .yellow (toString task.approvalsPendingCount.toNat) ++ " pending"

/-- The errors of all sections. -/
def failures (terminal : Terminal) (state : BoardState) : String :=
  lines (state.errors.toList.map fun (part, message) =>
    terminal.icon .warn ++ terminal.paint .bold part.name ++ ": " ++ terminal.paint .red message)

/--
A list under its heading.

Where there is nothing to list, cut or not, a line stands in that says so.
-/
def titled (heading absence : String) (nothing : Bool) (blocks : List String) : String :=
  lines (heading :: if nothing then ["  " ++ absence] else []) ++ String.join blocks

/-- The color of the label of an agent. -/
def labelStyle : String → Style
  | "Working" => .magenta
  | "Active" => .green
  | "Provisioning" => .yellow
  | _ => .dim

/-- One agent with its label. -/
def agent (terminal : Terminal) (state : BoardState) (agent : Agent) : String :=
  let label := state.agentLabel agent
  lines ["  " ++ agent.avatar ++ " " ++ agent.name ++ " " ++
    terminal.paint (labelStyle label) label]

/-- The agents of a board, those at work first. -/
def agents (terminal : Terminal) (state : BoardState) : String :=
  titled (terminal.icon .agent ++ terminal.paint .bold "Agents")
    (terminal.paint .dim "No agents yet.") state.sortedAgents.isEmpty
    (state.sortedAgents.map (terminal.agent state))

/-- One approval with its rows, its reason and its dates. -/
def approval (terminal : Terminal) (zone : TimeZone) (width : Nat) (approval : Approval) : String :=
  let status :=
    match approval.status with
    | .pending => terminal.paint .yellow "pending"
    | .approved => terminal.paint .green "approved"
    | .rejected => terminal.paint .red "rejected"
  let head :=
    "  " ++ terminal.paint .dim approval.id ++ " " ++
      terminal.paint .bold (humanizeAction approval.actionType) ++ " [" ++ status ++ "] " ++
      approval.confidence.renderRounded ++ "% confidence"
  let rows := approval.rows.map fun (label, value) =>
    "    " ++ terminal.paint .dim label ++ ": " ++ value
  let reason := approval.reason.toList.map fun reason => filled reason width "    "
  let dates :=
    "    " ++ terminal.paint .dim "·" ++ " created " ++ approval.createdAt.display zone ++
      " resolved " ++ momentOrDash zone approval.resolvedAt
  lines (head :: rows ++ reason ++ [dates])

/-- The approvals of a board, only those that wait for a decision unless `all` is set. -/
def approvals (terminal : Terminal) (state : BoardState) (all : Bool) (width : Nat)
    (zone : TimeZone := .utc) : String :=
  let heading :=
    terminal.icon .approval ++ terminal.paint .bold "Approvals" ++ " (" ++
      toString state.pendingApprovalsCount.toNat ++ " pending)"
  -- The heading counts by the number that the server gave, not by what is listed.
  let shown := if all then state.approvals else state.pendingApprovals
  titled heading (terminal.paint .dim "Nothing waiting for a decision.") shown.isEmpty
    (shown.map (terminal.approval zone width))

/-- One comment with its author; comments without one come from an operator. -/
def comment (terminal : Terminal) (zone : TimeZone) (width : Nat) (comment : TaskComment) :
    String :=
  let head :=
    "  " ++ terminal.paint .dim (comment.createdAt.display zone) ++ " " ++
      terminal.paint .cyan (comment.agentId.getD "operator") ++ " " ++
      comment.taskId.elim "" ("on " ++ ·)
  lines (head :: comment.message.toList.map fun message => filled message width "    ")

/-- The latest comments of all tasks, the newest first. -/
def liveFeed (terminal : Terminal) (state : BoardState) (limit width : Nat)
    (zone : TimeZone := .utc) : String :=
  titled (terminal.icon .live ++ terminal.paint .bold "Live feed")
    (terminal.paint .dim "Waiting for new comments…") state.shownFeed.isEmpty
    ((state.latestFeed limit).map (terminal.comment zone width))

/-- One chat message with where it comes from. -/
def message (terminal : Terminal) (zone : TimeZone) (width : Nat) (message : ChatMessage) :
    String :=
  lines [
    "  " ++ terminal.paint .dim (message.createdAt.display zone) ++ " " ++
      terminal.paint .cyan message.sourceLabel,
    filled message.content width "    "]

/-- The latest chat messages, the oldest first. -/
def chat (terminal : Terminal) (state : BoardState) (limit width : Nat)
    (zone : TimeZone := .utc) : String :=
  titled (terminal.icon .chat ++ terminal.paint .bold "Board chat")
    (terminal.paint .dim "No messages yet.") state.chatMessages.isEmpty
    ((state.latestChat limit).map (terminal.message zone width))

/-- The open task with its approvals and its thread. -/
def detail (terminal : Terminal) (state : BoardState) (width : Nat)
    (zone : TimeZone := .utc) : String :=
  match state.detail with
  | none => terminal.paint .dim "No task is open."
  | some detail =>
    -- A snapshot may have come that lacks the task.
    match state.task? detail.taskId with
    | none => terminal.paint .dim ("Task " ++ detail.taskId ++ " is no longer on the board.")
    | some task =>
      let head := [
        terminal.paint .bold task.title,
        "  " ++ terminal.heading task.status ++ " · " ++ terminal.priority task.priority ++
          " · " ++ task.assignee.getD "Unassigned",
        "  created " ++ momentOrDash zone task.createdAt ++ " · updated " ++
          momentOrDash zone task.updatedAt ++ " · due " ++ momentOrDash zone task.dueAt]
      let description := task.description.toList.map fun text => filled text width "  "
      let failures := [Section.comments, .postComment, .saveTask].filterMap fun part =>
        (state.error? part).map fun message =>
          terminal.icon .warn ++ terminal.paint .red message
      -- Without approvals the task has no section for them, though it always has one for comments.
      let listed := state.taskApprovals task.id
      let approvals :=
        if listed.isEmpty then ""
        else
          lines ["", terminal.icon .approval ++ terminal.paint .bold "Approvals"] ++
            String.join (listed.map (terminal.approval zone width))
      let thread := state.openThread
      let comments :=
        lines ["", terminal.icon .comment ++ terminal.paint .bold "Comments" ++ " (" ++
          toString thread.length ++ ")"] ++
          String.join (thread.map (terminal.comment zone width))
      lines (head ++ description ++ failures) ++ approvals ++ comments

/-- The whole board: its name and errors, columns, agents, approvals, live feed and chat. -/
def board (terminal : Terminal) (state : BoardState) (width : Option Nat)
    (zone : TimeZone := .utc) : String :=
  let width := width.getD defaultWidth
  let name := state.board.elim "Board" (·.name)
  let head :=
    terminal.icon .board ++ terminal.paint .bold name ++ " " ++
      terminal.paint .dim ("(" ++ state.boardId ++ ")")
  let description := (state.board.bind (·.description)).toList.map fun text =>
    filled text width ""
  let column (status : TaskStatus) (tasks : List Task) : List String :=
    (terminal.heading status ++ " (" ++ toString tasks.length ++ ")") :: tasks.map terminal.card
  let columns := state.columns.flatMap fun (status, tasks) => column status tasks
  lines (head :: description) ++ terminal.failures state ++ "\n" ++
    lines columns ++ "\n" ++
    terminal.agents state ++ "\n" ++
    terminal.approvals state false width zone ++ "\n" ++
    terminal.liveFeed state 10 width zone ++ "\n" ++
    terminal.chat state 10 width zone

end Terminal

end LiveBoard
