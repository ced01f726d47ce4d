import LiveBoard.Cli.Context
import LiveBoard.Json.Printer
import LiveBoard.Screen.Board

/-! Errands, and what each of them prints. -/

namespace LiveBoard.Cli

/-- A board that is loaded, with the client of its server. -/
structure OpenBoard where
  client : Client
  store : BoardStore

namespace Context

/-- Load a board. -/
def openBoard (context : Context) (board : String) : Work OpenBoard := do
  let client ← context.client
  let (store, result) ← (Mutation.loadSnapshot board (.empty board)).carryOut client
  match result with
  | .ok () => return ⟨client, store⟩
  | .error error => throw ((Failure.ofSync error).within ("Failed to load board " ++ board))

end Context

namespace OpenBoard

/-- Carry out a change of a board that is loaded. -/
def change {α : Type} (board : OpenBoard) (mutation : BoardStore → Mutation α) :
    Work (OpenBoard × α) := do
  let (store, result) ← (mutation board.store).carryOut board.client
  match result with
  | .ok value => return ({ board with store := store }, value)
  | .error error => throw (.ofSync error)

/-- The task of an identifier, which has to be on the board. -/
def requireTask (board : OpenBoard) (id : String) : Work Task :=
  match board.store.state.task? id with
  | some task => return task
  | none => throw (.ofSync (.taskNotFound id))

end OpenBoard

namespace Context

/-- A line that says what was done. -/
def confirmation (context : Context) (icon : Icon) (parts : List String) : String :=
  context.terminal.icon icon ++ " ".intercalate parts ++ "\n"

/-- An identifier as lines show it. -/
def dimmed (context : Context) (id : String) : String := context.terminal.paint .dim id

/-- Print a board once. -/
def snapshot (context : Context) (board : String) (json : Bool) : Work String := do
  if json then
    -- The snapshot is printed as it came, and not by way of a local copy.
    let client ← context.client
    match ← (client.call (.snapshot board) : Dialogue (Except ApiError Snapshot)) with
    | .ok snapshot => return (Snapshot.schema.encode snapshot).pretty 0 ++ "\n"
    | .error error => throw ((Failure.ofApi error).within ("Failed to load board " ++ board))
  else
    let loaded ← context.openBoard board
    return context.terminal.board loaded.store.state none context.platform.zone ++ "\n"

/-- Delete a task, unless the question whether to do so stays unanswered. -/
def deleteTask (context : Context) (board task : String) (yes : Bool) : Work String := do
  let loaded ← context.openBoard board
  -- The title is for the line that says so, when the task is gone.
  let title := (← loaded.requireTask task).title
  if yes then
    let _ ← loaded.change (Mutation.deleteTask board task)
    return context.confirmation .check ["Deleted", context.dimmed task, title]
  else return "Cancelled.\n"

/-- Approve or reject what an agent asked for. -/
def decideApproval (context : Context) (board approval : String) (status : ApprovalStatus) :
    Work String := do
  let loaded ← context.openBoard board
  let (loaded, decided) ← loaded.change (Mutation.decideApproval board approval status)
  let icon : Icon := if decided.status = .rejected then .cross else .check
  let title := context.terminal.paint .bold (humanizeAction decided.actionType)
  -- The number is the one that came with the snapshot.
  let pending := toString loaded.store.state.pendingApprovalsCount.toNat
  return context.confirmation icon
      [title, decided.status.name, "(" ++ context.dimmed decided.id ++ ")"] ++
    "  " ++ pending ++ " still pending\n"

/-- Send a message to the chat of a board, which need not be loaded for that. -/
def sendChat (context : Context) (board message : String) : Work String := do
  let client ← context.client
  -- Nothing of the board is looked at, so an empty copy will do.
  let (_, sent) ← (⟨client, .empty board⟩ : OpenBoard).change (Mutation.sendChat board message)
  match sent with
  | some sent => return context.confirmation .chat ["Sent", context.dimmed sent.id]
  | none => throw (.plain InputFault.messageMissing.message)

/-- What the settings are and where they came from. -/
def describeSettings (context : Context) : String :=
  let source :=
    match context.source with
    | .file path => "Config file: " ++ path
    | .none (some path) => "No config file at " ++ path ++ "; using defaults"
    | .none none => "No config directory found; using defaults"
  Terminal.lines [
    "",
    "Mission Control Configuration",
    "=============================",
    "",
    source,
    "Overrides: " ++ apiUrlVariable ++ ", " ++ tokenVariable ++ ", " ++ configVariable ++
      " (file), --api-url, --token",
    "",
    context.settings.redacted]

/-- The warnings about the settings, or that there are none. -/
def describeWarnings (context : Context) : String :=
  let warnings := context.settings.warnings
  if warnings.isEmpty then context.confirmation .check ["Configuration is valid"]
  else
    String.join (warnings.map fun warning =>
      context.confirmation .warn [context.terminal.paint .yellow warning.message])

/-- What an empty change of a task is met with. -/
def nothingToUpdate : String :=
  "Nothing to update. Pass --title, --description, --priority, --assign or --unassign."

/-- Do an errand, and say what is printed. -/
def execute (context : Context) (yes : Bool) : Errand → Work String
  | .snapshot board json => context.snapshot board json
  | .createTask board title description priority => do
    let loaded ← context.openBoard board
    let (_, task) ← loaded.change (Mutation.createTask board title description priority)
    return context.confirmation .check ["Created", context.dimmed task.id, task.title]
  | .updateTask board id update => do
    -- This is settled before any request is made.
    if update.isEmpty then throw (.plain nothingToUpdate)
    let loaded ← context.openBoard board
    let (_, task) ← loaded.change (Mutation.updateTask board id update)
    return context.confirmation .check ["Updated", context.dimmed task.id, task.title]
  | .moveTask board id status => do
    let loaded ← context.openBoard board
    -- The change itself passes over a task that is not on the board.
    let _ ← loaded.requireTask id
    let _ ← loaded.change (Mutation.moveTask board id status)
    return context.confirmation .check ["Moved", context.dimmed id, "to", status.label]
  | .deleteTask board id => context.deleteTask board id yes
  | .commentTask board id message => do
    let loaded ← context.openBoard board
    let (loaded, _) ← loaded.change (Mutation.openTask board id)
    -- Comments are posted to the task that is open.
    let (_, comment) ← loaded.change (Mutation.postComment board message)
    return context.confirmation .comment
      ["Commented on", context.dimmed id, context.dimmed comment.id]
  | .showTask board id => do
    let loaded ← context.openBoard board
    let (loaded, _) ← loaded.change (Mutation.openTask board id)
    return context.terminal.detail loaded.store.state defaultWidth context.platform.zone ++ "\n"
  | .listApprovals board all => do
    let loaded ← context.openBoard board
    return context.terminal.approvals loaded.store.state all defaultWidth
      context.platform.zone ++ "\n"
  | .decideApproval board approval status => context.decideApproval board approval status
  | .sendChat board message => context.sendChat board message
  | .showSettings => return context.describeSettings
  | .checkSettings => return context.describeWarnings

end Context

end LiveBoard.Cli
