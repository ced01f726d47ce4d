import LiveBoard.Api.Call
import LiveBoard.Cli.Grammar
import LiveBoard.Settings.Layers

/-! The commands of the program, and the command lines that give them. -/

namespace LiveBoard.Cli

/-- What the program can do and be done with. -/
inductive Errand where
  | snapshot (board : String) (json : Bool)
  | createTask (board title : String) (description : Option String) (priority : TaskPriority)
  | updateTask (board task : String) (update : TaskUpdate)
  | moveTask (board task : String) (status : TaskStatus)
  | deleteTask (board task : String)
  | commentTask (board task message : String)
  | showTask (board task : String)
  | listApprovals (board : String) (all : Bool)
  | decideApproval (board approval : String) (status : ApprovalStatus)
  | sendChat (board message : String)
  | showSettings
  | checkSettings
  deriving DecidableEq

/-- What the program is asked to do. -/
inductive Command where
  | errand (errand : Errand)
  /-- Follow a board until interrupted. -/
  | watch (board : String)
  deriving DecidableEq

/-- A command with what is said about how to carry it out. -/
structure Invocation where
  command : Command
  /-- Whether questions are answered with yes beforehand. -/
  yes : Bool
  /-- The file of settings to be used. -/
  config : Option String
  overrides : Overrides
  deriving DecidableEq

namespace Invocation

/-- The name of the program. -/
def program : String := "mission-control"

/-- The version of the program. -/
def version : String := "0.1.0"

/-- An argument that stands for itself. -/
def flag (name : String) : Argument := ⟨name, none, .flag⟩

/-- An argument with a text. -/
def option (name : String) : Argument := ⟨name, none, .option .any⟩

/-- A text known by its place. -/
def positional (name : String) : Argument := ⟨name, none, .positional .any⟩

/-- What a term of the board is read as, or the message why it is none. -/
def term {α : Type} (parse : String → Except UnknownTerm α) : ValueCheck :=
  .readable fun text => (parse text).mapError UnknownTerm.message

/-- A form of the log, or the message why a text is none. -/
def logFormat : ValueCheck :=
  .readable fun text => (LogFormat.parse? text).elim (.error (LogFormat.unknownMessage text)) .ok

/-- The arguments that every command takes. -/
def shared : List Argument := [
  ⟨"verbose", some 'v', .flag⟩,
  flag "yes",
  option "api-url",
  option "token",
  ⟨"config", none, .option .nonempty⟩,
  ⟨"log-format", none, .option logFormat⟩,
  ⟨"help", some 'h', .help⟩]

/-- A command with arguments of its own. -/
def leaf (name about : String) (arguments : List Argument) (exclusive : List (String × String)) :
    Usage :=
  ⟨name, about, arguments ++ shared, exclusive, [], false⟩

/-- A command that is carried out by one of those below it. -/
def branch (name about : String) (commands : List Usage) : Usage :=
  ⟨name, about, shared, [], commands, true⟩

/-- The commands that change tasks and show them. -/
def taskUsage : Usage :=
  branch "task" "Create, edit, move and comment on tasks" [
    leaf "create" "Create a task in the inbox" [
      positional "board", positional "title", ⟨"description", some 'd', .option .any⟩,
      ⟨"priority", some 'p', .option (term TaskPriority.parse)⟩] [],
    leaf "update" "Edit a task's fields" [
      positional "board", positional "task_id", option "title", option "description",
      flag "clear-description", ⟨"priority", none, .option (term TaskPriority.parse)⟩,
      option "assign", flag "unassign"]
      [("description", "clear-description"), ("assign", "unassign")],
    leaf "move" "Move a task to another column (inbox, in_progress, review, done)" [
      positional "board", positional "task_id",
      ⟨"status", none, .positional (term TaskStatus.parse)⟩] [],
    leaf "delete" "Delete a task" [positional "board", positional "task_id"] [],
    leaf "comment" "Comment on a task" [
      positional "board", positional "task_id", positional "message"] [],
    leaf "comments" "Show a task with its comment thread" [
      positional "board", positional "task_id"] []]

/-- The commands that list approvals and decide them. -/
def approvalUsage : Usage :=
  branch "approval" "List and decide approvals" [
    leaf "list" "List pending approvals" [positional "board", flag "all"] [],
    leaf "approve" "" [positional "board", positional "approval_id"] [],
    leaf "reject" "" [positional "board", positional "approval_id"] []]

/-- All that may stand on a command line. -/
def usage : Usage :=
  let about := "Live Mission Control board client"
  let root := branch program about [
    leaf "snapshot" "Load a board once and print it" [positional "board", flag "json"] [],
    leaf "watch" "Follow a board live until Ctrl-C" [positional "board"] [],
    taskUsage,
    approvalUsage,
    branch "chat" "Board chat" [
      leaf "send" "Send a message to board chat" [positional "board", positional "message"] []],
    -- The settings are shown unless something else is asked for.
    { branch "config" "View or validate configuration" [
        leaf "show" "Show the effective configuration, token masked" [] [],
        leaf "validate" "Validate configuration and show any warnings" [] []] with
      needsCommand := false }]
  -- Only the program has a version, so the flag for it is not among those that are shared.
  { root with arguments := root.arguments ++ [⟨"version", some 'V', .version⟩] }

/-- The change of a task that the arguments describe. -/
def taskUpdate (matched : Matched) : TaskUpdate where
  title := matched.text? "title"
  description :=
    -- A field that is cleared differs from one that is not named.
    if matched.has "clear-description" then some none
    else (matched.text? "description").map some
  status := none
  priority := (matched.text? "priority").bind fun text => (TaskPriority.parse text).toOption
  assignedAgentId :=
    if matched.has "unassign" then some none else (matched.text? "assign").map some

/-- The errand that matched words give. -/
def errandOf? (matched : Matched) : Option Errand :=
  let text (name : String) : Option String := matched.text? name
  match matched.path with
  | ["snapshot"] => return .snapshot (← text "board") (matched.has "json")
  | ["task", "create"] =>
    let priority := (text "priority").bind fun text => (TaskPriority.parse text).toOption
    return .createTask (← text "board") (← text "title") (text "description")
      (priority.getD .medium)
  | ["task", "update"] =>
    return .updateTask (← text "board") (← text "task_id") (taskUpdate matched)
  | ["task", "move"] =>
    return .moveTask (← text "board") (← text "task_id")
      (← (TaskStatus.parse (← text "status")).toOption)
  | ["task", "delete"] => return .deleteTask (← text "board") (← text "task_id")
  | ["task", "comment"] =>
    return .commentTask (← text "board") (← text "task_id") (← text "message")
  | ["task", "comments"] => return .showTask (← text "board") (← text "task_id")
  | ["approval", "list"] => return .listApprovals (← text "board") (matched.has "all")
  | ["approval", "approve"] =>
    return .decideApproval (← text "board") (← text "approval_id") .approved
  | ["approval", "reject"] =>
    return .decideApproval (← text "board") (← text "approval_id") .rejected
  | ["chat", "send"] => return .sendChat (← text "board") (← text "message")
  | ["config", "validate"] => some .checkSettings
  | ["config"] | ["config", "show"] => some .showSettings
  | _ => none

/-- The command that matched words give. -/
def commandOf? (matched : Matched) : Option Command :=
  match matched.path with
  | ["watch"] => (matched.text? "board").map .watch
  | _ => (errandOf? matched).map .errand

/-- What the words of a command line ask for. -/
def parse (words : List String) : Except Stop Invocation := do
  let matched ← usage.parse words
  -- Words that match the usage hold every argument that their command reads.
  let some command := commandOf? matched | throw (.fault (.argumentsMissing []))
  let format := (matched.text? "log-format").bind LogFormat.parse?
  return ⟨command, matched.has "yes", matched.text? "config",
    ⟨matched.text? "api-url", matched.text? "token", format⟩⟩

end Invocation

end LiveBoard.Cli
