import LiveBoard.Cli.Watch
import LiveBoard.Environment.Dotenv

/-! A whole run of the program, from its words and surroundings to what it prints and its code. -/

namespace LiveBoard.Cli

/-- What a run finds around it. -/
structure Surroundings where
  environment : Environment
  /-- The file of variables in the directory of the run, if there is one. -/
  dotenv : Option String
  files : Files

/-- What a run leaves: its code, and what it printed on either channel. -/
structure Outcome where
  code : Nat
  output : String
  errors : String
  deriving DecidableEq

/-- The end of a run whose words lead to no command. -/
def Outcome.ofStop : Stop → Outcome
  | .version => ⟨0, Invocation.program ++ " " ++ Invocation.version ++ "\n", ""⟩
  | .help about true => ⟨0, about ++ "\n", ""⟩
  -- Help that nobody asked for is a fault of the words.
  | .help about false => ⟨2, "", about ++ "\n"⟩
  | .fault fault => ⟨2, "", "error: " ++ fault.message ++ "\n"⟩

/-- The end of a run that failed. -/
def Outcome.ofFailure (failure : Failure) : Outcome := ⟨1, "", failure.report⟩

/-- The end of a run that did what it was asked to, or failed. -/
def Outcome.ofResult : Except Failure String → Outcome
  | .ok output => ⟨0, output, ""⟩
  | .error failure => .ofFailure failure

/-- The variables of a run with those of its file. -/
def completed (environment : Environment) (dotenv : Option String) : Environment :=
  dotenv.elim environment (Dotenv.load environment)

/-- The one file besides that of the variables that a run may read. -/
def settingsPath? (environment : Environment) (dotenv : Option String) (words : List String) :
    Option String :=
  match Invocation.parse words with
  | .ok invocation => invocation.config.or (completed environment dotenv).configPath?
  | .error _ => none

/-- What a run is asked to do, and the context for it, or how the run ends without either. -/
def prepare (platform : Platform) (surroundings : Surroundings) (words : List String) :
    Except Outcome (Invocation × Context) := do
  -- Variables of the file count only where the surroundings do not set them.
  let environment := completed surroundings.environment surroundings.dotenv
  -- Words are read before any file of settings, so help needs none.
  let invocation ← (Invocation.parse words).mapError Outcome.ofStop
  let resolved := Context.resolve platform environment surroundings.files invocation
  let context ← resolved.mapError fun fault => .ofFailure (.ofSettings fault)
  return (invocation, context)

/-- A run from its words to its end; a board is watched until so many requests have been made. -/
def run (surroundings : Surroundings) (words : List String) (requests : Nat)
    (platform : Platform := {}) : Dialogue Outcome :=
  match prepare platform surroundings words with
  | .error outcome => .done outcome
  | .ok (invocation, context) =>
    let work : Work String :=
      match invocation.command with
      | .errand errand => context.execute invocation.yes errand
      | .watch board => context.watch board requests
    work.run.bind fun result => .done (.ofResult result)

end LiveBoard.Cli
