import LiveBoard.Settings.File
import LiveBoard.Sync.Error

/-! Why the program could not do what it was asked to, and how it says so. -/

namespace LiveBoard.Cli

/-- A failure with what lies beneath it, from the outermost cause. -/
structure Failure where
  message : String
  causes : List String
  deriving DecidableEq

namespace Failure

/-- A failure with nothing beneath it. -/
def plain (message : String) : Failure := ⟨message, []⟩

/-- The failure of a call or a connection. -/
def ofApi (error : ApiError) : Failure := ⟨error.message, error.causes⟩

/-- The failure of a change. -/
def ofSync (error : SyncError) : Failure := ⟨error.message, error.causes⟩

/-- Settings that were not loaded. -/
def ofSettings (fault : SettingsFault) : Failure := ⟨fault.message, fault.causes⟩

/-- A failure as the cause of another one. -/
def within (failure : Failure) (message : String) : Failure :=
  ⟨message, failure.message :: failure.causes⟩

/-- A text whose lines after the first one are moved in. -/
def hanging (room : Nat) (text : String) : String :=
  String.ofList (text.toList.flatMap fun c =>
    if c = '\n' then c :: List.replicate room ' ' else [c])

/-- The causes of a failure, each on lines of its own; only several of them are numbered. -/
def causeLines : List String → List String
  -- A cause by itself needs no number.
  | [cause] => ["    " ++ hanging 4 cause]
  | causes =>
    (causes.zip (List.range causes.length)).map fun (cause, index) =>
      let number := toString index
      String.ofList (List.replicate (5 - number.length) ' ') ++ number ++ ": " ++ hanging 7 cause

/-- A failure with its causes as the user reads it. -/
def report (failure : Failure) : String :=
  let causes :=
    if failure.causes.isEmpty then ""
    else "\n\nCaused by:" ++ String.join ((causeLines failure.causes).map ("\n" ++ ·))
  "Error: " ++ failure.message ++ causes ++ "\n"

end Failure

end LiveBoard.Cli
