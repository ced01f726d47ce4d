import LiveBoard.Screen.Style
import LiveBoard.Settings.Layers
import LiveBoard.Text.Case

/-! The variables that surround a run, and what the program takes from them. -/

namespace LiveBoard

/-- Variables with their values. -/
structure Environment where
  entries : List (String × String)

namespace Environment

/-- The value of a variable, if it is set. -/
def get? (environment : Environment) (name : String) : Option String :=
  environment.entries.lookup name

/-- Set a variable unless it is set already. -/
def define (environment : Environment) (name value : String) : Environment :=
  match environment.get? name with
  -- What surrounds a run goes before what its file of variables says.
  | some _ => environment
  | none => ⟨environment.entries ++ [(name, value)]⟩

/-- Whether the terminal shows pictures: its language is written in an encoding that has them. -/
def hasPictures (environment : Environment) : Bool :=
  match environment.get? "LANG" with
  | some language => (Text.upper language).endsWith "UTF-8"
  | none => false

/-- Whether colors are asked for. -/
def hasColors (environment : Environment) : Bool :=
  match environment.get? "CLICOLOR_FORCE" with
  | some choice => choice != "0"
  | none => false

/-- The terminal that a run writes to. -/
def terminal (environment : Environment) : Terminal :=
  ⟨environment.hasColors, environment.hasPictures⟩

/-- A path below a directory. -/
def join (directory path : String) : String :=
  if directory.endsWith "/" then directory ++ path else directory ++ "/" ++ path

/-- The directory of a user's settings. -/
def configDirectory? (environment : Environment) : Option String :=
  -- A relative path is no directory of settings, and is passed over.
  match (environment.get? "XDG_CONFIG_HOME").filter (·.startsWith "/") with
  | some directory => some directory
  | none =>
    match (environment.get? "HOME").filter (!·.isEmpty) with
    | some home => some (join home ".config")
    | none => none

/-- The file of settings that is used unless another is asked for. -/
def configPath? (environment : Environment) : Option String :=
  match (environment.get? configVariable).bind Text.nonBlank with
  | some path => some path
  | none => environment.configDirectory?.map fun directory =>
    join directory "mission-control/config.toml"

end Environment

end LiveBoard
