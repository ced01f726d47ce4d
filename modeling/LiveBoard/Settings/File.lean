import LiveBoard.Settings.Document

/-! Settings kept in a file. -/

namespace LiveBoard

/-- Why a file could not be read. -/
inductive FileFault where
  | missing
  | notDirectory
  | isDirectory
  | denied
  | notText
  deriving DecidableEq

/-- The message of a fault. -/
def FileFault.message : FileFault → String
  | .missing => "No such file or directory (os error 2)"
  | .notDirectory => "Not a directory (os error 20)"
  | .isDirectory => "Is a directory (os error 21)"
  | .denied => "Permission denied (os error 13)"
  | .notText => "stream did not contain valid UTF-8"

/-- The files that can be read, by their paths. -/
abbrev Files := String → Except FileFault String

/-- Whether there is anything at a path. -/
def Files.has (files : Files) (path : String) : Bool :=
  match files path with
  -- A file that cannot be read is there all the same.
  | .error .missing | .error .notDirectory => false
  | .ok _ | .error _ => true

/-- Why settings were not loaded. -/
inductive SettingsFault where
  | unreadable (path : String) (fault : FileFault)
  | malformed (path : String)
  deriving DecidableEq

namespace SettingsFault

/-- What is said of a text that holds no settings. -/
def notSettings : String := "Failed to parse config.toml"

/-- The message of a fault. -/
def message : SettingsFault → String
  | .unreadable path _ => "Failed to read config file: " ++ path
  | .malformed path => "Invalid config file: " ++ path

/-- What lies beneath a fault, from the outermost cause. -/
def causes : SettingsFault → List String
  | .unreadable _ fault => [fault.message]
  -- Where in the text the trouble lies is not told.
  | .malformed _ => [notSettings, "TOML parse error"]

end SettingsFault

namespace Settings

/-- The settings of a file that has to be there. -/
def load (files : Files) (path : String) : Except SettingsFault Settings :=
  match files path with
  | .error fault => .error (.unreadable path fault)
  | .ok content => (parse? content).elim (.error (.malformed path)) .ok

/-- The settings of a file, or the standard ones if there is no such file. -/
def loadOrStandard (files : Files) (path : String) : Except SettingsFault Settings :=
  if files.has path then load files path else .ok standard

end Settings

end LiveBoard
