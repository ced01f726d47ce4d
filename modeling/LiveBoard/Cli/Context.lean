import LiveBoard.Cli.Failure
import LiveBoard.Cli.Command
import LiveBoard.Environment.Basic
import LiveBoard.Sync.Exchange

/-! What commands are carried out with: the terminal, the settings and the client of the server. -/

namespace LiveBoard.Cli

/-- Where settings came from. -/
inductive SettingsSource where
  | file (path : String)
  /-- There is no file, not even at the path where one would be looked for. -/
  | none (path : Option String)
  deriving DecidableEq

/-- What a run takes from the system under it and from its libraries. -/
structure Platform where
  /-- The clocks of the place. -/
  zone : TimeZone := .utc
  /-- How the names of hosts are read. -/
  hosts : Url.HostMapping := .letters

/-- What a command is carried out with. -/
structure Context where
  terminal : Terminal
  settings : Settings
  source : SettingsSource
  platform : Platform

/-- A course of requests that may fail. -/
abbrev Work (α : Type) := ExceptT Failure Dialogue α

namespace Context

/-- The settings of the file that is asked for, or else of the one that is there. -/
def findSettings (environment : Environment) (files : Files) (config : Option String) :
    Except SettingsFault (Settings × SettingsSource) :=
  -- A file that is asked for has to be there; the usual one may be missing.
  match config.or (environment.configPath?.filter files.has) with
  | some path => (Settings.load files path).map (·, .file path)
  | none => .ok (.standard, .none environment.configPath?)

/-- The context of an invocation: the environment is laid over the file, and the words over both. -/
def resolve (platform : Platform) (environment : Environment) (files : Files)
    (invocation : Invocation) : Except SettingsFault Context := do
  let (settings, source) ← findSettings environment files invocation.config
  -- Each layer covers the one before it: the file, the environment, the words.
  let settings := settings.applyEnvironment environment.get?
  return ⟨environment.terminal, settings.applyOverrides invocation.overrides, source, platform⟩

/-- The client of the server that the settings name. -/
def client (context : Context) : Except Failure Client :=
  let settings := context.settings
  (Client.new settings.apiUrl settings.token context.platform.hosts).mapError fun error =>
    (Failure.ofApi error).within ("Cannot use API at " ++ settings.apiUrl)

end Context

end LiveBoard.Cli
