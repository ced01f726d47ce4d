import LiveBoard.Settings.Basic
import LiveBoard.Text.Blank

/-! Settings from the environment and the command line, laid over those of a document. -/

namespace LiveBoard

open Text (nonBlank)

/-- A setting given on the command line, which takes the place of any other. -/
structure Overrides where
  apiUrl : Option String
  token : Option String
  logFormat : Option LogFormat
  deriving DecidableEq

/-- The variable that names the server. -/
def apiUrlVariable : String := "MISSION_CONTROL_API_URL"

/-- The variable that holds the token. -/
def tokenVariable : String := "MISSION_CONTROL_TOKEN"

/-- The variable that names the document of settings. -/
def configVariable : String := "MISSION_CONTROL_CONFIG"

namespace Settings

/-- The settings with a server and a token laid over them; blank ones are passed over. -/
def overlay (settings : Settings) (apiUrl token : Option String) : Settings :=
  { settings with
    -- A blank setting is one that was meant to be unset.
    apiUrl := (apiUrl.bind nonBlank).getD settings.apiUrl
    token := (token.bind nonBlank).or settings.token }

/-- The settings with those of the environment laid over them. -/
def applyEnvironment (settings : Settings) (lookup : String → Option String) : Settings :=
  settings.overlay (lookup apiUrlVariable) (lookup tokenVariable)

/-- The settings with those of the command line laid over them. -/
def applyOverrides (settings : Settings) (overrides : Overrides) : Settings :=
  let settings := settings.overlay overrides.apiUrl overrides.token
  { settings with logFormat := overrides.logFormat.getD settings.logFormat }

end Settings

/-- Settings that are accepted but hardly meant. -/
inductive SettingsWarning where
  | tokenMissing
  | noReconnectDelay
  | noFrames
  deriving DecidableEq

/-- The message of a warning. -/
def SettingsWarning.message : SettingsWarning → String
  | .tokenMissing =>
    "No API token configured; set " ++ tokenVariable ++ " or [api] token to sign in"
  | .noReconnectDelay =>
    "stream.reconnect_delay_ms is 0; dropped streams will reconnect in a tight loop"
  | .noFrames => "stream.max_frame_bytes is 0; every stream chunk will be discarded"

/-- The warnings about settings. -/
def Settings.warnings (settings : Settings) : List SettingsWarning :=
  (if settings.token.isNone then [.tokenMissing] else []) ++
    (if settings.reconnectDelay = 0 then [.noReconnectDelay] else []) ++
    (if settings.frameLimit = 0 then [.noFrames] else [])

end LiveBoard
