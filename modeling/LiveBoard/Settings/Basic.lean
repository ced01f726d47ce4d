import LiveBoard.Stream.Subscriber
import LiveBoard.Text.Case

/-! What a user can set: the server, the token, how feeds are followed, and the form of the log. -/

namespace LiveBoard

/-- The form of log lines. -/
inductive LogFormat where
  | pretty
  | json
  deriving DecidableEq

namespace LogFormat

/-- All forms. -/
def all : List LogFormat := [.pretty, .json]

/-- The name of a form. -/
def name : LogFormat → String
  | .pretty => "pretty"
  | .json => "json"

/-- The form of a name, in letters of either case. -/
def parse? (text : String) : Option LogFormat :=
  all.find? (name · = Text.lower text)

/-- The message for a name of no form. -/
def unknownMessage (text : String) : String :=
  "Invalid log format '" ++ text ++ "'. Valid values: pretty, json"

end LogFormat

/-- Everything a user can set. -/
structure Settings where
  /-- The address of the server, as it was given. -/
  apiUrl : String
  token : Option String
  /-- The wait before a lost feed is followed again, in milliseconds. -/
  reconnectDelay : UInt64
  /-- The most bytes of an unfinished event that are kept. -/
  frameLimit : UInt64
  logFormat : LogFormat
  deriving DecidableEq

namespace Settings

/-- The settings of a user who set nothing. -/
def standard : Settings where
  apiUrl := "http://localhost:8000"
  token := none
  reconnectDelay := .ofNat Subscription.defaultDelay
  frameLimit := .ofNat EventStream.defaultLimit
  logFormat := .pretty

end Settings

end LiveBoard
