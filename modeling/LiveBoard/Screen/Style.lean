/-! How text is set off on a terminal: colors, weight and icons. -/

namespace LiveBoard

/-- A color or weight of text. -/
inductive Style where
  | bold
  | dim
  | red
  | green
  | yellow
  | blue
  | magenta
  | cyan
  deriving DecidableEq, Repr

/-- The number by which a terminal knows a style. -/
def Style.code : Style → Nat
  | .bold => 1
  | .dim => 2
  | .red => 31
  | .green => 32
  | .yellow => 33
  | .blue => 34
  | .magenta => 35
  | .cyan => 36

/-- The small pictures that mark what a line is about. -/
inductive Icon where
  | check
  | cross
  | warn
  | live
  | board
  | approval
  | agent
  | comment
  | chat
  deriving DecidableEq, Repr

namespace Icon

/-- The picture itself, with the room after it. -/
def picture : Icon → String
  | .check => "✅ "
  | .cross => "❌ "
  | .warn => "⚠️  "
  | .live => "📡 "
  | .board => "📋 "
  | .approval => "🛂 "
  | .agent => "🤖 "
  | .comment => "💬 "
  | .chat => "🗨️  "

/-- What stands for the picture on a terminal without pictures. -/
def marker : Icon → String
  | .check => "[OK]"
  | .cross => "[ERR]"
  | .warn => "[!]"
  | .live => "[LIVE]"
  | .board => ""
  | .approval => "[A]"
  | .agent => "[@]"
  | .comment => ">"
  | .chat => "#"

end Icon

/-- What a terminal can show. -/
structure Terminal where
  colors : Bool
  pictures : Bool
  deriving DecidableEq

namespace Terminal

/-- A text in a style, even if it is empty. -/
def paint (terminal : Terminal) (style : Style) (text : String) : String :=
  if terminal.colors then "\x1b[" ++ toString style.code ++ "m" ++ text ++ "\x1b[0m" else text

/-- An icon as the terminal can show it. -/
def icon (terminal : Terminal) (icon : Icon) : String :=
  if terminal.pictures then icon.picture else icon.marker

end Terminal

end LiveBoard
