import LiveBoard.Json.Basic
import LiveBoard.Binary64.Shortest

/-! JSON text on one line, and JSON text with a line per member. -/

namespace LiveBoard

/-- An integer is written in full, any other number with the fewest digits that read back. -/
def JsonNumber.render : JsonNumber → String
  | .integer i => toString i
  | .real x => x.render .payload

namespace Json

/-- Two lower case hexadecimal digits. -/
def hexPair (n : Nat) : List Char :=
  let digit (d : Nat) := (Nat.digitChar d)
  [digit (n / 16), digit (n % 16)]

/-- A character inside a JSON string: quotes, backslashes and control characters are escaped. -/
def escapeChar (c : Char) : List Char :=
  match c with
  | '"' => ['\\', '"']
  | '\\' => ['\\', '\\']
  | '\n' => ['\\', 'n']
  | '\r' => ['\\', 'r']
  | '\t' => ['\\', 't']
  | '\x08' => ['\\', 'b']
  | '\x0c' => ['\\', 'f']
  -- Control characters that have no letter of their own are written as code points.
  | c => if c.toNat < 0x20 then ['\\', 'u', '0', '0'] ++ hexPair c.toNat else [c]

/-- A JSON string. -/
def quote (text : String) : String :=
  String.ofList ('"' :: text.toList.flatMap escapeChar ++ ['"'])

/-- Text between separators. -/
def joined (separator : String) (parts : List String) : String :=
  separator.intercalate parts

mutual

/-- JSON text without any white space. -/
def compact : Json → String
  | .null => "null"
  | .bool b => if b then "true" else "false"
  | .number n => n.render
  | .string s => quote s
  | .array items => "[" ++ joined "," (compactItems items) ++ "]"
  | .object members => "\x7b" ++ joined "," (compactMembers members) ++ "\x7d"

/-- The compact text of each item. -/
def compactItems : List Json → List String
  | [] => []
  | item :: rest => compact item :: compactItems rest

/-- The compact text of each member. -/
def compactMembers : List (String × Json) → List String
  | [] => []
  | (key, value) :: rest => (quote key ++ ":" ++ compact value) :: compactMembers rest

end

/-- A line break and the indentation of a depth, two spaces for each level. -/
def lineBreak (depth : Nat) : String :=
  "\n" ++ String.ofList (List.replicate (2 * depth) ' ')

mutual

/-- JSON text with every item and member on a line of its own; empty containers stay closed. -/
def pretty (depth : Nat) : Json → String
  -- What is empty has no line to put on its own.
  | .array [] => "[]"
  | .array items =>
    "[" ++ lineBreak (depth + 1) ++
      joined ("," ++ lineBreak (depth + 1)) (prettyItems (depth + 1) items) ++
        lineBreak depth ++ "]"
  | .object [] => "\x7b\x7d"
  | .object members =>
    "\x7b" ++ lineBreak (depth + 1) ++
      joined ("," ++ lineBreak (depth + 1)) (prettyMembers (depth + 1) members) ++
      lineBreak depth ++ "\x7d"
  | .null => "null"
  | .bool b => if b then "true" else "false"
  | .number n => n.render
  | .string s => quote s

/-- The text of each item at a depth. -/
def prettyItems (depth : Nat) : List Json → List String
  | [] => []
  | item :: rest => pretty depth item :: prettyItems depth rest

/-- The text of each member at a depth. -/
def prettyMembers (depth : Nat) : List (String × Json) → List String
  | [] => []
  | (key, value) :: rest => (quote key ++ ": " ++ pretty depth value) :: prettyMembers depth rest

end

end Json

end LiveBoard
