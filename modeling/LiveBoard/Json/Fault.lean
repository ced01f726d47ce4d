import LiveBoard.Json.Printer
import LiveBoard.Text.Quoted

/-! Why a JSON value is not what a field or a record holds. -/

namespace LiveBoard

/-- What a value is, as far as a fault tells of it. -/
inductive Found where
  | null
  | bool (b : Bool)
  | number (n : JsonNumber)
  | string (s : String)
  | sequence
  | map
  deriving DecidableEq

/-- What a value is. -/
def Json.found : Json → Found
  | .null => .null
  | .bool b => .bool b
  | .number n => .number n
  | .string s => .string s
  | .array _ => .sequence
  | .object _ => .map

/-- What was found, in words. -/
def Found.describe : Found → String
  | .null => "null"
  | .bool b => "boolean `" ++ (if b then "true" else "false") ++ "`"
  | .number (.integer i) => "integer `" ++ toString i ++ "`"
  | .number (.real x) => "floating point `" ++ x.render .payload ++ "`"
  | .string s => "string " ++ Text.quoted s
  | .sequence => "sequence"
  | .map => "map"

/-- Why a value was refused. -/
inductive Fault where
  | invalidType (found : Found) (expected : String)
  | invalidValue (found : Found) (expected : String)
  | invalidLength (length : Nat) (expected : String)
  | unknownVariant (name : String) (known : List String)
  | missingField (key : String)
  | duplicateField (key : String)
  | invalidTimestamp (text : String)
  deriving DecidableEq, Inhabited

/-- A word between backquotes. -/
def backquoted (word : String) : String := "`" ++ word ++ "`"

/-- The message of a fault. -/
def Fault.message : Fault → String
  | .invalidType found expected => "invalid type: " ++ found.describe ++ ", expected " ++ expected
  | .invalidValue found expected => "invalid value: " ++ found.describe ++ ", expected " ++ expected
  | .invalidLength length expected =>
    "invalid length " ++ toString length ++ ", expected " ++ expected
  | .unknownVariant name known =>
    "unknown variant " ++ backquoted name ++ ", expected one of " ++
      ", ".intercalate (known.map backquoted)
  | .missingField key => "missing field " ++ backquoted key
  | .duplicateField key => "duplicate field " ++ backquoted key
  | .invalidTimestamp text => "invalid timestamp '" ++ text ++ "'"

end LiveBoard
