import LiveBoard.Json.Shape
import LiveBoard.Instant.Reader
import LiveBoard.Instant.Printer

/-! How each kind of field is written as JSON, and which JSON it is read from. -/

namespace LiveBoard

/--
A kind of field.

The shape tells why a value is refused; the decoder alone tells which values are accepted.
-/
structure Codec (α : Type) where
  shape : Shape
  decode? : Json → Option α
  encode : α → Json

namespace Codec

/-- A text. -/
def text : Codec String where
  shape := .text
  decode? := Json.text?
  encode := .string

/-- A truth value. -/
def flag : Codec Bool where
  shape := .flag
  decode?
    | .bool b => some b
    | _ => none
  encode := .bool

/-- A count of 32 bits. -/
def count : Codec UInt32 where
  shape := .count
  decode?
    | .number (.integer i) =>
      if 0 ≤ i ∧ i ≤ Shape.maxCount then some (UInt32.ofNat i.toNat) else none
    | _ => none
  encode n := .ofNat n.toNat

/-- A floating point number; integers are accepted, and what is not finite is written as null. -/
def real : Codec Binary64 where
  shape := .real
  decode?
    | .number (.integer i) => some (.ofInt i)
    | .number (.real x) => some x
    | _ => none
  -- JSON has no way to write what is not finite.
  encode x := if x.isFinite then .number (.real x) else .null

/-- An object that is kept as it is. -/
def map : Codec Members where
  shape := .map
  decode? := Json.members?
  encode := .object

/-- A value that is kept as it is. -/
def anything : Codec Json where
  shape := .anything
  decode? := some
  encode := id

/-- An instant. -/
def instant : Codec Instant where
  -- A text that is no instant is refused with a message of its own.
  shape := .checkedText fun text =>
    if (Instant.parse? text).isSome then none else some (.invalidTimestamp text)
  decode? value := value.text?.bind Instant.parse?
  encode value := .string value.render

/-- An instant that may be absent; a text that is no instant counts as absent. -/
def lenientInstant : Codec (Option Instant) where
  shape := .nullable .text
  decode?
    | .null => some none
    -- The server may send what no instant can be read from, which must not cost the record.
    | .string text => some (Instant.parse? text)
    | _ => none
  encode value := value.elim .null (.string ·.render)

/-- A field that may be absent, null standing for its absence. -/
def optional {α : Type} (codec : Codec α) : Codec (Option α) where
  shape := .nullable codec.shape
  decode?
    | .null => some none
    | value => (codec.decode? value).map some
  encode value := value.elim .null codec.encode

/-- A field for which null stands for a default. -/
def orDefault {α : Type} (codec : Codec α) (default : α) : Codec α where
  shape := .nullable codec.shape
  decode?
    | .null => some default
    | value => codec.decode? value
  encode := codec.encode

/-- One of a few names, given as a text or as the only key of an object that holds null. -/
def choice {α : Type} (all : List α) (name : α → String) : Codec α where
  shape := .choice (all.map name)
  decode?
    | .string text => all.find? (name · = text)
    -- A choice without content is also accepted in the form of one with content.
    | .object [(key, .null)] => all.find? (name · = key)
    | _ => none
  encode value := .string (name value)

/-- A list. -/
def list {α : Type} (codec : Codec α) : Codec (List α) where
  shape := .list codec.shape
  decode? value := value.items?.bind fun items => items.mapM codec.decode?
  encode values := .array (values.map codec.encode)

/-- The value that JSON stands for, or why it stands for none. -/
def decode {α : Type} (codec : Codec α) (value : Json) : Except Fault α :=
  match codec.decode? value with
  | some decoded => .ok decoded
  | none => .error ((codec.shape.fault value).getD default)

end Codec

end LiveBoard
