import LiveBoard.Json.Codec

/-! Records as lists of fields, written as objects and read from objects or by position. -/

namespace LiveBoard

/-- A field of a record: its key, its kind, and how it is read from and stored in the record. -/
structure Field (ε : Type) where
  key : String
  required : Bool
  {α : Type}
  codec : Codec α
  get : ε → α
  set : α → ε → ε

namespace Field

variable {ε α : Type}

/-- A field that every record gives. -/
def needed (key : String) (codec : Codec α) (get : ε → α) (set : α → ε → ε) : Field ε :=
  ⟨key, true, codec, get, set⟩

/-- A field that keeps its default where a record leaves it out. -/
def given (key : String) (codec : Codec α) (get : ε → α) (set : α → ε → ε) : Field ε :=
  ⟨key, false, codec, get, set⟩

/-- Store what the members give for a field. -/
def load (field : Field ε) (members : Members) (record : ε) : Option ε :=
  match members.get? field.key with
  | some value => (field.codec.decode? value).map fun decoded => field.set decoded record
  | none => if field.required then none else some record

/-- The member that a record has for a field. -/
def member (field : Field ε) (record : ε) : String × Json :=
  (field.key, field.codec.encode (field.get record))

end Field

/-- A kind of record: its name, a record of defaults, and its fields in order of declaration. -/
structure Schema (ε : Type) where
  name : String
  blank : ε
  fields : List (Field ε)

namespace Schema

variable {ε : Type}

/-- What a record has to look like. -/
def shape (schema : Schema ε) : Shape :=
  .record schema.name
    (schema.fields.map fun field => (field.key, field.required, field.codec.shape))

/-- The record that members give. -/
def ofMembers? (schema : Schema ε) (members : Members) : Option ε :=
  schema.fields.foldlM (fun record field => field.load members record) schema.blank

/-- The record that a value gives, with its fields by key or by position. -/
def decode? (schema : Schema ε) : Json → Option ε
  | .object members => schema.ofMembers? members
  | .array items =>
    -- Fields that the items do not reach keep their defaults, if they have any.
    if items.length ≤ schema.fields.length then
      schema.ofMembers? ((schema.fields.map Field.key).zip items)
    else none
  | _ => none

/-- The members of a record, in order of declaration. -/
def members (schema : Schema ε) (record : ε) : Members :=
  schema.fields.map (·.member record)

/-- The codec of a record. -/
def codec (schema : Schema ε) : Codec ε where
  shape := schema.shape
  decode? := schema.decode?
  encode record := .object (schema.members record)

/-- The record that a value stands for, or why it stands for none. -/
def decode (schema : Schema ε) (value : Json) : Except Fault ε :=
  schema.codec.decode value

/-- A record as JSON. -/
def encode (schema : Schema ε) (record : ε) : Json :=
  schema.codec.encode record

end Schema

end LiveBoard
