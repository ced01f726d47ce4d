import LiveBoard.Json.Fault

/-! What a value has to look like, and the first fault of one that does not. -/

namespace LiveBoard

/--
What a value has to look like.

A record lists its fields in the order of declaration, each with its key, whether it is required,
and its shape.
-/
inductive Shape where
  | anything
  | text
  | checkedText (refuse : String → Option Fault)
  | flag
  | count
  | real
  | map
  | choice (names : List String)
  | list (item : Shape)
  | nullable (inner : Shape)
  | record (name : String) (fields : List (String × Bool × Shape))

namespace Shape

/-- The greatest value of a count. -/
def maxCount : Int := 4294967295

/-- What a shape other than a choice is called in a message. -/
def expectation : Shape → String
  | .anything => "any value"
  | .text | .checkedText _ => "a string"
  | .flag => "a boolean"
  | .count => "u32"
  | .real => "f64"
  | .map => "a map"
  | .choice _ => "string or map"
  | .list _ => "a sequence"
  | .nullable inner => inner.expectation
  | .record name _ => "struct " ++ name

/-- How a record given by position is called in a message. -/
def positional (name : String) (size : Nat) : String :=
  "struct " ++ name ++ " with " ++ toString size ++ (if size = 1 then " element" else " elements")

/-- The shape of a value that is not null. -/
def inner : Shape → Shape
  | .nullable inner => inner.inner
  | shape => shape

/-- The fault of a number given as a count. -/
def countFault : JsonNumber → Option Fault
  | .integer i =>
    if 0 ≤ i ∧ i ≤ maxCount then none
    else some (.invalidValue (.number (.integer i)) "u32")
  | .real x => some (.invalidType (.number (.real x)) "u32")

/-- The fault of a name given as one of a choice. -/
def choiceFault (names : List String) (name : String) : Option Fault :=
  if name ∈ names then none else some (.unknownVariant name names)

/-- The shape of a field of a record. -/
def field? (fields : List (String × Bool × Shape)) (key : String) : Option Shape :=
  (fields.find? (·.1 = key)).map (·.2.2)

/-- The first required field, in order of declaration, that has no member. -/
def missing? (fields : List (String × Bool × Shape)) (present : String → Bool) : Option Fault :=
  (fields.find? fun field => field.2.1 && !present field.1).map fun field => .missingField field.1

/-- The fault of positional items that end before the fields from `index` on. -/
def tooShort? (name : String) (size index : Nat) : List (String × Bool × Shape) → Option Fault
  | [] => none
  | (_, required, _) :: rest =>
    if required then some (.invalidLength index (positional name size))
    else tooShort? name size (index + 1) rest

mutual

/-- The first fault of a value, if it is not of the shape. -/
def fault (shape : Shape) : Json → Option Fault
  | .null =>
    match shape with
    | .anything | .nullable _ => none
    | _ => some (.invalidType .null shape.expectation)
  | .bool b =>
    -- From here on no value is null, so that it does not matter whether the shape allows null.
    match shape.inner with
    | .anything | .flag => none
    | _ => some (.invalidType (.bool b) shape.expectation)
  | .number n =>
    match shape.inner with
    | .anything | .real => none
    | .count => countFault n
    | _ => some (.invalidType (.number n) shape.expectation)
  | .string s =>
    match shape.inner with
    | .anything | .text => none
    | .checkedText refuse => refuse s
    | .choice names => choiceFault names s
    | _ => some (.invalidType (.string s) shape.expectation)
  | .array items =>
    match shape.inner with
    | .anything => none
    | .list item => faultOfItems item items
    -- A record may come without its keys, in the order in which its fields are declared.
    | .record name fields => faultOfPositions name fields.length items.length 0 fields items
    | _ => some (.invalidType .sequence shape.expectation)
  | .object members =>
    match shape.inner with
    | .anything | .map => none
    | .choice names => faultOfTagged names members
    | .record _ fields =>
      -- A member that is wrong is found before one that is missing, as it is read before the end.
      (faultOfMembers fields members).or
        (missing? fields fun key => members.any (·.1 = key))
    | _ => some (.invalidType .map shape.expectation)

/-- The first fault of the items of a list. -/
def faultOfItems (item : Shape) : List Json → Option Fault
  | [] => none
  | value :: rest => (fault item value).or (faultOfItems item rest)

/-- The first fault of a record given by position. -/
def faultOfPositions (name : String) (size length index : Nat) :
    List (String × Bool × Shape) → List Json → Option Fault
  | fields, [] => tooShort? name size index fields
  | [], _ :: _ => some (.invalidLength length "fewer elements in array")
  | (_, _, shape) :: fields, value :: rest =>
    (fault shape value).or (faultOfPositions name size length (index + 1) fields rest)

/-- The first fault of the members of a record, in the order they are held. -/
def faultOfMembers (fields : List (String × Bool × Shape)) :
    List (String × Json) → Option Fault
  | [] => none
  | (key, value) :: rest =>
    let first :=
      match field? fields key with
      -- Members that the record does not know are passed over.
      | some shape => fault shape value
      | none => none
    first.or (faultOfMembers fields rest)

/-- The fault of a choice given as an object: it has one member, whose value is null. -/
def faultOfTagged (names : List String) : List (String × Json) → Option Fault
  | [(name, value)] =>
    (choiceFault names name).or
      (if value.found = .null then none else some (.invalidType value.found "unit"))
  | _ => some (.invalidValue .map "map with a single key")

end

end Shape

end LiveBoard
