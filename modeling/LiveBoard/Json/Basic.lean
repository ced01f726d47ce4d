import LiveBoard.Binary64.Basic

/-! JSON values whose objects hold one member per key, in ascending order of the keys. -/

namespace LiveBoard

/-- A number is an integer of at most 64 bits, or else a floating point number. -/
inductive JsonNumber where
  | integer (i : Int)
  | real (x : Binary64)
  deriving DecidableEq

/-- A JSON value. -/
inductive Json where
  | null
  | bool (b : Bool)
  | number (n : JsonNumber)
  | string (s : String)
  | array (items : List Json)
  | object (members : List (String × Json))
  deriving Inhabited

mutual

/-- Whether two values are the same. -/
def Json.same : Json → Json → Bool
  | .null, .null => true
  | .bool a, .bool b => a == b
  | .number a, .number b => a == b
  | .string a, .string b => a == b
  | .array a, .array b => Json.sameItems a b
  | .object a, .object b => Json.sameMembers a b
  | _, _ => false

/-- Whether two lists hold the same values. -/
def Json.sameItems : List Json → List Json → Bool
  | [], [] => true
  | a :: as, b :: bs => Json.same a b && Json.sameItems as bs
  | _, _ => false

/-- Whether two lists hold the same keys and values. -/
def Json.sameMembers : List (String × Json) → List (String × Json) → Bool
  | [], [] => true
  | (key, a) :: as, (other, b) :: bs => key == other && Json.same a b && Json.sameMembers as bs
  | _, _ => false

end

mutual

/-- Values that compare as the same are equal. -/
theorem Json.eq_of_same : ∀ {a b : Json}, Json.same a b = true → a = b
  | .null, .null, _ => rfl
  | .bool _, .bool _, same => by simpa [Json.same] using same
  | .number _, .number _, same => by simpa [Json.same] using same
  | .string _, .string _, same => by simpa [Json.same] using same
  | .array _, .array _, same => congrArg Json.array (Json.eq_of_sameItems same)
  | .object _, .object _, same => congrArg Json.object (Json.eq_of_sameMembers same)

/-- Lists of values that compare as the same are equal. -/
theorem Json.eq_of_sameItems : ∀ {as bs : List Json}, Json.sameItems as bs = true → as = bs
  | [], [], _ => rfl
  | _ :: _, _ :: _, same => by
    simp only [Json.sameItems, Bool.and_eq_true] at same
    rw [Json.eq_of_same same.1, Json.eq_of_sameItems same.2]

/-- Lists of members that compare as the same are equal. -/
theorem Json.eq_of_sameMembers :
    ∀ {as bs : List (String × Json)}, Json.sameMembers as bs = true → as = bs
  | [], [], _ => rfl
  | (_, _) :: _, (_, _) :: _, same => by
    simp only [Json.sameMembers, Bool.and_eq_true, beq_iff_eq] at same
    rw [same.1.1, Json.eq_of_same same.1.2, Json.eq_of_sameMembers same.2]

end

mutual

/-- Every value compares as the same as itself. -/
theorem Json.same_self : ∀ a : Json, Json.same a a = true
  | .null => rfl
  | .bool _ => by simp [Json.same]
  | .number _ => by simp [Json.same]
  | .string _ => by simp [Json.same]
  | .array items => by simpa [Json.same] using Json.sameItems_self items
  | .object members => by simpa [Json.same] using Json.sameMembers_self members

/-- Every list of values compares as the same as itself. -/
theorem Json.sameItems_self : ∀ as : List Json, Json.sameItems as as = true
  | [] => rfl
  | a :: as => by simp [Json.sameItems, Json.same_self a, Json.sameItems_self as]

/-- Every list of members compares as the same as itself. -/
theorem Json.sameMembers_self : ∀ as : List (String × Json), Json.sameMembers as as = true
  | [] => rfl
  | (_, a) :: as => by simp [Json.sameMembers, Json.same_self a, Json.sameMembers_self as]

end

instance : DecidableEq Json := fun a b =>
  if same : Json.same a b = true then isTrue (Json.eq_of_same same)
  else isFalse fun equal => same (equal ▸ Json.same_self a)

/-- The members of an object. -/
abbrev Members := List (String × Json)

namespace Members

/-- The value of a key. -/
def get? : Members → String → Option Json
  | [], _ => none
  | (key, value) :: rest, wanted => if key = wanted then some value else get? rest wanted

/-- Set the value of a key, keeping ascending keys ascending. -/
def insert (key : String) (value : Json) : Members → Members
  | [] => [(key, value)]
  | (other, held) :: rest =>
    -- Keys ascend, so the first greater one marks the place.
    if key < other then (key, value) :: (other, held) :: rest
    else if other = key then (key, value) :: rest
    else (other, held) :: insert key value rest

/-- The members listed, a later value of a key replacing an earlier one. -/
def ofList (entries : List (String × Json)) : Members :=
  entries.foldl (fun members entry => insert entry.1 entry.2 members) []

/-- Lay one object over another: every key that the upper one names takes its value there. -/
def overlay (lower upper : Members) : Members :=
  -- The first member of a key is laid over last, as it is the one that is found.
  upper.foldr (fun entry members => insert entry.1 entry.2 members) lower

/-- Setting a key changes what is held under that key and under no other. -/
theorem get?_insert (members : Members) (key wanted : String) (value : Json) :
    (insert key value members).get? wanted =
      if key = wanted then some value else members.get? wanted := by
  -- The new member stands before every member it could be mistaken for.
  induction members with
  | nil => simp [insert, get?]
  | cons entry rest ih =>
    obtain ⟨other, held⟩ := entry
    unfold insert
    split
    · simp [get?]
    · split
      · rename_i same
        subst same
        simp only [get?]
        split <;> rfl
      · rename_i differs
        simp only [get?, ih]
        by_cases hit : other = wanted
        · subst hit
          simp [Ne.symm differs]
        · simp [hit]

end Members

namespace Json

/-- The text of a string value. -/
def text? : Json → Option String
  | .string s => some s
  | _ => none

/-- The members of an object value. -/
def members? : Json → Option Members
  | .object members => some members
  | _ => none

/-- The items of an array value. -/
def items? : Json → Option (List Json)
  | .array items => some items
  | _ => none

/-- The value of a key of an object; nothing for any other value. -/
def get? (value : Json) (key : String) : Option Json :=
  value.members?.bind (·.get? key)

/-- A text, or null in its absence. -/
def ofText? (text : Option String) : Json :=
  text.elim .null .string

/-- A natural number. -/
def ofNat (n : Nat) : Json := .number (.integer n)

end Json

end LiveBoard
