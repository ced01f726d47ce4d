import LiveBoard.Proofs.Json.Record
import Mathlib.Data.List.Forall2
import Mathlib.Data.List.Nodup

/-! Why an object is no record depends on its keys and the faults of its values alone. -/

namespace LiveBoard

namespace Members

/-- Objects that have the same keys in the same places, with values that are at fault alike. -/
def Alike (fields : List (String × Bool × Shape)) : Members → Members → Prop :=
  List.Forall₂ fun entry other => entry.1 = other.1 ∧
    ∀ shape ∈ Shape.field? fields entry.1, shape.fault entry.2 = shape.fault other.2

variable {fields : List (String × Bool × Shape)} {members others : Members}

/-- Objects stay alike when values that are at fault alike are set under one key. -/
theorem Alike.insert (alike : Alike fields members others) {key : String} {value other : Json}
    (same : ∀ shape ∈ Shape.field? fields key, shape.fault value = shape.fault other) :
    Alike fields (insert key value members) (Members.insert key other others) := by
  -- Where a key goes depends on the keys that are there, and these are the same in both.
  induction alike with
  | nil => exact .cons ⟨rfl, same⟩ .nil
  | @cons entry second _ _ head rest ih =>
    obtain ⟨held, first⟩ := entry
    obtain ⟨again, second⟩ := second
    obtain ⟨rfl, faults⟩ : held = again ∧ _ := head
    unfold Members.insert
    -- The key goes in front of a later one, takes the place of itself, or goes on to look.
    split
    · exact .cons ⟨rfl, same⟩ (.cons ⟨rfl, faults⟩ rest)
    · split
      · exact .cons ⟨rfl, same⟩ rest
      · exact .cons ⟨rfl, faults⟩ ih

/-- Objects are alike when they are made of lists of entries that are. -/
theorem Alike.ofList (alike : Alike fields members others) :
    Alike fields (ofList members) (Members.ofList others) := by
  -- The entries are set one after the other in objects that are alike from the start.
  have general : ∀ start again : Members, Alike fields start again →
      Alike fields (members.foldl (fun whole entry => Members.insert entry.1 entry.2 whole) start)
        (others.foldl (fun whole entry => Members.insert entry.1 entry.2 whole) again) := by
    induction alike with
    | nil => exact fun _ _ started => started
    | @cons entry second _ _ head _ ih =>
      intro start again started
      obtain ⟨key, value⟩ := entry
      obtain ⟨other, given⟩ := second
      obtain ⟨rfl, faults⟩ : key = other ∧ _ := head
      exact ih _ _ (started.insert faults)
  exact general [] [] .nil

/-- Objects stay alike when the same members are laid over them. -/
theorem Alike.overlay (alike : Alike fields members others) (upper : Members) :
    Alike fields (members.overlay upper) (others.overlay upper) := by
  induction upper with
  | nil => exact alike
  | cons entry upper ih => exact ih.insert fun _ _ => rfl

/-- Objects that are alike have a member of a key both or neither. -/
theorem Alike.any_key (alike : Alike fields members others) (key : String) :
    members.any (·.1 = key) = others.any (·.1 = key) := by
  induction alike with
  | nil => rfl
  | cons head _ ih => rw [List.any_cons, List.any_cons, head.1, ih]

/-- The first fault among the members of objects that are alike is the same. -/
theorem Alike.faultOfMembers (alike : Alike fields members others) :
    Shape.faultOfMembers fields members = Shape.faultOfMembers fields others := by
  induction alike with
  | nil => rfl
  | @cons entry second _ _ head _ ih =>
    obtain ⟨key, value⟩ := entry
    obtain ⟨other, given⟩ := second
    obtain ⟨rfl, faults⟩ : key = other ∧ _ := head
    simp only [Shape.faultOfMembers, ih]
    -- A member that the record knows is at fault alike, and all others are passed over.
    cases known : Shape.field? fields key with
    | none => rfl
    | some shape => simp only [faults shape known]

/-- Objects that are alike are at fault alike as records. -/
theorem Alike.fault_eq (alike : Alike fields members others) (name : String) :
    (Shape.record name fields).fault (.object members) =
      (Shape.record name fields).fault (.object others) := by
  -- A record asks for the faults of its members and for the keys that are missing.
  simp only [Shape.fault, Shape.inner, alike.faultOfMembers, alike.any_key]

end Members

/-- A field of which every value is read again as it was written, without a fault. -/
def Field.Solid {ε : Type} (field : Field ε) : Prop :=
  ∀ value, field.codec.decode? (field.codec.encode value) = some value ∧
    field.codec.shape.fault (field.codec.encode value) = none

namespace Schema

variable {ε : Type} {schema : Schema ε}

/-- Two records that are the same but for the fields of some keys. -/
def SameBut (schema : Schema ε) (keys : List String) (record other : ε) : Prop :=
  ∀ field ∈ schema.fields, field.key ∉ keys → field.get record = field.get other

/-- A record's own members are like those of another one when they differ in solid fields alone. -/
theorem Lawful.alike_members (lawful : schema.Lawful) {keys : List String} {record other : ε}
    (solid : ∀ field ∈ schema.fields, field.key ∈ keys → field.Solid)
    (same : schema.SameBut keys record other) :
    Members.Alike (schema.fields.map fun field => (field.key, field.required, field.codec.shape))
      (schema.members record) (schema.members other) := by
  refine List.forall₂_map_left_iff.mpr (List.forall₂_map_right_iff.mpr ?_)
  refine List.forall₂_same.mpr fun field member => ⟨rfl, fun shape found => ?_⟩
  -- The shape that is found under the key is that of the field itself, as keys are distinct.
  obtain ⟨entry, first, rfl⟩ := Option.map_eq_some_iff.mp found
  obtain ⟨known, inside, rfl⟩ := List.mem_map.mp (List.mem_of_find?_eq_some first)
  have equal := List.find?_some first
  have key : known.key = field.key := of_decide_eq_true equal
  obtain rfl : known = field := List.inj_on_of_nodup_map lawful.distinct inside member key
  simp only [Field.member]
  by_cases differs : known.key ∈ keys
  · rw [(solid known member differs _).2, (solid known member differs _).2]
  · rw [same known member differs]

end Schema

end LiveBoard
