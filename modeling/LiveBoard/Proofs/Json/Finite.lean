import LiveBoard.Proofs.Json.Record

/-! JSON holds finite numbers only, and so do the records that are read from it. -/

namespace LiveBoard

namespace Binary64

/-- Turning the sign of a number leaves its magnitude. -/
theorem magnitudeBits_neg (x : Binary64) : x.neg.magnitudeBits = x.magnitudeBits := by
  -- The sign is the last bit, which the magnitude leaves out.
  have sign : (0x8000000000000000 : UInt64).toNat % 2 ^ 63 = 0 := by decide
  simp only [magnitudeBits, neg, UInt64.toNat_xor, Nat.pow_eq, Nat.xor_mod_two_pow, sign,
    Nat.xor_zero]

/-- The encoding nearest to a ratio is that of a finite number. -/
theorem bitsOfRatio_lt {num den bits : Nat} (near : bitsOfRatio num den = some bits) :
    bits < infinityBits := by
  unfold bitsOfRatio at near
  -- The number zero has an encoding of its own, and any other is taken only if it is small enough.
  split at near
  · obtain rfl := Option.some.inj near
    decide
  · simp only [Option.ite_none_right_eq_some, Option.some.injEq] at near
    obtain ⟨small, rfl⟩ := near
    exact small

/-- The number nearest to a ratio is finite. -/
theorem isFinite_ofRatio? {num den : Nat} {x : Binary64} (near : ofRatio? num den = some x) :
    x.isFinite := by
  obtain ⟨bits, nearest, rfl⟩ := Option.map_eq_some_iff.mp near
  have small := bitsOfRatio_lt nearest
  -- The encoding is far below the sign bit, so the magnitude is all of it.
  have unsigned : bits < 2 ^ 63 := Nat.lt_trans small (by decide)
  have whole : bits.toUInt64.toNat = bits :=
    UInt64.toNat_ofNat_of_lt' (Nat.lt_trans unsigned (by decide))
  simpa only [isFinite, magnitudeBits, whole, Nat.pow_eq, Nat.mod_eq_of_lt unsigned,
    decide_eq_true_eq] using small

/-- The number nearest to an integer is finite. -/
theorem isFinite_ofInt (i : Int) : (ofInt i).isFinite := by
  have magnitude : ((ofRatio? i.natAbs 1).getD zero).isFinite := by
    cases near : ofRatio? i.natAbs 1 with
    | none => decide
    | some x => exact isFinite_ofRatio? near
  unfold ofInt
  split
  · simpa only [isFinite, magnitudeBits_neg] using magnitude
  · exact magnitude

end Binary64

mutual

/-- Whether all numbers of a value are finite, as JSON has no way to write any other. -/
def Json.isFinite : Json → Bool
  | .number (.real x) => x.isFinite
  | .array items => Json.itemsFinite items
  | .object members => Json.membersFinite members
  | _ => true

/-- Whether all numbers of some values are finite. -/
def Json.itemsFinite : List Json → Bool
  | [] => true
  | item :: items => Json.isFinite item && Json.itemsFinite items

/-- Whether all numbers of the values of some members are finite. -/
def Json.membersFinite : List (String × Json) → Bool
  | [] => true
  | (_, value) :: members => Json.isFinite value && Json.membersFinite members

end

namespace Json

/-- Items are finite when each of them is. -/
theorem itemsFinite_iff {items : List Json} :
    itemsFinite items ↔ ∀ item ∈ items, item.isFinite := by
  induction items with
  | nil => simp [itemsFinite]
  | cons item items ih => simp [itemsFinite, ih]

/-- A member that is put among finite ones, or in the place of one, keeps them finite. -/
theorem membersFinite_insert {members : Members} {value : Json} (key : String)
    (finite : membersFinite members) (held : value.isFinite) :
    membersFinite (members.insert key value) := by
  induction members with
  | nil => simp [Members.insert, membersFinite, held]
  | cons entry members ih =>
    obtain ⟨other, former⟩ := entry
    simp only [membersFinite, Bool.and_eq_true] at finite
    unfold Members.insert
    split
    · simp [membersFinite, held, finite]
    · split
      · simp [membersFinite, held, finite]
      · simp [membersFinite, finite, ih finite.2]

/-- Members are finite by position when the items are. -/
theorem membersFinite_zip (keys : List String) {items : List Json} (finite : itemsFinite items) :
    membersFinite (keys.zip items) := by
  induction keys generalizing items with
  | nil => rfl
  | cons key keys ih =>
    cases items with
    | nil => rfl
    | cons item items =>
      simp only [itemsFinite, Bool.and_eq_true] at finite
      simp only [List.zip_cons_cons, membersFinite, Bool.and_eq_true]
      exact ⟨finite.1, ih finite.2⟩

/-- What is found among finite members is finite. -/
theorem isFinite_of_get? {members : Members} (finite : membersFinite members) {key : String}
    {value : Json} (found : members.get? key = some value) : value.isFinite := by
  induction members with
  | nil => simp [Members.get?] at found
  | cons entry members ih =>
    obtain ⟨other, held⟩ := entry
    simp only [membersFinite, Bool.and_eq_true] at finite
    -- A member is found under the first entry of its key.
    rw [Members.get?] at found
    split at found
    · obtain rfl := Option.some.inj found
      exact finite.1
    · exact ih finite.2 found

end Json

/-- A number that is read from a finite value is finite. -/
theorem Codec.isFinite_of_real {value : Json} {number : Binary64} (finite : value.isFinite)
    (read : (real.orDefault .zero).decode? value = some number) : number.isFinite := by
  -- Null is read as zero, and an integer as the number nearest to it.
  cases value with
  | null =>
    obtain rfl := Option.some.inj read
    decide
  | number n =>
    cases n with
    | integer i =>
      obtain rfl := Option.some.inj read
      exact Binary64.isFinite_ofInt i
    | real x =>
      obtain rfl := Option.some.inj read
      exact finite
  | _ => simp [orDefault, real] at read

/-- A field of a record holds its default, or what was read from a value with finite numbers. -/
def Field.Sourced {ε : Type} (field : Field ε) (blank record : ε) : Prop :=
  field.get record = field.get blank ∨
    ∃ value, value.isFinite ∧ field.codec.decode? value = some (field.get record)

/-- Every field of a record that is read from finite JSON holds its default or what was read. -/
theorem Schema.Lawful.sourced {ε : Type} {schema : Schema ε} (lawful : schema.Lawful)
    {source : Json} {record : ε} (finite : source.isFinite)
    (decoded : schema.decode source = .ok record) {field : Field ε}
    (member : field ∈ schema.fields) : field.Sourced schema.blank record := by
  have read : schema.decode? source = some record := Codec.decode_eq_ok.mp decoded
  -- Fields that are given by position are members under the keys of their places.
  obtain ⟨members, allFinite, loaded⟩ : ∃ members : Members, Json.membersFinite members ∧
      schema.ofMembers? members = some record := by
    cases source with
    | object members => exact ⟨members, finite, read⟩
    | array items =>
      obtain ⟨-, loaded⟩ := Option.ite_none_right_eq_some.mp read
      exact ⟨_, Json.membersFinite_zip _ finite, loaded⟩
    | _ => cases read
  have given := lawful.ofMembers?_eq_some.mp loaded field member
  unfold Field.read? at given
  -- What was read for the field came from a member, if there is one of its key.
  cases found : members.get? field.key with
  | some value =>
    rw [found] at given
    exact .inr ⟨value, Json.isFinite_of_get? allFinite found, given⟩
  | none =>
    -- Nothing is given, so the field is none that has to be.
    simp only [found, Option.ite_none_left_eq_some, Option.some.injEq] at given
    exact .inl given.2.symm

end LiveBoard
