import LiveBoard.Board.Patch
import LiveBoard.Proofs.Json.Record
import LiveBoard.Proofs.Json.Settling

/-! What a patch makes of each field of a record. -/

namespace LiveBoard

namespace Field

variable {ε : Type}

/-- What a record is read to hold in a field once a patch is laid over it. -/
def reread? (field : Field ε) (patch : Patch) (held : field.α) : Option field.α :=
  field.codec.decode? ((patch.get? field.key).getD (field.codec.encode held))

/-- What a patch says about a field. -/
def given? (field : Field ε) (patch : Patch) : Option field.α :=
  (patch.get? field.key).bind field.codec.decode?

/-- What a field holds after a patch: what the patch says, or what it held, written and read. -/
def step (field : Field ε) (patch : Patch) (held : field.α) : field.α :=
  (field.given? patch).getD (field.codec.settle held)

end Field

namespace Schema

variable {ε : Type} {schema : Schema ε}

/-- Every field of a record can be written and read again. -/
def Ready (schema : Schema ε) (record : ε) : Prop :=
  ∀ field ∈ schema.fields, field.codec.Settles (field.get record)

/-- A patch says only what can be read, and written and read again. -/
def Fits (schema : Schema ε) (patch : Patch) : Prop :=
  ∀ field ∈ schema.fields, ∀ value, patch.get? field.key = some value →
    ∃ given, field.codec.decode? value = some given ∧ field.codec.Settles given

/-- The members of a record have the keys of its fields. -/
theorem map_fst_members (record : ε) :
    (schema.members record).map Prod.fst = schema.fields.map Field.key := by
  simp [members, Field.member]

/-- A patch laid over a record gives what it names, and the record gives the rest. -/
theorem Lawful.get?_onto (lawful : schema.Lawful) (record : ε) (patch : Patch) {field : Field ε}
    (member : field ∈ schema.fields) :
    (Patch.onto schema record patch).get? field.key =
      some ((patch.get? field.key).getD (field.codec.encode (field.get record))) := by
  have distinct : ((schema.members record).map Prod.fst).Nodup := by
    rw [map_fst_members]
    exact lawful.distinct
  -- The record has a member for the field, and no other member has its key.
  have own : field.member record ∈ schema.members record := List.mem_map.mpr ⟨field, member, rfl⟩
  rw [Patch.onto, Members.get?_overlay, Members.get?_ofList distinct,
    Members.get?_of_mem distinct own]
  cases patch.get? field.key <;> rfl

/-- A record is decoded from members when it is read from them. -/
theorem decode_eq_ok {members : Members} {record : ε} :
    schema.decode (.object members) = .ok record ↔ schema.ofMembers? members = some record :=
  Codec.decode_eq_ok

/-- A patch makes a record of another exactly when it makes each field of the other's. -/
theorem Lawful.apply_eq_ok (lawful : schema.Lawful) {patch : Patch} {record result : ε} :
    patch.apply schema record = .ok result ↔
      ∀ field ∈ schema.fields,
        field.reread? patch (field.get record) = some (field.get result) := by
  rw [Patch.apply, decode_eq_ok, lawful.ofMembers?_eq_some]
  -- A record is what is read into its fields, and each field is read from one member.
  refine forall₂_congr fun field member => ?_
  rw [Field.read?, lawful.get?_onto record patch member, Field.reread?]

/-- A patch makes a record exactly when it makes each field, of the defaults at most. -/
theorem Lawful.build_eq_ok (lawful : schema.Lawful) {patch : Patch} {result : ε} :
    patch.build schema = .ok result ↔
      ∀ field ∈ schema.fields,
        field.read? patch (field.get schema.blank) = some (field.get result) := by
  rw [Patch.build, decode_eq_ok, lawful.ofMembers?_eq_some]

/-- A patch says only what can be read. -/
def Reads (schema : Schema ε) (patch : Patch) : Prop :=
  ∀ field ∈ schema.fields, ∀ value, patch.get? field.key = some value →
    (field.codec.decode? value).isSome

/-- A patch that changes a record says only what can be read. -/
theorem Lawful.reads_of_apply (lawful : schema.Lawful) {patch : Patch} {record result : ε}
    (applied : patch.apply schema record = .ok result) : schema.Reads patch := by
  intro field member value found
  -- A value that is named takes the place of what was held, and had to be read.
  have read := lawful.apply_eq_ok.mp applied field member
  rw [Field.reread?, found, Option.getD_some] at read
  rw [read]
  rfl

/-- A patch that makes a record says only what can be read. -/
theorem Lawful.reads_of_build (lawful : schema.Lawful) {patch : Patch} {result : ε}
    (built : patch.build schema = .ok result) : schema.Reads patch := by
  intro field member value found
  -- What is named is read from what is named, whether or not the field has a default.
  have read := lawful.build_eq_ok.mp built field member
  simp only [Field.read?, found] at read
  rw [read]
  rfl

/-- A patch that makes a record makes the same one of the record of defaults. -/
theorem Lawful.apply_blank (lawful : schema.Lawful)
    (kept : ∀ field ∈ schema.fields, field.codec.Keeps (field.get schema.blank)) {patch : Patch}
    {result : ε} (built : patch.build schema = .ok result) :
    patch.apply schema schema.blank = .ok result := by
  rw [lawful.build_eq_ok] at built
  rw [lawful.apply_eq_ok]
  intro field member
  have read := built field member
  unfold Field.read? at read
  unfold Field.reread?
  -- Where the patch says nothing, the default is written and read again as it is.
  cases found : patch.get? field.key with
  | some value => simpa [found] using read
  | none =>
    cases required : field.required with
    | true => simp [found, required] at read
    | false =>
      rw [Option.getD_none, kept field member]
      simpa [found, required] using read

/-- A patch makes a record of another when it makes something of each of the other's fields. -/
theorem Lawful.exists_apply_of_reread (lawful : schema.Lawful) {patch : Patch} {record : ε}
    (reread : ∀ field ∈ schema.fields, (field.reread? patch (field.get record)).isSome) :
    ∃ result, patch.apply schema record = .ok result := by
  obtain ⟨result, loaded⟩ : ∃ result, schema.ofMembers? (Patch.onto schema record patch) =
      some result := by
    refine exists_ofMembers? fun field member => ?_
    -- A field that the patch says nothing about is read from what is written of the record.
    rw [Field.read?, lawful.get?_onto record patch member]
    exact reread field member
  exact ⟨result, decode_eq_ok.mpr loaded⟩

/-- A patch that fits makes a record of every record that is ready, field by field. -/
theorem Lawful.exists_apply (lawful : schema.Lawful) {patch : Patch} {record : ε}
    (fits : schema.Fits patch) (ready : schema.Ready record) :
    ∃ result, patch.apply schema record = .ok result ∧
      ∀ field ∈ schema.fields, field.get result = field.step patch (field.get record) := by
  -- Each field is read, whether it is named or was held.
  have reread : ∀ field ∈ schema.fields,
      field.reread? patch (field.get record) = some (field.step patch (field.get record)) := by
    intro field member
    unfold Field.reread? Field.step Field.given?
    cases found : patch.get? field.key with
    | some value =>
      obtain ⟨given, decoded, _⟩ := fits field member value found
      simp [decoded]
    | none => exact (ready field member).decode?_encode
  obtain ⟨result, applied⟩ := lawful.exists_apply_of_reread fun field member =>
    Option.isSome_iff_exists.mpr ⟨_, reread field member⟩
  refine ⟨result, applied, fun field member => ?_⟩
  -- What is read into a field is all that can be in it.
  exact Option.some.inj
    ((lawful.apply_eq_ok.mp applied field member).symm.trans (reread field member))

/-- What a field holds after a patch that fits can be written and read again. -/
theorem Fits.settles_step {patch : Patch} (fits : schema.Fits patch) {field : Field ε}
    (member : field ∈ schema.fields) {held : field.α} (settles : field.codec.Settles held) :
    field.codec.Settles (field.step patch held) := by
  -- The field holds what the patch gives, or what its value has settled to.
  unfold Field.step Field.given?
  cases found : patch.get? field.key with
  | some value =>
    obtain ⟨given, decoded, given_settles⟩ := fits field member value found
    simpa [decoded] using given_settles
  | none => exact settles.keeps.settles

end Schema

end LiveBoard
