import LiveBoard.Proofs.Board.Merging
import LiveBoard.Proofs.Json.Faults

/-! A patch is merged by putting one record, or refused for what it makes of that record. -/

namespace LiveBoard

/-! ## Records that differ in solid fields -/

namespace Schema

variable {ε : Type} {schema : Schema ε}

/-- Why a value is no record is told by its first fault. -/
theorem eq_of_decode_eq_error {value : Json} {fault : Fault}
    (refused : schema.decode value = .error fault) :
    (schema.shape.fault value).getD default = fault := by
  simp only [decode, Codec.decode] at refused
  split at refused
  · cases refused
  · exact Except.error.inj refused

section Solid

variable (lawful : schema.Lawful) {keys : List String} {record other : ε} {patch : Patch}
  (solid : ∀ field ∈ schema.fields, field.key ∈ keys → field.Solid)
  (same : schema.SameBut keys record other)
include lawful solid same

/-- Of records that differ in solid fields alone, a patch makes records that do so. -/
theorem Lawful.exists_apply_sameBut {result : ε}
    (applied : patch.apply schema record = .ok result) :
    ∃ again, patch.apply schema other = .ok again ∧ schema.SameBut keys result again := by
  have made := lawful.apply_eq_ok.mp applied
  obtain ⟨again, reapplied⟩ : ∃ again, patch.apply schema other = .ok again := by
    -- A patch is accepted when each field can be read, from the patch or from the record.
    refine lawful.exists_apply_of_reread fun field member => ?_
    by_cases differs : field.key ∈ keys
    · unfold Field.reread?
      cases named : patch.get? field.key with
      | some value =>
        have read := made field member
        rw [Field.reread?, named] at read
        exact Option.isSome_iff_exists.mpr ⟨_, read⟩
      -- A solid field is read again as it was written, whatever it holds.
      | none => exact Option.isSome_iff_exists.mpr ⟨_, (solid field member differs _).1⟩
    · rw [← same field member differs, made field member]
      rfl
  refine ⟨again, reapplied, fun field member differs => ?_⟩
  have remade := lawful.apply_eq_ok.mp reapplied field member
  rw [← same field member differs, made field member] at remade
  exact Option.some.inj remade

/-- Of records that differ in solid fields alone, a patch is refused for the same fault. -/
theorem Lawful.apply_sameBut_error {fault : Fault}
    (refused : patch.apply schema record = .error fault) :
    patch.apply schema other = .error fault := by
  cases remade : patch.apply schema other with
  | ok result =>
    -- A patch that is not refused for one of the records is not refused for the other.
    have back : schema.SameBut keys other record := fun field member differs =>
      (same field member differs).symm
    obtain ⟨_, applied, _⟩ := lawful.exists_apply_sameBut solid back remade
    cases refused.symm.trans applied
  | error again =>
    -- With the patch laid over them, the two objects are still at fault alike.
    have alike := ((lawful.alike_members solid same).ofList.overlay patch).fault_eq schema.name
    rw [← eq_of_decode_eq_error refused, ← eq_of_decode_eq_error remade]
    exact congrArg (fun fault => Except.error (fault.getD default)) alike.symm

end Solid

end Schema

/-! ## Upserts -/

namespace Merging

variable {ε : Type} {merging : Merging ε} {patch : Patch} {id : String}

/-- The record that a patch makes of the first one of an identifier, or why it makes none. -/
def merge (merging : Merging ε) (patch : Patch) (id : String) (held : Option ε) :
    Except Refusal ε :=
  match held.elim (patch.build merging.schema) (patch.apply merging.schema) with
  | .ok record => .ok (merging.finish held record)
  | .error fault => .error (.unmergeable merging.kind id fault)

/-- A patch makes a record of the identifier that it names. -/
theorem Lawful.idOf_merge (lawful : merging.Lawful) (named : patch.id? = some id)
    {held : Option ε} {record : ε} (merged : merging.merge patch id held = .ok record) :
    merging.idOf record = id := by
  unfold merge at merged
  split at merged
  · rename_i result made
    obtain rfl := Except.ok.inj merged
    rw [lawful.idOf_finish]
    -- A new record is what the patch makes of the record of defaults.
    cases held with
    | none => exact lawful.idOf_apply named (lawful.schema.apply_blank lawful.blank made)
    | some record => exact lawful.idOf_apply named made
  · cases merged

/-- A patch that names no record is refused for that, whatever the records are. -/
theorem upsert_of_unnamed (unnamed : patch.id? = none) (items : List ε) :
    merging.upsert patch items = .error (.missingId merging.kind) := by
  rw [upsert, BoardState.upsert, unnamed]

/-- A patch puts the record that it makes of the first one of its identifier. -/
theorem Lawful.upsert_of_named (lawful : merging.Lawful) (named : patch.id? = some id)
    (items : List ε) :
    merging.upsert patch items =
      (merging.merge patch id (items.find? (merging.idOf · = id))).map
        fun record => Keyed.put merging.idOf record items := by
  simp only [upsert, BoardState.upsert, named]
  cases found : items.find? (merging.idOf · = id) with
  | some held =>
    have member : id ∈ items.map merging.idOf :=
      List.mem_map.mpr ⟨held, List.mem_of_find?_eq_some found, by simpa using List.find?_some found⟩
    cases applied : patch.apply merging.schema held with
    | error fault => simp [merge, applied, Except.map]
    | ok updated =>
      -- The record that is held is replaced by one of the same identifier.
      have merged : merging.merge patch id (some held) =
          .ok (merging.finish (some held) updated) := by simp [merge, applied]
      simp [applied, merged, Except.map, Keyed.put, lawful.idOf_merge named merged, member]
  | none =>
    have absent : id ∉ items.map merging.idOf := by
      intro member
      obtain ⟨item, inside, same⟩ := List.mem_map.mp member
      simpa [same] using List.find?_eq_none.mp found item inside
    cases built : patch.build merging.schema with
    | error fault => simp [merge, built, Except.map]
    | ok created =>
      have merged : merging.merge patch id none = .ok (merging.finish none created) := by
        simp [merge, built]
      simp [merged, Except.map, Keyed.put, lawful.idOf_merge named merged, absent]

end Merging

end LiveBoard
