import LiveBoard.Proofs.Board.Keyed
import LiveBoard.Proofs.Board.Merge

/-! Patches merged into lists of records, where running them again changes nothing. -/

namespace LiveBoard

section Resettle

variable {α : Type} (settle : α → α)

/-- What a value becomes when, time after time, another one is given or else it settles. -/
def resettle (value : α) (given : List (Option α)) : α :=
  given.foldl (fun value given => given.getD (settle value)) value

/-- The first value that is given is the one to go on from, or else what settles. -/
theorem resettle_cons (value : α) (first : Option α) (given : List (Option α)) :
    resettle settle value (first :: given) =
      resettle settle (first.getD (settle value)) given := rfl

/-- Once a value was given, the one before does not matter. -/
theorem resettle_given {given : List (Option α)} (some : ∃ new ∈ given, new.isSome)
    (value other : α) : resettle settle value given = resettle settle other given := by
  induction given generalizing value other with
  | nil => simp at some
  | cons first given ih =>
    -- The first value that is given is the same from there on for both.
    cases first with
    | some new => rfl
    | none => exact ih (by simpa using some) _ _

/-- When no value is given, the one at the start settles if there was time for it. -/
theorem resettle_none {given : List (Option α)} (none : ∀ new ∈ given, new = none) {value : α}
    (once : settle (settle value) = settle value) :
    resettle settle value given = if given = [] then value else settle value := by
  -- Nothing given: the first step settles the value, and the others find it settled.
  induction given generalizing value with
  | nil => rfl
  | cons first given ih =>
    obtain rfl := none first (by simp)
    have rest := ih (fun new member => none new (by simp [member])) (congrArg settle once)
    rw [resettle_cons, Option.getD_none, rest, once]
    simp

/-- Going through the same values again changes nothing when values settle once and for all. -/
theorem resettle_resettle {given : List (Option α)} {value : α}
    (once : settle (settle value) = settle value) :
    resettle settle (resettle settle value given) given = resettle settle value given := by
  by_cases some : ∃ new ∈ given, new.isSome
  · exact resettle_given settle some _ _
  · -- Nothing is ever given, so the value has settled in the first run already.
    have none : ∀ new ∈ given, new = none := by simpa using some
    rw [resettle_none settle none once]
    split
    · rename_i empty
      rw [empty]
      rfl
    · rename_i nonempty
      rw [resettle_none settle none (congrArg settle once), if_neg nonempty, once]

/-- Going through the last values again changes nothing when nothing is to settle. -/
theorem resettle_again {given more : List (Option α)} (suffix : more <:+ given) (value : α) :
    resettle id (resettle id value given) more = resettle id value given := by
  obtain ⟨before, rfl⟩ := suffix
  have whole : resettle id value (before ++ more) = resettle id (resettle id value before) more :=
    List.foldl_append ..
  -- The run before the last values only sets where these start from.
  rw [whole, resettle_resettle id rfl]

end Resettle

/--
A kind of record that patches are merged into.

Finishing a record overwrites some of its fields, with nothing of the record that was held but its
stamp.
-/
structure Merging (ε : Type) where
  kind : PatchedKind
  schema : Schema ε
  idOf : ε → String
  finish : Option ε → ε → ε
  {σ : Type}
  stamp : Option ε → σ
  finished : List String

namespace Merging

variable {ε : Type}

/-- What a kind of record has to satisfy for its patches to be understood field by field. -/
structure Lawful (merging : Merging ε) : Prop where
  schema : merging.schema.Lawful
  blank : ∀ field ∈ merging.schema.fields,
    field.codec.Keeps (field.get merging.schema.blank)
  identifier : ∃ set, .needed "id" .text merging.idOf set ∈ merging.schema.fields
  idOf_finish : ∀ held record, merging.idOf (merging.finish held record) = merging.idOf record
  get_finish : ∀ field ∈ merging.schema.fields, field.key ∉ merging.finished →
    ∀ held record, field.get (merging.finish held record) = field.get record
  settles : ∀ field ∈ merging.schema.fields, field.key ∈ merging.finished →
    ∀ value, field.codec.Settles value
  stamp_finish : ∀ held record, merging.stamp (some (merging.finish held record)) =
    merging.stamp held
  finish_congr : ∀ {held other record result}, merging.stamp held = merging.stamp other →
    (∀ field ∈ merging.schema.fields, field.key ∉ merging.finished →
      field.get record = field.get result) →
    merging.finish held record = merging.finish other result

/-- The record that a patch makes of the one that was held, or of the defaults. -/
def make (merging : Merging ε) (patch : Patch) (held : Option ε) : Option ε :=
  match patch.id?, patch.apply merging.schema (held.getD merging.schema.blank) with
  | some _, .ok record => some (merging.finish held record)
  | _, _ => none

section Lawful

variable {merging : Merging ε}

/-- A patch makes the record of the identifier that it names. -/
theorem Lawful.idOf_apply (lawful : merging.Lawful) {patch : Patch} {record result : ε}
    {id : String} (named : patch.id? = some id)
    (applied : patch.apply merging.schema record = .ok result) : merging.idOf result = id := by
  obtain ⟨set, member⟩ := lawful.identifier
  -- The patch names the identifier as a text, which is what is read into the field of it.
  obtain ⟨value, present, text⟩ := Option.bind_eq_some_iff.mp named
  have read := lawful.schema.apply_eq_ok.mp applied _ member
  simpa [Field.reread?, Field.needed, present, Codec.text, text] using read.symm

/-- Patches as changes to the records that they name. -/
def Lawful.changes (lawful : merging.Lawful) : Keyed.Changes ε Patch where
  idOf := merging.idOf
  target patch := patch.id?.getD ""
  make := merging.make
  carries := by
    intro patch held record made
    unfold make at made
    split at made
    · rename_i named applied
      obtain rfl := Option.some.inj made
      rw [lawful.idOf_finish, lawful.idOf_apply named applied, named]
      rfl
    · cases made

/-- What is held, or the record of defaults, can be written and read again. -/
def ReadyAt (merging : Merging ε) (held : Option ε) : Prop :=
  merging.schema.Ready (held.getD merging.schema.blank)

/-- A patch that names a record and says only what can be read. -/
def Fits (merging : Merging ε) (patch : Patch) : Prop :=
  patch.id?.isSome ∧ merging.schema.Fits patch

/-- Nothing held is as good as the record of defaults, which can be written and read again. -/
theorem Lawful.readyAt_none (lawful : merging.Lawful) : merging.ReadyAt none :=
  fun field member => (lawful.blank field member).settles

/-- A patch that fits makes a record that can be written and read again, field by field. -/
theorem Lawful.exists_make (lawful : merging.Lawful) {patch : Patch} (fits : merging.Fits patch)
    {held : Option ε} (ready : merging.ReadyAt held) :
    ∃ result, merging.make patch held = some (merging.finish held result) ∧
      (∀ field ∈ merging.schema.fields,
        field.get result = field.step patch (field.get (held.getD merging.schema.blank))) ∧
      merging.ReadyAt (some (merging.finish held result)) := by
  obtain ⟨id, named⟩ := Option.isSome_iff_exists.mp fits.1
  obtain ⟨result, applied, fields⟩ := lawful.schema.exists_apply fits.2 ready
  refine ⟨result, by simp [make, named, applied], fields, fun field member => ?_⟩
  -- Fields that finishing overwrites settle anyway, and it leaves the others alone.
  by_cases overwritten : field.key ∈ merging.finished
  · exact lawful.settles field member overwritten _
  · rw [Option.getD_some, lawful.get_finish field member overwritten, fields field member]
    exact fits.2.settles_step member (ready field member)

/-- A run of patches that fit makes a record that is known field by field. -/
theorem Lawful.makeAll_eq (lawful : merging.Lawful) {run : List Patch}
    (fits : ∀ patch ∈ run, merging.Fits patch) (nonempty : run ≠ []) {held : Option ε}
    (ready : merging.ReadyAt held) :
    ∃ before result, lawful.changes.makeAll held run = some (merging.finish before result) ∧
      merging.stamp before = merging.stamp held ∧
      (∀ field ∈ merging.schema.fields, field.key ∉ merging.finished →
        field.get result = resettle field.codec.settle
          (field.get (held.getD merging.schema.blank)) (run.map field.given?)) ∧
      merging.ReadyAt (some (merging.finish before result)) := by
  -- Each patch starts from the finished record of the one before it.
  induction run generalizing held with
  | nil => contradiction
  | cons patch run ih =>
    obtain ⟨first, made, fields, next⟩ := lawful.exists_make (fits patch (by simp)) ready
    -- Finishing the first record does not show in what the others are made of, but its stamp.
    have start : lawful.changes.makeAll held (patch :: run) =
        lawful.changes.makeAll (some (merging.finish held first)) run := by
      simp [Keyed.Changes.makeAll, Lawful.changes, made]
    cases run with
    | nil =>
      refine ⟨held, first, start, rfl, fun field member _ => ?_, next⟩
      rw [fields field member]
      rfl
    | cons second run =>
      obtain ⟨before, result, whole, stamp, rest, last⟩ :=
        ih (fun other member => fits other (by simp [member])) (by simp) next
      refine ⟨before, result, start.trans whole, stamp.trans (lawful.stamp_finish held first),
        fun field member open_ => ?_, last⟩
      rw [rest field member open_, Option.getD_some, lawful.get_finish field member open_,
        fields field member]
      rfl

/-- A run of patches makes nothing new of the record that it made. -/
theorem Lawful.makeAll_makeAll (lawful : merging.Lawful) {run : List Patch}
    (fits : ∀ patch ∈ run, merging.Fits patch) {held : Option ε} (ready : merging.ReadyAt held) :
    lawful.changes.makeAll (lawful.changes.makeAll held run) run =
      lawful.changes.makeAll held run := by
  by_cases nonempty : run = []
  · rw [nonempty]
    rfl
  obtain ⟨before, result, made, stamp, fields, next⟩ := lawful.makeAll_eq fits nonempty ready
  -- The record is made twice, first of what was held and then of the record that this left.
  obtain ⟨again, other, remade, restamp, refields, _⟩ := lawful.makeAll_eq fits nonempty next
  rw [made, remade]
  congr 1
  -- Both records are finished alike, so only the fields that are not overwritten matter.
  refine lawful.finish_congr (restamp.trans (lawful.stamp_finish before result))
    fun field member kept => ?_
  have settles := ready field member
  rw [refields field member kept, Option.getD_some, lawful.get_finish field member kept,
    fields field member kept]
  exact resettle_resettle _ settles.keeps.settle_eq

/-! ## Patches of a list -/

/-- Merge a patch into a list of records. -/
def upsert (merging : Merging ε) (patch : Patch) (items : List ε) : Except Refusal (List ε) :=
  BoardState.upsert merging.kind merging.schema merging.idOf merging.finish patch items

/-- A patch puts the record that it makes. -/
theorem Lawful.alter_eq (lawful : merging.Lawful) {patch : Patch} {id : String}
    (named : patch.id? = some id) {items : List ε} {record : ε}
    (made : merging.make patch (items.find? (merging.idOf · = id)) = some record) :
    lawful.changes.alter items patch = Keyed.put merging.idOf record items := by
  have makes : lawful.changes.make patch
      (items.find? (lawful.changes.idOf · = lawful.changes.target patch)) = some record := by
    change merging.make patch (items.find? (merging.idOf · = patch.id?.getD "")) = some record
    rw [named]
    exact made
  rw [Keyed.Changes.alter, makes]
  -- Making the record is all that a change does before it is put.
  rfl

/-- The first record of an identifier can be written and read again when all records can. -/
theorem Lawful.readyAt_find? (lawful : merging.Lawful) {items : List ε}
    (ready : ∀ item ∈ items, merging.schema.Ready item) (holds : ε → Bool) :
    merging.ReadyAt (items.find? holds) := by
  -- The record of defaults stands in where no record is found.
  cases found : items.find? holds with
  | none => exact lawful.readyAt_none
  | some item => exact ready item (List.mem_of_find?_eq_some found)

/-- A patch that is merged names a record, says only what can be read, and changes that record. -/
theorem Lawful.upsert_eq_ok (lawful : merging.Lawful) {patch : Patch} {items result : List ε}
    (merged : merging.upsert patch items = .ok result) :
    patch.id?.isSome ∧ merging.schema.Reads patch ∧ result = lawful.changes.alter items patch := by
  simp only [upsert, BoardState.upsert] at merged
  cases named : patch.id? with
  | none => simp [named] at merged
  | some id =>
    simp only [named] at merged
    -- A record that is held is changed in place; a new one is built and put in front.
    cases found : items.find? (merging.idOf · = id) with
    | some held =>
      simp only [found] at merged
      cases applied : patch.apply merging.schema held with
      | error fault => simp [applied] at merged
      | ok updated =>
        have carries : merging.idOf (merging.finish (some held) updated) = id := by
          rw [lawful.idOf_finish, lawful.idOf_apply named applied]
        have member : id ∈ items.map merging.idOf :=
          List.mem_map.mpr ⟨held, List.mem_of_find?_eq_some found,
            by simpa using List.find?_some found⟩
        simp only [applied, Except.ok.injEq] at merged
        refine ⟨rfl, lawful.schema.reads_of_apply applied, ?_⟩
        have made : merging.make patch (items.find? (merging.idOf · = id)) =
            some (merging.finish (some held) updated) := by simp [make, named, found, applied]
        rw [lawful.alter_eq named made, Keyed.put, carries, if_pos member, merged]
    | none =>
      simp only [found] at merged
      cases built : patch.build merging.schema with
      | error fault => simp [built] at merged
      | ok created =>
        -- Building a record is changing the record of defaults, as they are read again as they are.
        have applied := lawful.schema.apply_blank lawful.blank built
        have carries : merging.idOf (merging.finish none created) = id := by
          rw [lawful.idOf_finish, lawful.idOf_apply named applied]
        have absent : id ∉ items.map merging.idOf := by
          intro member
          obtain ⟨item, inside, same⟩ := List.mem_map.mp member
          simpa [same] using List.find?_eq_none.mp found item inside
        simp only [built, Except.ok.injEq] at merged
        refine ⟨rfl, lawful.schema.reads_of_build built, ?_⟩
        have made : merging.make patch (items.find? (merging.idOf · = id)) =
            some (merging.finish none created) := by simp [make, named, found, applied]
        rw [lawful.alter_eq named made, Keyed.put, carries, if_neg absent, merged]

/-- A patch that is merged keeps identifiers distinct. -/
theorem Lawful.nodup_upsert (lawful : merging.Lawful) {patch : Patch} {items result : List ε}
    (merged : merging.upsert patch items = .ok result)
    (distinct : (items.map merging.idOf).Nodup) : (result.map merging.idOf).Nodup := by
  -- The patch changes the record that it names, which has that identifier before and after.
  obtain ⟨_, _, rfl⟩ := lawful.upsert_eq_ok merged
  exact lawful.changes.nodup_alter distinct patch

/-- A patch that fits is merged into a list that holds the record that it names. -/
theorem Lawful.upsert_fits (lawful : merging.Lawful) {patch : Patch} (fits : merging.Fits patch)
    {items : List ε} (ready : ∀ item ∈ items, merging.schema.Ready item)
    (member : lawful.changes.target patch ∈ items.map merging.idOf) :
    ∃ result, merging.upsert patch items = .ok result := by
  obtain ⟨id, named⟩ := Option.isSome_iff_exists.mp fits.1
  have target : lawful.changes.target patch = id := by simp [Lawful.changes, named]
  obtain ⟨item, inside, same⟩ := List.mem_map.mp (target ▸ member)
  obtain ⟨held, found⟩ : ∃ held, items.find? (merging.idOf · = id) = some held :=
    Option.isSome_iff_exists.mp (List.find?_isSome.mpr ⟨item, inside, by simpa using same⟩)
  obtain ⟨updated, applied, _⟩ :=
    lawful.schema.exists_apply fits.2 (ready held (List.mem_of_find?_eq_some found))
  exact ⟨_, by simp only [upsert, BoardState.upsert, named, found, applied]; rfl⟩

/-- Records that can be written and read again stay so. -/
theorem Lawful.ready_alter (lawful : merging.Lawful) {patch : Patch} (fits : merging.Fits patch)
    {items : List ε} (ready : ∀ item ∈ items, merging.schema.Ready item) :
    ∀ item ∈ lawful.changes.alter items patch, merging.schema.Ready item := by
  intro item member
  obtain ⟨result, made, _, next⟩ := lawful.exists_make fits
    (lawful.readyAt_find? ready (merging.idOf · = lawful.changes.target patch))
  -- Only the record that the patch made is new.
  rcases Keyed.Changes.mem_of_mem_alter _ member with new | old
  · obtain rfl := Option.some.inj (made.symm.trans new)
    exact next
  · exact ready item old

/-- A run of patches that fit makes nothing new of the list that it made. -/
theorem Lawful.alterAll_alterAll (lawful : merging.Lawful) {run : List Patch}
    (fits : ∀ patch ∈ run, merging.Fits patch) {items : List ε}
    (ready : ∀ item ∈ items, merging.schema.Ready item) :
    lawful.changes.alterAll (lawful.changes.alterAll items run) run =
      lawful.changes.alterAll items run :=
  Keyed.Changes.alterAll_alterAll _ fun _ =>
    lawful.makeAll_makeAll (fun patch member => fits patch (List.mem_filter.mp member).1)
      (lawful.readyAt_find? ready _)

/-- Records that can be written and read again stay so through a run. -/
theorem Lawful.ready_alterAll (lawful : merging.Lawful) {run : List Patch}
    (fits : ∀ patch ∈ run, merging.Fits patch) {items : List ε}
    (ready : ∀ item ∈ items, merging.schema.Ready item) :
    ∀ item ∈ lawful.changes.alterAll items run, merging.schema.Ready item := by
  -- Patch by patch, since each leaves only records of which that can be said.
  induction run generalizing items with
  | nil => exact ready
  | cons patch run ih =>
    exact ih (fun other member => fits other (by simp [member]))
      (lawful.ready_alter (fits patch (by simp)) ready)

/-- Merge patches into a list of records one after the other, as long as none is refused. -/
def upsertAll (merging : Merging ε) (run : List Patch) (items : List ε) :
    Except Refusal (List ε) :=
  run.foldlM (fun items patch => merging.upsert patch items) items

/-- Patches are merged when the first is and then the others are. -/
theorem upsertAll_cons {patch : Patch} {run : List Patch} {items result : List ε} :
    merging.upsertAll (patch :: run) items = .ok result ↔
      ∃ next, merging.upsert patch items = .ok next ∧ merging.upsertAll run next = .ok result := by
  rw [upsertAll, List.foldlM_cons]
  -- The run stops with the first patch that is refused.
  cases merging.upsert patch items <;> simp [Bind.bind, Except.bind, upsertAll]

/-- Patches that are merged change the records that they name, one after the other. -/
theorem Lawful.upsertAll_eq_ok (lawful : merging.Lawful) {run : List Patch}
    {items result : List ε} (merged : merging.upsertAll run items = .ok result) :
    (∀ patch ∈ run, patch.id?.isSome ∧ merging.schema.Reads patch) ∧
      result = lawful.changes.alterAll items run := by
  -- The first patch was merged, and the others into what it left.
  induction run generalizing items with
  | nil =>
    obtain rfl := Except.ok.inj merged
    exact ⟨by simp, rfl⟩
  | cons patch run ih =>
    obtain ⟨next, first, rest⟩ := upsertAll_cons.mp merged
    obtain ⟨named, reads, rfl⟩ := lawful.upsert_eq_ok first
    obtain ⟨others, rfl⟩ := ih rest
    refine ⟨fun other member => ?_, rfl⟩
    rcases List.mem_cons.mp member with rfl | later
    · exact ⟨named, reads⟩
    · exact others other later

/-- Patches that fit are merged into a list that holds every record that they name. -/
theorem Lawful.upsertAll_fits (lawful : merging.Lawful) {run : List Patch}
    (fits : ∀ patch ∈ run, merging.Fits patch) {items : List ε}
    (ready : ∀ item ∈ items, merging.schema.Ready item)
    (held : ∀ patch ∈ run, lawful.changes.target patch ∈ items.map merging.idOf) :
    merging.upsertAll run items = .ok (lawful.changes.alterAll items run) := by
  -- A held record is patched in place, where no key can be missing.
  induction run generalizing items with
  | nil => rfl
  | cons patch run ih =>
    obtain ⟨next, first⟩ := lawful.upsert_fits (fits patch (by simp)) ready (held patch (by simp))
    obtain ⟨_, _, rfl⟩ := lawful.upsert_eq_ok first
    refine upsertAll_cons.mpr ⟨_, first, ih (fun other member => fits other (by simp [member]))
      (lawful.ready_alter (fits patch (by simp)) ready) fun other member => ?_⟩
    -- The list keeps its identifiers, so it still holds what the other patches name.
    have kept := Keyed.Changes.map_alter _ (.inl (held patch (by simp)))
    exact kept.symm ▸ held other (by simp [member])

/-- Patches that were merged last are merged again and change nothing. -/
theorem Lawful.upsertAll_again (lawful : merging.Lawful) {run more : List Patch}
    (fits : ∀ patch ∈ run ++ more, merging.Fits patch) {items result : List ε}
    (ready : ∀ item ∈ items, merging.schema.Ready item)
    (merged : merging.upsertAll (run ++ more) items = .ok result) :
    merging.upsertAll more result = .ok result := by
  have former : ∀ patch ∈ run, merging.Fits patch := fun patch member =>
    fits patch (List.mem_append_left more member)
  have latter : ∀ patch ∈ more, merging.Fits patch := fun patch member =>
    fits patch (List.mem_append_right run member)
  -- The patches that come again start from records that the others made.
  have middle := lawful.ready_alterAll former ready
  obtain ⟨_, rfl⟩ := lawful.upsertAll_eq_ok merged
  have whole : lawful.changes.alterAll items (run ++ more) =
      lawful.changes.alterAll (lawful.changes.alterAll items run) more := List.foldl_append ..
  rw [whole, lawful.upsertAll_fits latter (lawful.ready_alterAll latter middle),
    lawful.alterAll_alterAll latter middle]
  intro patch member
  -- A patch that fits makes a record even of nothing, so its record must be there by now.
  obtain ⟨record, made, _⟩ := lawful.exists_make (latter patch member) lawful.readyAt_none
  refine (Keyed.Changes.known_alterAll _ _ more patch member).resolve_right fun nothing => ?_
  cases made.symm.trans nothing

end Lawful

end Merging

end LiveBoard
