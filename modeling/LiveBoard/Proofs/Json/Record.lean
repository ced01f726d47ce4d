import LiveBoard.Json.Record

/-! What is read into the fields of a record, field by field. -/

namespace LiveBoard

/-- A value is decoded exactly when the decoder of its kind accepts it. -/
theorem Codec.decode_eq_ok {α : Type} {codec : Codec α} {value : Json} {decoded : α} :
    codec.decode value = .ok decoded ↔ codec.decode? value = some decoded := by
  unfold decode
  -- A shape only tells why a value is refused, never that it is.
  cases codec.decode? value <;> simp

namespace Members

/-- Of two objects laid over each other, the upper one gives every key that it names. -/
theorem get?_overlay (lower upper : Members) (key : String) :
    (lower.overlay upper).get? key = (upper.get? key).or (lower.get? key) := by
  induction upper with
  | nil => simp [overlay, get?]
  | cons entry upper ih =>
    -- The first member of a key is laid over last, so it is the one that is found.
    rw [overlay, List.foldr_cons, ← overlay, get?_insert, ih]
    simp only [get?]
    split <;> simp

/-- A member is found under its key when no other member has that key. -/
theorem get?_of_mem {members : Members} (distinct : (members.map Prod.fst).Nodup) {key : String}
    {value : Json} (member : (key, value) ∈ members) : members.get? key = some value := by
  induction members with
  | nil => simp at member
  | cons entry members ih =>
    obtain ⟨other, held⟩ := entry
    obtain ⟨new, rest⟩ := List.nodup_cons.mp distinct
    rcases List.mem_cons.mp member with same | later
    · obtain ⟨rfl, rfl⟩ := Prod.mk.inj same
      simp [get?]
    · -- The first member has another key, which no later member has as well.
      have differs : other ≠ key := fun same =>
        new (same ▸ List.mem_map.mpr ⟨(key, value), later, rfl⟩)
      simpa [get?, differs] using ih rest later

/-- Nothing is found under a key that no member has. -/
theorem get?_eq_none {members : Members} {key : String} (absent : key ∉ members.map Prod.fst) :
    members.get? key = none := by
  induction members with
  | nil => rfl
  | cons other members ih =>
    simp only [List.map_cons, List.mem_cons, not_or] at absent
    simp [get?, Ne.symm absent.1, ih absent.2]

/-- Members listed under keys of their own are held under these keys. -/
theorem get?_ofList {entries : List (String × Json)} (distinct : (entries.map Prod.fst).Nodup)
    (key : String) : (ofList entries).get? key = get? entries key := by
  -- The members are put into an object that may hold some already.
  have general : ∀ members : Members,
      (entries.foldl (fun members entry => insert entry.1 entry.2 members) members).get? key =
        (get? entries key).or (members.get? key) := by
    induction entries with
    | nil => simp [get?]
    | cons entry entries ih =>
      intro members
      obtain ⟨new, rest⟩ := List.nodup_cons.mp distinct
      rw [List.foldl_cons, ih rest, get?_insert]
      simp only [get?]
      split
      · rename_i same
        -- The key is not listed again, so nothing that comes later replaces it.
        simp [get?_eq_none (same ▸ new)]
      · rfl
  simpa [ofList, get?] using general []

end Members

namespace Field

variable {ε : Type}

/-- What members give for a field of a record that held a value. -/
def read? (field : Field ε) (members : Members) (held : field.α) : Option field.α :=
  match members.get? field.key with
  | some value => field.codec.decode? value
  | none => if field.required then none else some held

/-- Whether members give anything for a field does not depend on the value it held. -/
theorem isSome_read? (field : Field ε) (members : Members) (held other : field.α) :
    (field.read? members held).isSome = (field.read? members other).isSome := by
  unfold read?
  cases members.get? field.key with
  -- A value that was held is at most kept, and that only where it may be.
  | some value => rfl
  | none => cases field.required <;> rfl

/-- What is stored in one field does not show in another. -/
def Apart (field other : Field ε) : Prop :=
  ∀ value record, other.get (field.set value record) = other.get record

/-- Loading a field stores what is read, and nothing else. -/
theorem load_eq_some {field : Field ε} {members : Members} {record next : ε}
    (faithful : ∀ value record, field.get (field.set value record) = value)
    (loaded : field.load members record = some next) :
    field.read? members (field.get record) = some (field.get next) ∧
      ∀ other, field.Apart other → other.get next = other.get record := by
  unfold load at loaded
  unfold read?
  cases found : members.get? field.key with
  | some value =>
    rw [found] at loaded
    -- What the members give is decoded and stored.
    obtain ⟨decoded, read, rfl⟩ := Option.map_eq_some_iff.mp loaded
    exact ⟨by simp [read, faithful], fun other apart => apart decoded record⟩
  | none =>
    rw [found] at loaded
    -- Without anything given, the record stays as it is.
    cases required : field.required with
    | true => simp [required] at loaded
    | false =>
      obtain rfl : record = next := by simpa [required] using loaded
      exact ⟨by simp, fun _ _ => rfl⟩

/-- A field is loaded when the members give something for it. -/
theorem isSome_load {field : Field ε} {members : Members} {record : ε}
    (read : (field.read? members (field.get record)).isSome) :
    (field.load members record).isSome := by
  unfold read? at read
  unfold load
  cases found : members.get? field.key with
  | some value =>
    rw [found] at read
    simpa using read
  | none =>
    rw [found] at read
    cases required : field.required <;> simp_all

end Field

namespace Schema

variable {ε : Type}

/--
A schema whose fields are independent of each other.

What is stored in a field is read from it and shows in no other field, and a record is no more than
its fields.
-/
structure Lawful (schema : Schema ε) : Prop where
  distinct : (schema.fields.map Field.key).Nodup
  faithful : ∀ field ∈ schema.fields, ∀ value record, field.get (field.set value record) = value
  apart : schema.fields.Pairwise fun field other => field.Apart other ∧ other.Apart field
  ext : ∀ {record other}, (∀ field ∈ schema.fields, field.get record = field.get other) →
    record = other

/-- Fields loaded one after the other hold what the members give for each. -/
theorem foldlM_load_eq_some {fields : List (Field ε)} {members : Members} {record result : ε}
    (faithful : ∀ field ∈ fields, ∀ value record, field.get (field.set value record) = value)
    (apart : fields.Pairwise fun field other => field.Apart other ∧ other.Apart field)
    (loaded : fields.foldlM (fun record field => field.load members record) record = some result) :
    (∀ field ∈ fields, field.read? members (field.get record) = some (field.get result)) ∧
      ∀ other, (∀ field ∈ fields, field.Apart other) → other.get result = other.get record := by
  induction fields generalizing record with
  -- The record goes from field to field, and each of them finds what the ones before it left.
  | nil =>
    obtain rfl : record = result := by simpa using loaded
    simp
  | cons first fields ih =>
    rw [List.foldlM_cons] at loaded
    obtain ⟨next, head, tail⟩ := Option.bind_eq_some_iff.mp loaded
    obtain ⟨own, others⟩ := Field.load_eq_some (faithful first (by simp)) head
    obtain ⟨firstApart, restApart⟩ := List.pairwise_cons.mp apart
    obtain ⟨rest, kept⟩ := ih (fun field member => faithful field (by simp [member])) restApart tail
    refine ⟨?_, ?_⟩
    · intro field member
      rcases List.mem_cons.mp member with rfl | member
      · -- Nothing that is loaded after the first field shows in it.
        rw [own, kept field fun other inside => (firstApart other inside).2]
      · -- Loading the first field did not show in this one either.
        rw [← others field (firstApart field member).1]
        exact rest field member
    · intro other free
      rw [kept other fun field member => free field (by simp [member]),
        others other (free first (by simp))]

/-- Fields are loaded when the members give something for each of them. -/
theorem isSome_foldlM_load {fields : List (Field ε)} {members : Members} {record : ε}
    (read : ∀ field ∈ fields, ∀ held, (field.read? members held).isSome) :
    (fields.foldlM (fun record (field : Field ε) => field.load members record) record).isSome := by
  induction fields generalizing record with
  | nil => rfl
  | cons first fields ih =>
    -- Whatever the fields before have stored, the next one is given something as well.
    obtain ⟨next, head⟩ := Option.isSome_iff_exists.mp
      (Field.isSome_load (read first (by simp) (first.get record)))
    rw [List.foldlM_cons, head]
    exact ih fun field member => read field (by simp [member])

/-- Members give a record when they give something for each of its fields. -/
theorem exists_ofMembers? {schema : Schema ε} {members : Members}
    (read : ∀ field ∈ schema.fields, (field.read? members (field.get schema.blank)).isSome) :
    ∃ record, schema.ofMembers? members = some record := by
  -- It does not matter that a field may hold something else by the time it is loaded.
  refine Option.isSome_iff_exists.mp (isSome_foldlM_load fun field member held => ?_)
  rw [field.isSome_read? members held (field.get schema.blank)]
  exact read field member

/-- A record is read from members exactly when each of its fields is. -/
theorem Lawful.ofMembers?_eq_some {schema : Schema ε} (lawful : schema.Lawful) {members : Members}
    {record : ε} :
    schema.ofMembers? members = some record ↔
      ∀ field ∈ schema.fields,
        field.read? members (field.get schema.blank) = some (field.get record) := by
  constructor
  · intro loaded
    exact (foldlM_load_eq_some lawful.faithful lawful.apart loaded).1
  · intro read
    obtain ⟨result, loaded⟩ := exists_ofMembers? fun field member => by
      rw [read field member]
      rfl
    have fields := (foldlM_load_eq_some lawful.faithful lawful.apart loaded).1
    -- The record that is loaded has the same fields, and is no more than these.
    have same : result = record := lawful.ext fun field member =>
      Option.some.inj ((fields field member).symm.trans (read field member))
    exact same ▸ loaded

end Schema

end LiveBoard
