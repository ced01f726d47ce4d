import LiveBoard.Board.Action

/-!
Lists of records that are changed by identifier, where the first record of an identifier counts.

A run of changes is understood one identifier at a time: each has a bucket of the records that carry
it, of which only the first is ever changed.
-/

namespace LiveBoard.Keyed

open BoardState (replaceFirst)

variable {ε : Type} (idOf : ε → String)

/-- The records of an identifier, in order. -/
def bucket (id : String) (items : List ε) : List ε := items.filter (idOf · = id)

/-- Put a record in the place of the first one of its identifier, or in front if there is none. -/
def put (record : ε) (items : List ε) : List ε :=
  if idOf record ∈ items.map idOf then
    replaceFirst (idOf · = idOf record) (fun _ => record) items
  else record :: items

/-- The first record of an identifier is the first of its bucket. -/
theorem find?_eq_head?_bucket (id : String) (items : List ε) :
    items.find? (idOf · = id) = (bucket idOf id items).head? := by
  rw [bucket, List.head?_filter]

/-- An identifier is carried by some record exactly when its bucket has a first one. -/
theorem mem_map_iff_bucket {id : String} {items : List ε} :
    id ∈ items.map idOf ↔ bucket idOf id items ≠ [] := by
  simp [bucket, List.filter_eq_nil_iff]

/-- Lists with the same identifiers and the same buckets are the same. -/
theorem eq_of_buckets {items others : List ε} (ids : items.map idOf = others.map idOf)
    (buckets : ∀ id, bucket idOf id items = bucket idOf id others) : items = others := by
  -- The two lists are taken apart side by side.
  induction items generalizing others with
  | nil => simpa using ids
  | cons item items ih =>
    cases others with
    | nil => simp at ids
    | cons other others =>
      obtain ⟨same, rest⟩ := List.cons.inj ids
      -- The first record of each list is the first one of the bucket of their identifier.
      have first := buckets (idOf item)
      simp only [bucket, List.filter_cons, same, decide_true, if_true] at first
      obtain ⟨rfl, _⟩ := List.cons.inj first
      congr 1
      refine ih rest fun id => ?_
      -- Taking both first records away leaves the buckets of the rest the same.
      have whole := buckets id
      simp only [bucket, List.filter_cons] at whole
      split at whole
      · exact (List.cons.inj whole).2
      · exact whole

section Replace

/-- Nothing is replaced in a list that holds no match. -/
theorem replaceFirst_of_find?_eq_none {holds : ε → Bool} {change : ε → ε} {items : List ε}
    (absent : items.find? holds = none) : replaceFirst holds change items = items := by
  induction items with
  | nil => rfl
  | cons item items ih =>
    cases hit : holds item with
    | true => simp [hit] at absent
    | false =>
      rw [List.find?_cons_of_neg (by simp [hit])] at absent
      simp [replaceFirst, hit, ih absent]

/-- Of a change, only what it makes of the first match counts. -/
theorem replaceFirst_of_find?_eq_some {holds : ε → Bool} {change : ε → ε} {items : List ε}
    {first : ε} (found : items.find? holds = some first) :
    replaceFirst holds change items = replaceFirst holds (fun _ => change first) items := by
  -- Up to the first match both keep the items, and at the match both put the same one.
  induction items with
  | nil => cases found
  | cons item items ih =>
    rw [replaceFirst, replaceFirst]
    cases hit : holds item with
    | true =>
      rw [List.find?_cons_of_pos hit] at found
      obtain rfl := Option.some.inj found
      rfl
    | false =>
      rw [List.find?_cons_of_neg (by simp [hit])] at found
      simp [ih found]

/-- A change that keeps identifiers leaves all identifiers in place. -/
theorem map_replaceFirst_of_keeps {holds : ε → Bool} {change : ε → ε}
    (keeps : ∀ item, idOf (change item) = idOf item) (items : List ε) :
    (replaceFirst holds change items).map idOf = items.map idOf := by
  induction items with
  | nil => rfl
  | cons item items ih =>
    rw [replaceFirst]
    split
    · simp [keeps]
    · simp [ih]

variable {id : String} {record : ε}

/-- Replacing the first record of an identifier by another one leaves all identifiers in place. -/
theorem map_replaceFirst (carries : idOf record = id) (items : List ε) :
    (replaceFirst (idOf · = id) (fun _ => record) items).map idOf = items.map idOf := by
  -- The record that is put carries the identifier of the one that it replaces.
  induction items with
  | nil => rfl
  | cons item items ih =>
    rw [replaceFirst]
    split <;> simp_all

/-- Replacing the first record of an identifier changes the first of its bucket. -/
theorem bucket_replaceFirst (carries : idOf record = id) {items : List ε}
    (member : id ∈ items.map idOf) (other : String) :
    bucket idOf other (replaceFirst (idOf · = id) (fun _ => record) items) =
      if id = other then record :: (bucket idOf other items).tail else bucket idOf other items := by
  induction items with
  | nil => simp at member
  | cons item items ih =>
    rw [replaceFirst]
    by_cases hit : idOf item = id
    · simp only [hit, decide_true, if_true, bucket, List.filter_cons, carries]
      by_cases same : id = other <;> simp [same]
    · -- The record that is replaced is further on, past this one of another identifier.
      have rest : id ∈ items.map idOf := by
        rcases List.mem_cons.mp member with same | rest
        · exact absurd same.symm hit
        · exact rest
      have tail := ih rest
      simp only [hit, decide_false, Bool.false_eq_true, if_false, bucket,
        List.filter_cons] at tail ⊢
      rw [tail]
      by_cases same : id = other
      · subst same
        simp [hit]
      · simp [same]

end Replace

/-- Putting a record changes the first of its bucket, and no other bucket. -/
theorem bucket_put (record : ε) (items : List ε) (id : String) :
    bucket idOf id (put idOf record items) =
      if idOf record = id then record :: (bucket idOf id items).tail else bucket idOf id items := by
  unfold put
  -- The record replaces one of its identifier, or goes in front where there is none.
  split
  · rename_i member
    exact bucket_replaceFirst idOf rfl member id
  · rename_i new
    -- A record that goes in front is the only one of its identifier.
    have empty : bucket idOf (idOf record) items = [] :=
      Classical.not_not.mp fun filled => new ((mem_map_iff_bucket idOf).mpr filled)
    by_cases same : idOf record = id
    · subst same
      rw [if_pos rfl, empty, bucket, List.filter_cons, if_pos (by simp), ← bucket, empty]
      rfl
    · simp [bucket, same]

/-- After a record is put, it is the first of its identifier, and no other first record changes. -/
theorem find?_put (record : ε) (items : List ε) (id : String) :
    (put idOf record items).find? (idOf · = id) =
      if idOf record = id then some record else items.find? (idOf · = id) := by
  -- The first record of an identifier is the first of its bucket.
  rw [find?_eq_head?_bucket, bucket_put, find?_eq_head?_bucket]
  split <;> rfl

/-- Putting a record of an identifier that is carried leaves all identifiers in place. -/
theorem map_put_of_mem {record : ε} {items : List ε} (member : idOf record ∈ items.map idOf) :
    (put idOf record items).map idOf = items.map idOf := by
  rw [put, if_pos member, map_replaceFirst idOf rfl]

/-- Putting a record adds its identifier in front unless it is carried already. -/
theorem map_put (record : ε) (items : List ε) :
    (put idOf record items).map idOf =
      if idOf record ∈ items.map idOf then items.map idOf else idOf record :: items.map idOf := by
  split
  · rename_i member
    exact map_put_of_mem idOf member
  · rename_i new
    rw [put, if_neg new, List.map_cons]

/-- Putting a record takes no identifier away, and its own is carried then. -/
theorem mem_map_put (record : ε) (items : List ε) (id : String) :
    id ∈ (put idOf record items).map idOf ↔ id = idOf record ∨ id ∈ items.map idOf := by
  by_cases member : idOf record ∈ items.map idOf
  · rw [map_put_of_mem idOf member]
    exact ⟨.inr, fun either => either.elim (fun same => same ▸ member) fun held => held⟩
  · rw [put, if_neg member]
    simp

/-- Putting a record keeps identifiers distinct. -/
theorem nodup_put {items : List ε} (distinct : (items.map idOf).Nodup) (record : ε) :
    ((put idOf record items).map idOf).Nodup := by
  -- An identifier goes in front only if it is not carried yet.
  rw [map_put]
  split
  · exact distinct
  · rename_i new
    exact List.nodup_cons.mpr ⟨new, distinct⟩

/-- Putting a record twice is putting it once. -/
theorem put_put (record : ε) (items : List ε) :
    put idOf record (put idOf record items) = put idOf record items := by
  -- The second time the identifier is carried, by the very record that is put.
  refine eq_of_buckets idOf (map_put_of_mem idOf ((mem_map_put ..).mpr (.inl rfl))) fun id => ?_
  rw [bucket_put, bucket_put]
  split <;> rfl

/-- After a replacement, every record is the new one or was there before. -/
theorem mem_of_mem_replaceFirst {holds : ε → Bool} {record item : ε} {items : List ε}
    (member : item ∈ replaceFirst holds (fun _ => record) items) :
    item = record ∨ item ∈ items := by
  induction items with
  | nil => simp [replaceFirst] at member
  | cons first items ih =>
    rw [replaceFirst] at member
    split at member
    · exact (List.mem_cons.mp member).imp id fun rest => List.mem_cons_of_mem _ rest
    · rcases List.mem_cons.mp member with same | rest
      · exact .inr (by simp [same])
      · exact (ih rest).imp id fun rest => List.mem_cons_of_mem _ rest

/-- After a record is put, every record is that one or was there before. -/
theorem mem_of_mem_put {record item : ε} {items : List ε} (member : item ∈ put idOf record items) :
    item = record ∨ item ∈ items := by
  unfold put at member
  split at member
  · exact mem_of_mem_replaceFirst member
  · exact List.mem_cons.mp member

/-! ## Changes in place -/

section InPlace

variable {change : ε → ε} (keeps : ∀ item, idOf (change item) = idOf item)
include keeps

/-- A change in place is made to the first record of its bucket, and to no other bucket. -/
theorem bucket_change (id : String) (items : List ε) (other : String) :
    bucket idOf other (replaceFirst (idOf · = id) change items) =
      if id = other then
        ((bucket idOf other items).head?.map change).toList ++ (bucket idOf other items).tail
      else bucket idOf other items := by
  cases found : items.find? (idOf · = id) with
  | none =>
    -- Nothing carries the identifier, so its bucket is empty and stays so.
    rw [replaceFirst_of_find?_eq_none found]
    split
    · rename_i same
      have empty : (bucket idOf other items).head? = none := by
        rw [← find?_eq_head?_bucket, ← same, found]
      rw [List.head?_eq_none_iff.mp empty]
      rfl
    · rfl
  | some first =>
    have named : idOf first = id := by simpa using List.find?_some found
    have member : id ∈ items.map idOf :=
      List.mem_map.mpr ⟨first, List.mem_of_find?_eq_some found, named⟩
    rw [replaceFirst_of_find?_eq_some found,
      bucket_replaceFirst idOf ((keeps first).trans named) member]
    split
    · rename_i same
      have head : (bucket idOf other items).head? = some first := by
        rw [← find?_eq_head?_bucket, ← same, found]
      rw [head]
      rfl
    · rfl

/-- A change in place shows in the first record of its identifier, and in no other first record. -/
theorem find?_change (id : String) (items : List ε) (other : String) :
    (replaceFirst (idOf · = id) change items).find? (idOf · = other) =
      if id = other then (items.find? (idOf · = other)).map change
      else items.find? (idOf · = other) := by
  rw [find?_eq_head?_bucket, bucket_change idOf keeps, find?_eq_head?_bucket]
  split
  · -- An empty bucket has no tail to take a first record from.
    cases bucket idOf other items <;> rfl
  · rfl

/-- A record that is put and a change in place do not show in each other but in the record. -/
theorem put_change {id : String} {record : ε} {items : List ε}
    (held : idOf record = id → id ∈ items.map idOf) :
    put idOf (if idOf record = id then change record else record)
        (replaceFirst (idOf · = id) change items) =
      replaceFirst (idOf · = id) change (put idOf record items) := by
  have carries : idOf (if idOf record = id then change record else record) = idOf record := by
    split
    · exact keeps record
    · rfl
  refine eq_of_buckets idOf ?_ fun other => ?_
  · -- Changes in place leave all identifiers in place, so the record goes where it went before.
    rw [map_replaceFirst_of_keeps idOf keeps, map_put, map_put, carries,
      map_replaceFirst_of_keeps idOf keeps]
  · rw [bucket_put, carries, bucket_change idOf keeps, bucket_change idOf keeps, bucket_put]
    -- The record and the change meet in one bucket at most, and then the record is changed.
    by_cases mine : idOf record = other
    · by_cases same : id = other
      · have both : idOf record = id := mine.trans same.symm
        have filled := (mem_map_iff_bucket idOf).mp (held both)
        rw [same] at filled
        cases whole : bucket idOf other items with
        | nil => exact absurd whole filled
        | cons first rest => simp [mine, same]
      · have apart : ¬ other = id := fun both => same both.symm
        simp [mine, same, apart]
    · simp [mine]

end InPlace

/-! ## Runs of changes -/

/-- A list is its first item, if there is one, and the rest. -/
theorem head?_append_tail (items : List ε) : items.head?.toList ++ items.tail = items := by
  cases items <;> rfl

/-- The first item of a list may be changed, or given to an empty list. -/
theorem head?_replaced {first : Option ε} {items : List ε} (empty : first = none → items = []) :
    (first.toList ++ items.tail).head? = first ∧
      (first.toList ++ items.tail).tail = items.tail := by
  cases first with
  | none => simp [empty rfl]
  | some item => simp

/-- Changes to the records of a list, each to the first record of one identifier. -/
structure Changes (ε π : Type) where
  idOf : ε → String
  target : π → String
  /-- The record that a change makes of the first one of its identifier, if it makes one. -/
  make : π → Option ε → Option ε
  carries : ∀ {change held record}, make change held = some record → idOf record = target change

namespace Changes

variable {π : Type} (changes : Changes ε π)

/-- Make a change to a list. -/
def alter (items : List ε) (change : π) : List ε :=
  match changes.make change (items.find? (changes.idOf · = changes.target change)) with
  | some record => put changes.idOf record items
  | none => items

/-- After a change, every record is one that the change made or was there before. -/
theorem mem_of_mem_alter {items : List ε} {change : π} {item : ε}
    (member : item ∈ changes.alter items change) :
    changes.make change (items.find? (changes.idOf · = changes.target change)) = some item ∨
      item ∈ items := by
  unfold alter at member
  split at member
  · rename_i record made
    rw [made]
    exact (mem_of_mem_put changes.idOf member).imp (fun same => congrArg some same.symm) id
  · exact .inr member

/-- A change keeps identifiers distinct. -/
theorem nodup_alter {items : List ε} (distinct : (items.map changes.idOf).Nodup) (change : π) :
    ((changes.alter items change).map changes.idOf).Nodup := by
  -- A change puts a record or leaves the list as it is.
  unfold alter
  split
  · exact nodup_put changes.idOf distinct _
  · exact distinct

/-- Make changes to a list one after the other. -/
def alterAll (items : List ε) (run : List π) : List ε := run.foldl changes.alter items

/-- Make changes to the first record of an identifier one after the other. -/
def makeAll (held : Option ε) (run : List π) : Option ε :=
  run.foldl (fun held change => (changes.make change held).or held) held

/-- The changes of a run that are to an identifier. -/
def mine (id : String) (run : List π) : List π := run.filter (changes.target · = id)

/-- A change is made to the first record of its identifier and to no other record. -/
theorem bucket_alter (items : List ε) (change : π) (id : String) :
    bucket changes.idOf id (changes.alter items change) =
      if changes.target change = id then
        ((changes.make change (bucket changes.idOf id items).head?).or
          (bucket changes.idOf id items).head?).toList ++ (bucket changes.idOf id items).tail
      else bucket changes.idOf id items := by
  rw [alter, find?_eq_head?_bucket]
  -- A change that makes nothing leaves the first record of its bucket where it is.
  cases made : changes.make change (bucket changes.idOf (changes.target change) items).head? with
  | none =>
    by_cases same : changes.target change = id
    · subst same
      simp [made, head?_append_tail]
    · simp [same]
  | some record =>
    simp only [bucket_put, changes.carries made]
    by_cases same : changes.target change = id
    · subst same
      simp [made]
    · simp [same]

/-- A run makes its changes identifier by identifier. -/
theorem bucket_alterAll (items : List ε) (run : List π) (id : String) :
    bucket changes.idOf id (changes.alterAll items run) =
      (changes.makeAll (bucket changes.idOf id items).head? (changes.mine id run)).toList ++
        (bucket changes.idOf id items).tail := by
  induction run generalizing items with
  | nil => exact (head?_append_tail _).symm
  | cons change run ih =>
    rw [alterAll, List.foldl_cons, ← alterAll, ih, bucket_alter]
    by_cases same : changes.target change = id
    · have own : changes.mine id (change :: run) = change :: changes.mine id run := by
        simp [mine, same]
      -- The bucket keeps a first record, so the next change goes on from that.
      obtain ⟨head, tail⟩ := @head?_replaced _
        ((changes.make change (bucket changes.idOf id items).head?).or
          (bucket changes.idOf id items).head?) (bucket changes.idOf id items) (by simp)
      rw [if_pos same, head, tail, own]
      rfl
    · simp [mine, same]

/-- A run takes no record away. -/
theorem eq_none_of_makeAll {held : Option ε} {run : List π}
    (gone : changes.makeAll held run = none) : held = none := by
  -- Where a change makes nothing, what was held stays.
  induction run generalizing held with
  | nil => exact gone
  | cons change run ih => exact (Option.or_eq_none_iff.mp (ih gone)).2

/-- An identifier is carried, or its changes make nothing of nothing. -/
def Known (items : List ε) (change : π) : Prop :=
  changes.target change ∈ items.map changes.idOf ∨ changes.make change none = none

/-- A change to an identifier that is known leaves all identifiers in place. -/
theorem map_alter {items : List ε} {change : π} (known : changes.Known items change) :
    (changes.alter items change).map changes.idOf = items.map changes.idOf := by
  unfold alter
  cases made : changes.make change (items.find? (changes.idOf · = changes.target change)) with
  | none => rfl
  | some record =>
    -- A record that is made of another one takes the place of that.
    refine map_put_of_mem changes.idOf ?_
    rw [changes.carries made, mem_map_iff_bucket]
    intro empty
    rw [find?_eq_head?_bucket, empty, List.head?_nil] at made
    rcases known with member | nothing
    · exact (mem_map_iff_bucket changes.idOf).mp member empty
    · rw [nothing] at made
      cases made

/-- What is known stays known. -/
theorem Known.alter {items : List ε} {change : π} (known : changes.Known items change)
    (other : π) : changes.Known (changes.alter items other) change := by
  refine known.imp (fun member => ?_) id
  unfold Changes.alter
  split
  · exact (mem_map_put ..).mpr (.inr member)
  · exact member

/-- Once a change is made, its identifier is known. -/
theorem known_alter (items : List ε) (change : π) :
    changes.Known (changes.alter items change) change := by
  by_cases member : changes.target change ∈ items.map changes.idOf
  · exact Known.alter changes (.inl member) change
  · -- An identifier that is not carried has nothing to make its record of.
    have empty : bucket changes.idOf (changes.target change) items = [] :=
      Classical.not_not.mp fun filled => member ((mem_map_iff_bucket _).mpr filled)
    unfold alter
    rw [find?_eq_head?_bucket, empty, List.head?_nil]
    cases made : changes.make change none with
    | none => exact .inr made
    | some record => exact .inl ((mem_map_put ..).mpr (.inl (changes.carries made).symm))

/-- Once a run is made, the identifiers of its changes are known. -/
theorem known_alterAll (items : List ε) (run : List π) :
    ∀ change ∈ run, changes.Known (changes.alterAll items run) change := by
  -- What is known after the first change stays known to the end.
  have keeps : ∀ (items : List ε) (run : List π) (change : π), changes.Known items change →
      changes.Known (changes.alterAll items run) change := by
    intro items run change known
    induction run generalizing items with
    | nil => exact known
    | cons other run ih => exact ih _ (Known.alter changes known other)
  induction run generalizing items with
  | nil => simp
  | cons first run ih =>
    intro change member
    rcases List.mem_cons.mp member with rfl | later
    · exact keeps _ run _ (known_alter changes items _)
    · exact ih _ change later

/-- A run over identifiers that are known leaves all identifiers in place. -/
theorem map_alterAll {items : List ε} {run : List π}
    (known : ∀ change ∈ run, changes.Known items change) :
    (changes.alterAll items run).map changes.idOf = items.map changes.idOf := by
  induction run generalizing items with
  | nil => rfl
  | cons first run ih =>
    rw [alterAll, List.foldl_cons, ← alterAll, ih fun change member =>
      Known.alter changes (known change (by simp [member])) first]
    exact map_alter changes (known first (by simp))

/-- A run makes nothing new of what it made when that holds of the run of each identifier. -/
theorem alterAll_alterAll {items : List ε} {run : List π}
    (absorbed : ∀ id,
      changes.makeAll (changes.makeAll (items.find? (changes.idOf · = id)) (changes.mine id run))
          (changes.mine id run) =
        changes.makeAll (items.find? (changes.idOf · = id)) (changes.mine id run)) :
    changes.alterAll (changes.alterAll items run) run = changes.alterAll items run := by
  refine eq_of_buckets changes.idOf (map_alterAll changes (known_alterAll changes items run))
    fun id => ?_
  -- The second run starts, in each bucket, from what the first one made of its first record.
  have same := absorbed id
  rw [find?_eq_head?_bucket] at same
  obtain ⟨head, tail⟩ := @head?_replaced _
    (changes.makeAll (bucket changes.idOf id items).head? (changes.mine id run))
    (bucket changes.idOf id items) fun gone => by
      simpa using eq_none_of_makeAll changes gone
  rw [bucket_alterAll, bucket_alterAll changes items, head, tail, same]

end Changes

end LiveBoard.Keyed
