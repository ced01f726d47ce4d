import LiveBoard.Instant.Basic
import Mathlib.Data.List.Pairwise

/-! Records sorted by an instant, of which those of the same instant keep their order. -/

namespace LiveBoard.Instant

variable {ε : Type}

/-- A comparison that goes by the instants of records. -/
structure Chronological (instantOf : ε → Instant) (le : ε → ε → Bool) : Prop where
  trans : ∀ a b c, le a b → le b c → le a c
  total : ∀ a b, le a b || le b a
  /-- Only records of the same instant may stand in either order. -/
  tied_iff : ∀ a b, le a b ∧ le b a ↔ instantOf a = instantOf b

/-- Comparing backwards goes by the instants. -/
theorem chronological_backwards (instantOf : ε → Instant) :
    Chronological instantOf fun a b => (instantOf b).le (instantOf a) where
  trans _ _ _ first second := le_trans second first
  total a b := by simpa using le_total (instantOf b) (instantOf a)
  tied_iff a b := by
    constructor
    · rintro ⟨first, second⟩
      exact le_antisymm second first
    · intro same
      simp [same, le_refl]

/-- Comparing forwards goes by the instants. -/
theorem chronological_forwards (instantOf : ε → Instant) :
    Chronological instantOf fun a b => (instantOf a).le (instantOf b) where
  trans _ _ _ first second := le_trans first second
  total a b := by simpa using le_total (instantOf a) (instantOf b)
  tied_iff a b := by
    constructor
    · rintro ⟨first, second⟩
      exact le_antisymm first second
    · intro same
      simp [same, le_refl]

/-- The records of an instant, in order. -/
def moment (instantOf : ε → Instant) (instant : Instant) (records : List ε) : List ε :=
  records.filter (instantOf · = instant)

variable {instantOf : ε → Instant} {le : ε → ε → Bool}

/-- Sorting leaves the records of each instant in their order. -/
theorem moment_mergeSort (goes : Chronological instantOf le) (instant : Instant)
    (records : List ε) :
    moment instantOf instant (records.mergeSort le) = moment instantOf instant records := by
  -- The records of one instant are sorted as they stand, and sorting keeps what is sorted.
  have tied : (moment instantOf instant records).Pairwise fun a b => le a b := by
    refine List.pairwise_of_forall_mem_list fun a first b second => ?_
    have whenA : instantOf a = instant := by simpa using (List.mem_filter.mp first).2
    have whenB : instantOf b = instant := by simpa using (List.mem_filter.mp second).2
    exact ((goes.tied_iff a b).mpr (whenA.trans whenB.symm)).1
  have kept : (moment instantOf instant records).Sublist (records.mergeSort le) :=
    List.sublist_mergeSort goes.trans goes.total tied List.filter_sublist
  have inside : (moment instantOf instant records).Sublist
      (moment instantOf instant (records.mergeSort le)) := by
    have filtered := kept.filter (instantOf · = instant)
    simpa only [moment, List.filter_filter, Bool.and_self] using filtered
  -- There are as many of them after sorting as before.
  have many : (moment instantOf instant (records.mergeSort le)).Perm
      (moment instantOf instant records) := (List.mergeSort_perm records le).filter _
  exact (inside.eq_of_length many.length_eq.symm).symm

/-- A record that comes first in one of two sorted lists goes before any record of the other. -/
theorem le_of_moments (goes : Chronological instantOf le) {first second : ε}
    {records others : List ε} (sorted : (first :: records).Pairwise fun a b => le a b)
    (moments : ∀ instant, moment instantOf instant (first :: records) =
      moment instantOf instant (second :: others)) : le first second := by
  -- The other record is among those of its instant, and so in both lists.
  have member : second ∈ moment instantOf (instantOf second) (first :: records) := by
    rw [moments]
    exact List.mem_filter.mpr ⟨List.mem_cons_self, by simp⟩
  -- The first record of a sorted list goes before itself and all others.
  rcases List.mem_cons.mp (List.mem_filter.mp member).1 with same | later
  · rw [same]
    exact ((goes.tied_iff first first).mpr rfl).1
  · exact List.rel_of_pairwise_cons sorted later

/-- Sorted lists that have the same records of each instant are the same. -/
theorem eq_of_moments (goes : Chronological instantOf le) {records others : List ε}
    (sorted : records.Pairwise fun a b => le a b) (also : others.Pairwise fun a b => le a b)
    (moments : ∀ instant, moment instantOf instant records = moment instantOf instant others) :
    records = others := by
  -- Record by record, since the first ones of both lists are of one instant.
  induction records generalizing others with
  | nil =>
    cases others with
    | nil => rfl
    | cons second others => simpa [moment] using moments (instantOf second)
  | cons first records ih =>
    cases others with
    | nil => simpa [moment] using moments (instantOf first)
    | cons second others =>
      have tied : instantOf first = instantOf second :=
        (goes.tied_iff first second).mp ⟨le_of_moments goes sorted moments,
          le_of_moments goes also fun instant => (moments instant).symm⟩
      have heads := moments (instantOf first)
      simp only [moment, List.filter_cons, tied, decide_true, if_true] at heads
      obtain ⟨rfl, _⟩ := List.cons.inj heads
      congr 1
      refine ih sorted.of_cons also.of_cons fun instant => ?_
      -- Without the first records, which are the same, the rest is the same for each instant.
      have whole := moments instant
      simp only [moment, List.filter_cons] at whole
      split at whole
      · exact (List.cons.inj whole).2
      · exact whole

/-- Lists that have the same records of each instant are the same once they are sorted. -/
theorem mergeSort_eq_of_moments (goes : Chronological instantOf le) {records others : List ε}
    (moments : ∀ instant, moment instantOf instant records = moment instantOf instant others) :
    records.mergeSort le = others.mergeSort le := by
  -- Both are sorted, and sorting leaves the records of an instant as they were in each.
  refine eq_of_moments goes (List.pairwise_mergeSort goes.trans goes.total records)
    (List.pairwise_mergeSort goes.trans goes.total others) fun instant => ?_
  rw [moment_mergeSort goes, moment_mergeSort goes, moments]

/-- Sorting records before others come behind them makes no difference to a sort of all. -/
theorem mergeSort_mergeSort_append (goes : Chronological instantOf le) (records others : List ε) :
    (records.mergeSort le ++ others).mergeSort le = (records ++ others).mergeSort le := by
  refine mergeSort_eq_of_moments goes fun instant => ?_
  -- The first sort leaves the records of each instant in their order.
  have first := moment_mergeSort goes instant records
  simp only [moment, List.filter_append] at first ⊢
  rw [first]

/-- Records of distinct instants may come behind others in any order before all are sorted. -/
theorem mergeSort_append_of_perm (goes : Chronological instantOf le) (records : List ε)
    {fresh others : List ε} (same : fresh.Perm others)
    (apart : fresh.Pairwise fun a b => instantOf a ≠ instantOf b) :
    (records ++ fresh).mergeSort le = (records ++ others).mergeSort le := by
  refine mergeSort_eq_of_moments goes fun instant => ?_
  -- No two records of distinct instants are of the same one.
  have alone : ∀ {news : List ε}, (news.Pairwise fun a b => instantOf a ≠ instantOf b) →
      (moment instantOf instant news).Pairwise fun _ _ => False := by
    intro news distinct
    refine (distinct.filter _).imp_of_mem ?_
    intro a b first second different
    have whenA : instantOf a = instant := by simpa using (List.mem_filter.mp first).2
    have whenB : instantOf b = instant := by simpa using (List.mem_filter.mp second).2
    exact different (whenA.trans whenB.symm)
  -- So at each instant there is at most one of the new records, and it is the same in both orders.
  have moments : moment instantOf instant fresh = moment instantOf instant others :=
    List.Perm.eq_of_pairwise (fun _ _ _ _ never => never.elim) (alone apart)
      (alone (apart.perm same Ne.symm)) (same.filter _)
  simp only [moment, List.filter_append] at moments ⊢
  rw [moments]

end LiveBoard.Instant
