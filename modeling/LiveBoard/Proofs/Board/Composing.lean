import LiveBoard.Proofs.Board.Lasting
import LiveBoard.Proofs.Json.Readings

/-!
Patches that are merged one after the other make what one patch makes that says all they say.

The record in between passes over what it does not know, fills in defaults, and writes timestamps
and numbers in its own way, and none of this shows in the end.
-/

namespace LiveBoard

namespace Patch

/-- A record changed by patches one after the other. -/
def applyAll {ε : Type} (schema : Schema ε) (record : ε) (run : List Patch) : Except Fault ε :=
  run.foldlM (fun record patch => patch.apply schema record) record

/-- A record is changed by the first patch, and what that makes of it by the others. -/
theorem applyAll_cons {ε : Type} {schema : Schema ε} {record result : ε} {patch : Patch}
    {run : List Patch} :
    applyAll schema record (patch :: run) = .ok result ↔
      ∃ next, patch.apply schema record = .ok next ∧ applyAll schema next run = .ok result := by
  -- A run ends at the first patch that is refused.
  rw [applyAll, List.foldlM_cons]
  cases patch.apply schema record <;> simp [Bind.bind, Except.bind, applyAll]

/-- What a patch can be that comes as JSON, all its timestamps being in years of four digits. -/
structure Sound (patch : Patch) (kind : PatchedKind) : Prop where
  finite : Json.membersFinite patch
  era : patch.InEra kind

instance (patch : Patch) (kind : PatchedKind) : Decidable (patch.Sound kind) :=
  decidable_of_iff (Json.membersFinite patch ∧ patch.InEra kind)
    ⟨fun both => ⟨both.1, both.2⟩, fun sound => ⟨sound.finite, sound.era⟩⟩

/-- Of a patch that a text holds, it has only to be known in what years its timestamps are. -/
theorem sound_of_parse {text : String} {patch : Patch} {kind : PatchedKind}
    (parsed : Codec.map.parse text = .ok patch) (era : patch.InEra kind) : patch.Sound kind := by
  obtain ⟨value, finite, given⟩ := Codec.exists_of_parse parsed
  -- Only an object is read as a patch, and then its members are the patch.
  cases value with
  | object members =>
    obtain rfl := Option.some.inj given
    exact ⟨finite, era⟩
  | _ => cases given

/-- A patch laid over another is sound when both are. -/
theorem Sound.overlay {first second : Patch} {kind : PatchedKind} (sound : first.Sound kind)
    (other : second.Sound kind) : Patch.Sound (first.overlay second) kind where
  finite := by
    -- The members of the second patch are put among those of the first, one after the other.
    have finite := other.finite
    clear other
    induction second with
    | nil => exact sound.finite
    | cons entry second ih =>
      obtain ⟨key, value⟩ := entry
      simp only [Json.membersFinite, Bool.and_eq_true] at finite
      exact Json.membersFinite_insert key (ih finite.2) finite.1
  era := by
    intro key listed value given
    -- Each value is one of the two patches.
    rw [Members.get?_overlay] at given
    rcases Option.or_eq_some_iff.mp given with named | ⟨-, named⟩
    · exact other.era key listed value named
    · exact sound.era key listed value named

end Patch

section Compose

variable {ε : Type} {kind : PatchedKind} {schema : Schema ε} {record middle result : ε}
  {first second : Patch}

/-- Two patches one after the other make what the second makes that is laid over the first. -/
theorem PatchedKind.Describes.apply_overlay (describes : kind.Describes schema)
    (sound : first.Sound kind) (once : first.apply schema record = .ok middle)
    (twice : second.apply schema middle = .ok result) :
    Patch.apply schema record (first.overlay second) = .ok result := by
  rw [describes.lawful.apply_eq_ok] at once twice ⊢
  intro field member
  have lasting := describes.lasting field member
  have before := once field member
  have after := twice field member
  unfold Field.reread? at before after ⊢
  rw [Members.get?_overlay]
  cases later : second.get? field.key with
  | some value =>
    -- What the second patch names does not depend on what was there.
    simpa [later] using after
  | none =>
    -- The second patch keeps what the first one left, so the field is written and read again.
    have kept : field.codec.Keeps (field.get middle) := by
      cases named : first.get? field.key with
      | some value =>
        rw [named, Option.getD_some] at before
        exact lasting.keeps (Json.isFinite_of_get? sound.finite named)
          (fun listed => sound.era field.key listed value named) before
      | none =>
        rw [named, Option.getD_none] at before
        exact lasting.steady _ _ before
    rw [later, Option.getD_none, kept] at after
    obtain same := Option.some.inj after
    simpa [same] using before

/-- Patches one after the other make what all of them make that are laid over each other. -/
theorem PatchedKind.Describes.apply_foldl_overlay (describes : kind.Describes schema)
    {run : List Patch} (sound : ∀ patch ∈ first :: run, patch.Sound kind)
    (applied : Patch.applyAll schema record (first :: run) = .ok result) :
    Patch.apply schema record (run.foldl Members.overlay first) = .ok result := by
  induction run generalizing first with
  | nil =>
    obtain ⟨next, once, rest⟩ := Patch.applyAll_cons.mp applied
    obtain rfl := Except.ok.inj rest
    exact once
  | cons second run ih =>
    obtain ⟨middle, once, rest⟩ := Patch.applyAll_cons.mp applied
    obtain ⟨next, twice, later⟩ := Patch.applyAll_cons.mp rest
    -- The first two patches count as one from here on.
    have joined := describes.apply_overlay (sound first (by simp)) once twice
    refine ih (fun patch member => ?_) (Patch.applyAll_cons.mpr ⟨next, joined, later⟩)
    rcases List.mem_cons.mp member with rfl | member
    · exact (sound first (by simp)).overlay (sound second (by simp))
    · exact sound patch (by simp [member])

/--
Patches that follow each other compose.

Two of them make of a record what the second one makes that is laid over the first, and so do the
patches of any run. Only what is overlaid has to be sound: the record may hold any timestamps, and
so may the last of two patches.
-/
theorem PatchedKind.Describes.apply_composed (describes : kind.Describes schema)
    (sound : first.Sound kind) :
    (∀ (second : Patch) middle result, first.apply schema record = .ok middle →
      second.apply schema middle = .ok result →
      Patch.apply schema record (first.overlay second) = .ok result) ∧
    ∀ (run : List Patch) result, (∀ patch ∈ run, patch.Sound kind) →
      Patch.applyAll schema record (first :: run) = .ok result →
      Patch.apply schema record (run.foldl Members.overlay first) = .ok result := by
  refine ⟨fun second middle result once twice => describes.apply_overlay sound once twice,
    fun run result others applied => describes.apply_foldl_overlay (fun patch member => ?_) applied⟩
  rcases List.mem_cons.mp member with rfl | later
  · exact sound
  · exact others patch later

end Compose

/-- A task in review, due in the year 10000, which is lost when it is written and read again. -/
def farTask : Task :=
  { Task.schema.blank with
    id := "t", title := "Plan", status := .review, dueAt := some ⟨253402300800, 0, by decide⟩ }

/-- A patch with a key that no task has, a null, and a time given with an offset. -/
def dateEdit : Patch :=
  [("colour", .string "red"), ("id", .string "t"),
    ("in_progress_at", .string "2026-02-28T13:00:00.5+01:00"), ("status", .null)]

/-- A patch with a time that is none. -/
def titleEdit : Patch :=
  [("id", .string "t"), ("title", .string "Plan B"), ("updated_at", .string "just now")]

/-- Both edits of a task, one after the other or laid over each other, make the same task. -/
theorem PatchedKind.Describes.apply_composed_edits :
    let edited := { farTask with
      status := .inbox, dueAt := none
      inProgressAt := some ⟨1772280000, 500000000, by decide⟩ }
    let renamed := { edited with title := "Plan B" }
    dateEdit.apply Task.schema farTask = .ok edited ∧
      titleEdit.apply Task.schema edited = .ok renamed ∧
      Patch.apply Task.schema farTask (dateEdit.overlay titleEdit) = .ok renamed := by
  intro edited renamed
  have once : dateEdit.apply Task.schema farTask = .ok edited := by decide +kernel
  have twice : titleEdit.apply Task.schema edited = .ok renamed := by decide
  have sound : dateEdit.Sound .task := by decide
  exact ⟨once, twice, (PatchedKind.Describes.task.apply_composed sound).1 _ _ _ once twice⟩

end LiveBoard
