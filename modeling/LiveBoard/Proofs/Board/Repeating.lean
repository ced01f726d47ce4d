import LiveBoard.Proofs.Board.Effects
import LiveBoard.Proofs.Board.Lasting

/-!
What a patch made it makes again, at once and whatever the patch says.

A field that the patch names is read from it as before. Any other field was written and read when
the patch came first, and a value that went through that once is kept.
-/

namespace LiveBoard

namespace Merging.Lawful

variable {ε : Type} {merging : Merging ε} (lawful : merging.Lawful)
  (steady : ∀ field ∈ merging.schema.fields, field.codec.Steady) {patch : Patch}
include lawful steady

/-- A patch is read once more into a record that was finished after it. -/
theorem exists_apply_finished {held : Option ε} {before result : ε}
    (applied : patch.apply merging.schema before = .ok result) :
    ∃ again, patch.apply merging.schema (merging.finish held result) = .ok again ∧
      ∀ field ∈ merging.schema.fields, field.key ∉ merging.finished →
        field.get again = field.get result := by
  have fields := lawful.schema.apply_eq_ok.mp applied
  -- A field that finishing leaves alone is read from the patch as before, or settles.
  have kept : ∀ field ∈ merging.schema.fields, field.key ∉ merging.finished →
      field.reread? patch (field.get (merging.finish held result)) = some (field.get result) := by
    intro field member open_
    have read := fields field member
    rw [lawful.get_finish field member open_]
    unfold Field.reread? at read ⊢
    cases named : patch.get? field.key with
    | some value => simpa [named] using read
    | none =>
      rw [named, Option.getD_none] at read
      exact steady field member _ _ read
  -- The patch is read again if every field is, those that finishing overwrites among them.
  obtain ⟨again, reapplied⟩ := lawful.schema.exists_apply_of_reread fun field member => by
    by_cases overwritten : field.key ∈ merging.finished
    · -- What finishing put into a field can be read again, if the patch does not name the field.
      have read := fields field member
      unfold Field.reread? at read ⊢
      cases named : patch.get? field.key with
      | some value =>
        rw [named, Option.getD_some] at read
        exact Option.isSome_iff_exists.mpr ⟨_, read⟩
      | none =>
        have settles := lawful.settles field member overwritten
          (field.get (merging.finish held result))
        exact Option.isSome_iff_exists.mpr ⟨_, settles.decode?_encode⟩
    · exact Option.isSome_iff_exists.mpr ⟨_, kept field member overwritten⟩
  refine ⟨again, reapplied, fun field member open_ => ?_⟩
  -- Both readings of an open field are the same one.
  have reread := lawful.schema.apply_eq_ok.mp reapplied field member
  exact Option.some.inj (reread.symm.trans (kept field member open_))

/-- What a patch made of a record, it makes of that again. -/
theorem merge_again {id : String} {held : Option ε} {record : ε}
    (merged : merging.merge patch id held = .ok record) :
    merging.merge patch id (some record) = .ok record := by
  unfold merge at merged
  split at merged
  · rename_i result made
    obtain rfl := Except.ok.inj merged
    obtain ⟨before, applied⟩ : ∃ before, patch.apply merging.schema before = .ok result := by
      -- A new record is what the patch makes of the record of defaults.
      cases held with
      | none => exact ⟨_, lawful.schema.apply_blank lawful.blank made⟩
      | some record => exact ⟨record, made⟩
    -- The patch reads again what it gave, and finishing looks at nothing that it may have changed.
    obtain ⟨again, reapplied, same⟩ := lawful.exists_apply_finished steady applied
    unfold merge
    rw [Option.elim_some, reapplied]
    exact congrArg Except.ok (lawful.finish_congr (lawful.stamp_finish held result) same)
  · cases merged

/-- What a patch made of a list of records, it makes of that again. -/
theorem upsert_again {items result : List ε} (merged : merging.upsert patch items = .ok result) :
    merging.upsert patch result = .ok result := by
  cases named : patch.id? with
  | none =>
    -- A patch that names no record is refused.
    rw [upsert_of_unnamed named] at merged
    cases merged
  | some id =>
    rw [lawful.upsert_of_named named] at merged ⊢
    obtain ⟨record, made, rfl⟩ := exists_of_map_eq_ok merged
    -- The record that was put is found, is made again, and is put in its own place.
    have found := Keyed.find?_put merging.idOf record items id
    rw [if_pos (lawful.idOf_merge named made)] at found
    rw [found, lawful.merge_again steady made]
    exact congrArg Except.ok (Keyed.put_put merging.idOf record items)

end Merging.Lawful

namespace BoardState

/-- An action is accepted by a board and changes nothing of it. -/
def Passes (state : BoardState) (action : BoardAction) : Prop :=
  state.reduce action = ⟨state, none⟩

variable {state : BoardState}

/-- A patch of a task passes right after it was accepted. -/
theorem passes_taskUpserted {patch : Patch}
    (accepted : (state.reduce (.taskUpserted patch)).refusal = none) :
    (state.reduce (.taskUpserted patch)).state.Passes (.taskUpserted patch) := by
  rw [reduce_taskUpserted] at accepted ⊢
  -- The tasks that the patch made, it makes again; nothing else of the board is touched.
  cases made : (Task.merging state.agents).upsert patch state.tasks with
  | error refusal => simp [made, refusal?] at accepted
  | ok tasks =>
    have again := (Task.merging_lawful state.agents).upsert_again
      (fun field member => (Task.lasting field member).steady) made
    rw [Passes, reduce_taskUpserted]
    simp only [kept, again]
    rfl

/-- A patch of an approval passes right after it was accepted. -/
theorem passes_approvalUpserted {patch : Patch}
    (accepted : (state.reduce (.approvalUpserted (some patch) none none)).refusal = none) :
    (state.reduce (.approvalUpserted (some patch) none none)).state.Passes
      (.approvalUpserted (some patch) none none) := by
  rw [reduce_approvalUpserted] at accepted ⊢
  cases made : approved (some patch) state.approvals with
  | error refusal => simp [made, refusal?] at accepted
  | ok approvals =>
    have again : approved (some patch) approvals = .ok approvals :=
      Approval.merging_lawful.upsert_again
        (fun field member => (Approval.lasting field member).steady) made
    rw [Passes, reduce_approvalUpserted]
    simp only [kept, again]
    rfl

/-- A message passes right after it came. -/
theorem passes_chatReceived (message : ChatMessage) :
    (state.reduce (.chatReceived message)).state.Passes (.chatReceived message) := by
  -- The message is held by then, or it was none to be taken in at all.
  have again : say (say state.chatMessages message) message = say state.chatMessages message :=
    @say_again state.chatMessages [message] [message] (List.Subset.refl _)
  rw [reduce_chatReceived, Passes, reduce_chatReceived]
  dsimp only
  rw [again]

end BoardState

end LiveBoard
