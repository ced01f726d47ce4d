import LiveBoard.Board.View
import LiveBoard.Proofs.Sync.Changes

/-!
A decision changes which approvals wait for one, but not the number of them that is held.

That number comes with the snapshot and with frames. The answer to a decision has none.
-/

namespace LiveBoard

open BoardState (replaceFirst)

/-- Replacing a record takes it out of a count, and the record in its place into the count. -/
theorem Keyed.countP_replaceFirst {ε : Type} {holds : ε → Bool} {items : List ε} {held : ε}
    (counted : ε → Bool) (record : ε) (found : items.find? holds = some held) :
    (replaceFirst holds (fun _ => record) items).countP counted + (if counted held then 1 else 0) =
      items.countP counted + (if counted record then 1 else 0) := by
  -- Along the list, as far as the record that is replaced: behind it nothing changes.
  induction items with
  | nil => cases found
  | cons item items ih =>
    rw [replaceFirst]
    by_cases hit : holds item
    · rw [List.find?_cons_of_pos hit] at found
      obtain rfl := Option.some.inj found
      simp only [hit, if_true, List.countP_cons]
      omega
    · rw [List.find?_cons_of_neg hit] at found
      have later := ih found
      simp only [hit, Bool.false_eq_true, if_false, List.countP_cons]
      omega

namespace BoardState

/-- The number of approvals that wait for a decision. -/
def waiting (state : BoardState) : Nat := state.pendingApprovals.length

/-- Whether the number of pending approvals that is held is that of those that wait. -/
def CountsWaiting (state : BoardState) : Prop :=
  state.pendingApprovalsCount.toNat = state.waiting

instance (state : BoardState) : Decidable state.CountsWaiting :=
  inferInstanceAs (Decidable (_ = _))

end BoardState

section Decided

variable {decided : Patch} {approvalId : String} {status : ApprovalStatus}

/-- An approval that a patch changes has the status that the patch gives. -/
theorem Approval.status_merge {held record : Approval}
    (given : (decided.get? "status").bind Codec.approvalStatus.decode? = some status)
    (merged : Approval.merging.merge decided approvalId (some held) = .ok record) :
    record.status = status := by
  simp only [Merging.merge, Option.elim_some] at merged
  split at merged
  · rename_i result applied
    obtain rfl : result = record := Except.ok.inj merged
    have member : Field.given "status" (.orDefault .approvalStatus .pending) Approval.status
        (fun value record => { record with status := value }) ∈ Approval.schema.fields := by
      simp [Approval.schema]
    -- The field of the status is read again from what the patch says of it.
    have read := Approval.schema_lawful.apply_eq_ok.mp applied _ member
    obtain ⟨value, present, means⟩ := Option.bind_eq_some_iff.mp given
    -- Null would stand for the default, and is no status itself.
    have same : (Codec.approvalStatus.orDefault .pending).decode? value =
        Codec.approvalStatus.decode? value := by
      cases value with
      | null => cases means
      | _ => rfl
    simpa [Field.reread?, Field.given, present, same, means] using read.symm
  · cases merged

/-- A decision that is taken in replaces the approval that it names by one of its status. -/
theorem BoardState.approved_decided {approvals result : List Approval} {held : Approval}
    (named : decided.id? = some approvalId)
    (given : (decided.get? "status").bind Codec.approvalStatus.decode? = some status)
    (found : approvals.find? (·.id = approvalId) = some held)
    (taken : approved (some decided) approvals = .ok result) :
    ∃ record : Approval, record.status = status ∧
      result = replaceFirst (·.id = approvalId) (fun _ => record) approvals := by
  -- The approval is held, so it is merged into and not added.
  have upserted : Approval.merging.upsert decided approvals = .ok result := taken
  have same : approvals.find? (Approval.merging.idOf · = approvalId) = some held := found
  rw [Approval.merging_lawful.upsert_of_named named, same] at upserted
  cases merged : Approval.merging.merge decided approvalId (some held) with
  | error refusal => simp [merged, Except.map] at upserted
  | ok record =>
    -- The merged record has the identifier of the held one, so it takes the place of that one.
    have id : record.id = approvalId := Approval.merging_lawful.idOf_merge named merged
    have heldId : held.id = approvalId := by simpa using List.find?_some found
    have member : record.id ∈ approvals.map Approval.id :=
      List.mem_map.mpr ⟨held, List.mem_of_find?_eq_some found, heldId.trans id.symm⟩
    simp only [merged, Except.map, Except.ok.injEq] at upserted
    refine ⟨record, Approval.status_merge given merged, ?_⟩
    rw [← upserted, ← id]
    exact if_pos member

section Succeeded

variable {boardId : String}
  {answer : {β : Type} → Call β → BoardStore → BoardStore × Except ApiError β}
  {store heard after : BoardStore} {value : Approval}

/-- A decision that succeeded was answered by an approval. -/
theorem Mutation.answered_decideApproval
    (done : (decideApproval boardId approvalId status store).run answer = (after, .ok value)) :
    ∃ heard decided, answer (.decideApproval boardId approvalId status) store =
      (heard, .ok decided) := by
  simp only [decideApproval, run] at done
  -- An error would have been the result.
  split at done
  · cases done
  · rename_i decided answered
    exact ⟨_, decided, Prod.ext rfl answered⟩

/-- A decision that succeeded changes the approvals as the answer says, and keeps the number. -/
theorem Mutation.run_decideApproval
    (answered : answer (.decideApproval boardId approvalId status) store = (heard, .ok decided))
    (done : (decideApproval boardId approvalId status store).run answer = (after, .ok value)) :
    after.state.pendingApprovalsCount = heard.state.pendingApprovalsCount ∧
      BoardState.approved (some decided) heard.state.approvals = .ok after.state.approvals := by
  simp only [decideApproval, run, answered] at done
  obtain ⟨accepted, finished⟩ := confirm_eq_ok done
  -- What follows the action empties an error slot and looks the approval up.
  obtain rfl :
      clear .approvals (heard.apply (.approvalUpserted (some decided) none none)) = after :=
    congrArg Prod.fst finished
  have cleared :
      -- Emptying an error slot touches neither the approvals nor their number.
      (clear .approvals (heard.apply (.approvalUpserted (some decided) none none))).state =
        (heard.state.reduce (.approvalUpserted (some decided) none none)).state.setError
          .approvals none := by
    rw [clear, BoardStore.apply_state, BoardStore.apply_state]
    rfl
  rw [BoardState.reduce_approvalUpserted] at accepted
  rw [cleared, BoardState.reduce_approvalUpserted]
  cases made : BoardState.approved (some decided) heard.state.approvals with
  -- A refusal would have been the result, so the approvals were changed as the answer says.
  | error refusal => simp [made, BoardState.refusal?] at accepted
  | ok approvals => exact ⟨rfl, rfl⟩

/-- A decision that succeeded leaves one approval fewer waiting, if that one had waited. -/
theorem Mutation.waiting_decideApproval {held : Approval} (decides : status ≠ .pending)
    (answered : answer (.decideApproval boardId approvalId status) store = (heard, .ok decided))
    (found : heard.state.approvals.find? (·.id = approvalId) = some held)
    (named : decided.id? = some approvalId)
    (given : (decided.get? "status").bind Codec.approvalStatus.decode? = some status)
    (done : (decideApproval boardId approvalId status store).run answer = (after, .ok value)) :
    heard.state.waiting = after.state.waiting + (if held.status = .pending then 1 else 0) := by
  -- One record is replaced by a decided one: the count loses the old one if it waited.
  obtain ⟨-, taken⟩ := run_decideApproval answered done
  obtain ⟨record, decidedSo, replaced⟩ := BoardState.approved_decided named given found taken
  have counted := Keyed.countP_replaceFirst (·.status = .pending) record found
  rw [← replaced] at counted
  simp only [decidedSo, decides, decide_false, decide_eq_true_eq, Bool.false_eq_true,
    if_false] at counted
  simp only [BoardState.waiting, BoardState.pendingApprovals, ← List.countP_eq_length_filter]
  omega

end Succeeded

end Decided

end LiveBoard
