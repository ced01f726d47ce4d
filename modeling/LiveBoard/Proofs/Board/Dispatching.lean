import LiveBoard.Proofs.Board.Effects

/-!
Dispatching is all or nothing, over whole runs.

An action that is refused leaves a state beside its refusal. That state is the one it was given, so
a run leaves what its accepted actions leave by themselves, and the revision counts these.
-/

namespace LiveBoard

/-- The patch that an action merges, and the kind of record it is merged into. -/
def BoardAction.merged? : BoardAction → Option (PatchedKind × Patch)
  | .taskUpserted patch => some (.task, patch)
  | .agentUpserted patch => some (.agent, patch)
  -- A frame may carry counters without an approval.
  | .approvalUpserted approval _ _ => approval.map fun patch => (.approval, patch)
  | _ => none

/-- Why a patch makes no record of what is held, or no new one, if it makes none. -/
def Patch.fault? {ε : Type} (schema : Schema ε) (held : Option ε) (patch : Patch) : Option Fault :=
  match held.elim (patch.build schema) (patch.apply schema) with
  | .ok _ => none
  | .error fault => some fault

namespace BoardState

/-- Why a patch of an identifier cannot be merged into a board, if it cannot. -/
def fault? (state : BoardState) (patch : Patch) (id : String) : PatchedKind → Option Fault
  | .task => patch.fault? Task.schema (state.tasks.find? (·.id = id))
  | .approval => patch.fault? Approval.schema (state.approvals.find? (·.id = id))
  | .agent => patch.fault? Agent.schema (state.agents.find? (·.id = id))

/-- Why a board refuses an action: its patch names no record, or makes none of what is held. -/
def refusalOf? (state : BoardState) (action : BoardAction) : Option Refusal :=
  action.merged?.bind fun (kind, patch) =>
    match patch.id? with
    | none => some (.missingId kind)
    | some id => (state.fault? patch id kind).map (.unmergeable kind id)

end BoardState

/-- A merge is refused for a patch that names no record, or for the fault of what it makes. -/
theorem Merging.Lawful.refusal?_upsert {ε : Type} {merging : Merging ε} (lawful : merging.Lawful)
    (patch : Patch) (items : List ε) :
    BoardState.refusal? (merging.upsert patch items) =
      match patch.id? with
      | none => some (.missingId merging.kind)
      | some id =>
        (patch.fault? merging.schema (items.find? (merging.idOf · = id))).map
          (.unmergeable merging.kind id) := by
  -- The identifier is asked for first, so its absence hides every other fault.
  cases named : patch.id? with
  | none =>
    rw [upsert_of_unnamed named]
    rfl
  | some id =>
    rw [lawful.upsert_of_named named, BoardState.refusal?_map]
    -- Finishing a record that was made cannot fail.
    cases made : (items.find? (merging.idOf · = id)).elim (patch.build merging.schema)
      (patch.apply merging.schema) with
    | ok record => simp only [merge, Patch.fault?, made, BoardState.refusal?, Option.map_none]
    | error fault => simp only [merge, Patch.fault?, made, BoardState.refusal?, Option.map_some]

namespace BoardState

/-- An action is refused for its patch, and for nothing else. -/
theorem refusal_reduce (state : BoardState) (action : BoardAction) :
    (state.reduce action).refusal = state.refusalOf? action := by
  -- Three kinds of action merge a patch, each into a list of its own.
  cases action with
  | taskUpserted patch =>
    rw [reduce_taskUpserted]
    exact (Task.merging_lawful state.agents).refusal?_upsert patch state.tasks
  | agentUpserted patch =>
    rw [reduce_agentUpserted]
    exact Agent.merging_lawful.refusal?_upsert patch state.agents
  | approvalUpserted approval counts pending =>
    rw [reduce_approvalUpserted]
    cases approval with
    | none => rfl
    | some patch => exact Approval.merging_lawful.refusal?_upsert patch state.approvals
  -- An action of another kind merges no patch.
  | _ => rfl

end BoardState

namespace BoardStore

/-- Apply actions one after the other, and say of each whether it was refused. -/
def dispatchAll (store : BoardStore) :
    List BoardAction → BoardStore × List (Except Refusal Unit)
  | [] => (store, [])
  | action :: actions =>
    let (next, result) := store.dispatch action
    let (last, results) := next.dispatchAll actions
    (last, result :: results)

/-- The actions whose results are no refusals. -/
def accepted (actions : List BoardAction) (results : List (Except Refusal Unit)) :
    List BoardAction :=
  (actions.zip results).filterMap fun (action, result) => result.toOption.map fun () => action

/-- An action that is refused leaves the store as it is, and any other one is counted. -/
theorem dispatch_eq_refusalOf? (store : BoardStore) (action : BoardAction) :
    store.dispatch action =
      match store.state.refusalOf? action with
      | some refusal => (store, .error refusal)
      | none => (⟨(store.state.reduce action).state, store.revision + 1⟩, .ok ()) := by
  rw [← BoardState.refusal_reduce]
  cases refused : (store.state.reduce action).refusal with
  | none => simp only [dispatch, refused]
  | some refusal =>
    -- The store keeps the state that is left, which is the one before the refused action.
    have same : (store.state.reduce action).state = store.state :=
      BoardState.reduce_of_refused (by simp [refused])
    simp only [dispatch, refused, same]

/-- An action is counted once, or not at all. -/
theorem revision_apply_le (store : BoardStore) (action : BoardAction) :
    store.revision ≤ (store.apply action).revision ∧
      (store.apply action).revision ≤ store.revision + 1 := by
  rw [apply, dispatch_eq_refusalOf?]
  cases store.state.refusalOf? action with
  | none => exact ⟨Nat.le_succ _, Nat.le_refl _⟩
  | some refusal => exact ⟨Nat.le_refl _, Nat.le_succ _⟩

/-- The revision never goes back, and it goes on by no more than there are actions. -/
theorem revision_applyAll_le (store : BoardStore) (actions : List BoardAction) :
    store.revision ≤ (store.applyAll actions).revision ∧
      (store.applyAll actions).revision ≤ store.revision + actions.length := by
  -- Each action adds at most one to what the ones before it left.
  induction actions generalizing store with
  | nil => exact ⟨Nat.le_refl _, Nat.le_refl _⟩
  | cons action actions ih =>
    obtain ⟨first, once⟩ := store.revision_apply_le action
    obtain ⟨rest, within⟩ := ih (store.apply action)
    rw [List.length_cons]
    exact ⟨first.trans rest, within.trans (by omega)⟩

/-- A store that starts empty takes fewer than `2 ^ 64` actions before 64 bits are too few. -/
theorem toNat_revision (boardId : String) {actions : List BoardAction}
    (few : actions.length < 2 ^ 64) :
    (UInt64.ofNat ((empty boardId).applyAll actions).revision).toNat =
      ((empty boardId).applyAll actions).revision := by
  have within := ((empty boardId).revision_applyAll_le actions).2
  have start : (empty boardId).revision = 0 := rfl
  -- A number below the range of a word is what the word stands for.
  rw [UInt64.toNat_ofNat']
  exact Nat.mod_eq_of_lt (by omega)

/-- Actions after others are dispatched to the store that those left. -/
theorem dispatchAll_append (store : BoardStore) (before actions : List BoardAction) :
    store.dispatchAll (before ++ actions) =
      (((store.dispatchAll before).1.dispatchAll actions).1,
        (store.dispatchAll before).2 ++ ((store.dispatchAll before).1.dispatchAll actions).2) := by
  -- Along the former actions, each of which leaves the store that the next one is dispatched to.
  induction before generalizing store with
  | nil => rfl
  | cons action before ih => simp only [List.cons_append, dispatchAll, ih]

/-- Each action has a result. -/
theorem length_dispatchAll (store : BoardStore) (actions : List BoardAction) :
    (store.dispatchAll actions).2.length = actions.length := by
  induction actions generalizing store with
  | nil => rfl
  | cons action actions ih => simp only [dispatchAll, List.length_cons, ih]

/-- A run leaves what its accepted actions leave, which are all accepted by themselves as well. -/
theorem dispatchAll_eq (store : BoardStore) (actions : List BoardAction) :
    let kept := accepted actions (store.dispatchAll actions).2
    (store.dispatchAll actions).1 =
        ⟨store.state.reduceAll kept, store.revision + kept.length⟩ ∧
      store.state.Accepts kept := by
  -- What is kept is accepted again, as each action meets the same board without the refused ones.
  induction actions generalizing store with
  | nil => exact ⟨rfl, trivial⟩
  | cons action actions ih =>
    have first := store.dispatch_eq_refusalOf? action
    cases refused : store.state.refusalOf? action with
    | some refusal =>
      -- The others go on from the same store, and the refused action is not among those kept.
      rw [refused] at first
      simp only [dispatchAll, first]
      exact ih store
    | none =>
      rw [refused] at first
      obtain ⟨left, accepts⟩ := ih ⟨(store.state.reduce action).state, store.revision + 1⟩
      simp only [dispatchAll, first]
      refine ⟨left.trans ?_, ?_, accepts⟩
      · -- The action that is kept counts once more, ahead of the others.
        exact congrArg (BoardStore.mk _) (Nat.add_right_comm ..)
      · rw [BoardState.refusal_reduce, refused]

/--
A run of dispatched actions is the run of those that were not refused.

The last state is what these leave when they are reduced in order, and the revision has grown by
their number. An action is refused exactly when the board then held refuses its patch, and a refusal
leaves the store as it was, state and revision, whatever else the action carries.
-/
theorem dispatchAll_all_or_nothing (store : BoardStore) (actions : List BoardAction) :
    let run := store.dispatchAll actions
    let kept := accepted actions run.2
    run.1.state = store.state.reduceAll kept ∧
      run.1.revision = store.revision + kept.length ∧
      store.state.Accepts kept ∧
      ∀ before action after, actions = before ++ action :: after →
        let held := (store.dispatchAll before).1
        match held.state.refusalOf? action with
        | none => run.2[before.length]? = some (.ok ())
        | some refusal =>
          run.2[before.length]? = some (.error refusal) ∧
            (held.state.reduce action).state = held.state ∧
            (store.dispatchAll (before ++ [action])).1 = held := by
  intro run kept
  obtain ⟨left, accepts⟩ := store.dispatchAll_eq actions
  refine ⟨congrArg state left, congrArg revision left, accepts, ?_⟩
  -- Any action of the run, with those before it and those after it.
  rintro before action after rfl held
  -- The result of the action stands behind those of the actions before it.
  have result : run.2[before.length]? = some (held.dispatch action).2 := by
    have behind := store.dispatchAll_append before (action :: after)
    simp only [run, behind, ← store.length_dispatchAll before, List.getElem?_append_right,
      Nat.le_refl, Nat.sub_self]
    rfl
  -- The store after the action is what dispatching it to the board then held leaves.
  have last : (store.dispatchAll (before ++ [action])).1 = (held.dispatch action).1 := by
    rw [dispatchAll_append]
    rfl
  have taken := held.dispatch_eq_refusalOf? action
  cases refused : held.state.refusalOf? action with
  | none =>
    rw [refused] at taken
    exact result.trans (congrArg (some ·.2) taken)
  | some refusal =>
    rw [refused] at taken
    refine ⟨result.trans (congrArg (some ·.2) taken), ?_, last.trans (congrArg Prod.fst taken)⟩
    exact BoardState.reduce_of_refused (by simp [BoardState.refusal_reduce, refused])

/-- A board that waits for five approvals, all of them for its one task. -/
def fivePending : BoardStore :=
  ⟨{ BoardState.empty "b" with
    tasks := [{ Task.schema.blank with id := "t", approvalsPendingCount := 5 }]
    pendingApprovalsCount := 5 }, 0⟩

/-- A frame of an approval that cannot be read, with counters for the task and for the board. -/
def unreadableApproval : BoardAction :=
  .approvalUpserted (some [("id", .string "a")]) (some ⟨some "t", some 5, some 4⟩) (some 4)

/-- A frame whose approval cannot be read sets no counter, and is not counted itself. -/
theorem dispatchAll_all_or_nothing_unreadable :
    let run := fivePending.dispatchAll [.sectionCleared .chat, unreadableApproval, .taskClosed]
    run.2[1]? = some (.error (.unmergeable .approval "a" (.missingField "created_at"))) ∧
      (fivePending.dispatchAll [.sectionCleared .chat, unreadableApproval]).1 =
        (fivePending.dispatchAll [.sectionCleared .chat]).1 ∧
      run.1.state = fivePending.state ∧ run.1.revision = 2 := by
  obtain ⟨left, grown, -, each⟩ := fivePending.dispatchAll_all_or_nothing
    [.sectionCleared .chat, unreadableApproval, .taskClosed]
  have refused : (fivePending.dispatchAll [.sectionCleared .chat]).1.state.refusalOf?
      unreadableApproval = some (.unmergeable .approval "a" (.missingField "created_at")) := by
    decide
  -- The second action of three is the one that is refused, for the date that its patch lacks.
  have second := each [.sectionCleared .chat] unreadableApproval [.taskClosed] rfl
  simp only [refused] at second
  exact ⟨second.1, second.2.2, left.trans (by decide), grown.trans (by decide)⟩

end BoardStore

end LiveBoard
