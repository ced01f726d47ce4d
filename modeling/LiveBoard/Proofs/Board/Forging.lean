import LiveBoard.Proofs.Board.Effects

/-! Neither the approval counters of a task nor the name of its assignee come from its patches. -/

namespace LiveBoard

/-! ## Patches that say the same but under some keys -/

/-- Taking the members of some keys out of an object does not show under any other key. -/
theorem Members.get?_filter {keys : List String} {key : String} (free : key ∉ keys)
    (members : Members) :
    get? (members.filter (·.1 ∉ keys)) key = members.get? key := by
  -- Member by member: the one that is looked for is never among those taken out.
  induction members with
  | nil => rfl
  | cons entry members ih =>
    obtain ⟨held, value⟩ := entry
    rw [List.filter_cons]
    split
    · simp only [get?, ih]
    · rename_i taken
      -- The member that is taken out has a key of the list, and so another one.
      have differs : held ≠ key := fun same => free (by simpa [same] using taken)
      simpa [get?, differs] using ih

/-- What a patch says of a field can be read, be it nothing, null or a value. -/
def Field.Legible {ε : Type} (field : Field ε) (patch : Patch) : Prop :=
  ∀ value ∈ patch.get? field.key, (field.codec.decode? value).isSome

instance {ε : Type} (field : Field ε) (patch : Patch) : Decidable (field.Legible patch) :=
  inferInstanceAs (Decidable (∀ _ ∈ _, _))

namespace Schema

variable {ε : Type} {schema : Schema ε}

/-- Two patches that say the same but under some keys, where each says what can be read. -/
structure Akin (schema : Schema ε) (keys : List String) (patch other : Patch) : Prop where
  same : ∀ key, key ∉ keys → patch.get? key = other.get? key
  legible : ∀ field ∈ schema.fields, field.key ∈ keys → field.Legible patch ∧ field.Legible other

section Akin

variable {keys : List String} {patch other : Patch}

/-- Patches are akin when they are the same but for the members of the keys. -/
theorem Akin.of_filter (same : patch.filter (·.1 ∉ keys) = other.filter (·.1 ∉ keys))
    (legible : ∀ field ∈ schema.fields, field.key ∈ keys →
      field.Legible patch ∧ field.Legible other) : schema.Akin keys patch other where
  same key free := by
    rw [← Members.get?_filter free patch, same, Members.get?_filter free other]
  legible := legible

/-- To be akin goes both ways. -/
theorem Akin.symm (akin : schema.Akin keys patch other) : schema.Akin keys other patch where
  same key free := (akin.same key free).symm
  legible field member forged := (akin.legible field member forged).symm

/-- Akin patches name the same identifier when that is not under the keys. -/
theorem Akin.id?_eq (akin : schema.Akin keys patch other) (free : "id" ∉ keys) :
    patch.id? = other.id? := by
  rw [Patch.id?, Patch.id?, akin.same "id" free]

/-- Laid over one record, a patch is accepted when one that is akin to it is. -/
theorem Lawful.exists_apply_akin (lawful : schema.Lawful)
    (settles : ∀ field ∈ schema.fields, field.key ∈ keys → ∀ value, field.codec.Settles value)
    (akin : schema.Akin keys patch other) {record result : ε}
    (applied : patch.apply schema record = .ok result) :
    ∃ again, other.apply schema record = .ok again ∧ schema.SameBut keys result again := by
  have made := lawful.apply_eq_ok.mp applied
  -- Outside of the keys, both patches make the same of the record.
  have common : ∀ field ∈ schema.fields, field.key ∉ keys →
      field.reread? other (field.get record) = some (field.get result) := by
    intro field member free
    rw [← made field member, Field.reread?, Field.reread?, akin.same field.key free]
  obtain ⟨again, reapplied⟩ : ∃ again, other.apply schema record = .ok again := by
    refine lawful.exists_apply_of_reread fun field member => ?_
    by_cases forged : field.key ∈ keys
    · unfold Field.reread?
      cases named : other.get? field.key with
      | some value => exact (akin.legible field member forged).2 value named
      | none =>
        -- Where the other patch says nothing, the record is read again.
        have reread := (settles field member forged (field.get record)).decode?_encode
        rw [Option.getD_none, reread]
        rfl
    · rw [common field member forged]
      rfl
  refine ⟨again, reapplied, fun field member free => ?_⟩
  have remade := lawful.apply_eq_ok.mp reapplied field member
  exact Option.some.inj ((common field member free).symm.trans remade)

/-- A patch makes a new record when one that is akin to it does, if no key is required. -/
theorem Lawful.exists_build_akin (lawful : schema.Lawful)
    (free : ∀ field ∈ schema.fields, field.key ∈ keys → field.required = false)
    (akin : schema.Akin keys patch other) {result : ε} (built : patch.build schema = .ok result) :
    ∃ again, other.build schema = .ok again ∧ schema.SameBut keys result again := by
  have made := lawful.build_eq_ok.mp built
  -- Outside of the keys, both patches give the same to the new record.
  have common : ∀ field ∈ schema.fields, field.key ∉ keys →
      field.read? other (field.get schema.blank) = some (field.get result) := by
    intro field member free
    rw [← made field member, Field.read?, Field.read?, akin.same field.key free]
  obtain ⟨again, loaded⟩ : ∃ again, schema.ofMembers? other = some again := by
    refine exists_ofMembers? fun field member => ?_
    by_cases forged : field.key ∈ keys
    · unfold Field.read?
      cases named : other.get? field.key with
      | some value => exact (akin.legible field member forged).2 value named
      -- Where the other patch says nothing, the default is taken.
      | none => simp [free field member forged]
    · rw [common field member forged]
      rfl
  have rebuilt : other.build schema = .ok again := decode_eq_ok.mpr loaded
  refine ⟨again, rebuilt, fun field member free => ?_⟩
  have remade := lawful.build_eq_ok.mp rebuilt field member
  exact Option.some.inj ((common field member free).symm.trans remade)

end Akin

end Schema

namespace Merging

variable {ε : Type} {merging : Merging ε} {patch other : Patch}

/-- What finishing overwrites may be left out of a patch, even of one that makes a new record. -/
def Spares (merging : Merging ε) : Prop :=
  "id" ∉ merging.finished ∧
    ∀ field ∈ merging.schema.fields, field.key ∈ merging.finished → field.required = false

/-- Patches that differ in what finishing overwrites make the same record. -/
theorem Lawful.merge_akin (lawful : merging.Lawful) (spares : merging.Spares)
    (akin : merging.schema.Akin merging.finished patch other) {id : String} {held : Option ε}
    {record : ε} (merged : merging.merge patch id held = .ok record) :
    merging.merge other id held = .ok record := by
  unfold merge at merged ⊢
  -- The patch made a record that was then finished, and the other patch makes one akin to it.
  split at merged
  · rename_i result made
    obtain ⟨again, remade, same⟩ : ∃ again,
        held.elim (other.build merging.schema) (other.apply merging.schema) = .ok again ∧
          merging.schema.SameBut merging.finished result again := by
      cases held with
      -- A patch of a record that is not held makes a new one.
      | none => exact lawful.schema.exists_build_akin spares.2 akin made
      | some held => exact lawful.schema.exists_apply_akin lawful.settles akin made
    -- Finishing overwrites all that the two records differ in.
    rw [remade, ← Except.ok.inj merged, lawful.finish_congr rfl same]
  · cases merged

/-- Patches that differ in what finishing overwrites make the same list. -/
theorem Lawful.upsert_akin (lawful : merging.Lawful) (spares : merging.Spares)
    (akin : merging.schema.Akin merging.finished patch other) {items made : List ε}
    (merged : merging.upsert patch items = .ok made) : merging.upsert other items = .ok made := by
  cases named : patch.id? with
  | none => simp [upsert_of_unnamed named] at merged
  | some id =>
    -- Both patches name the same record, so they are laid over the same one.
    have renamed : other.id? = some id := (akin.id?_eq spares.1).symm.trans named
    rw [lawful.upsert_of_named named] at merged
    obtain ⟨record, first, rfl⟩ := exists_of_map_eq_ok merged
    rw [lawful.upsert_of_named renamed, lawful.merge_akin spares akin first]
    rfl

end Merging

/-! ## Runs that differ in what patches of tasks cannot say -/

/-- The keys of a task that its patches name in vain. -/
def Task.derived : List String := ["assignee", "approvals_count", "approvals_pending_count"]

/-- Patches of tasks may leave out what finishing overwrites. -/
theorem Task.merging_spares (agents : List Agent) : (Task.merging agents).Spares := by
  -- What finishing overwrites is neither the identifier nor anything that a new task must have.
  refine ⟨?_, ?_⟩
  · change "id" ∉ derived
    decide
  · change ∀ field ∈ schema.fields, field.key ∈ derived → field.required = false
    decide

/-- Two actions that are the same but for what patches of tasks cannot say. -/
inductive BoardAction.Akin : BoardAction → BoardAction → Prop
  | same (action : BoardAction) : Akin action action
  | patches {patch other : Patch} (akin : Task.schema.Akin Task.derived patch other) :
    Akin (.taskUpserted patch) (.taskUpserted other)

/-- To be akin goes both ways. -/
theorem BoardAction.Akin.symm {action other : BoardAction} (akin : action.Akin other) :
    other.Akin action := by
  cases akin with
  | same => exact .same action
  | patches akin => exact .patches akin.symm

namespace BoardState

/-- Which actions are accepted when actions are taken in one after the other. -/
def verdicts (state : BoardState) : List BoardAction → List Bool
  | [] => []
  | action :: run =>
    (state.reduce action).refusal.isNone :: (state.reduce action).state.verdicts run

/-- An action that is akin to one that is accepted is accepted and leaves the same state. -/
theorem reduce_akin_of_accepted {action other : BoardAction} (akin : action.Akin other)
    {state : BoardState} (accepted : (state.reduce action).refusal = none) :
    state.reduce other = state.reduce action := by
  cases akin with
  | same => rfl
  | @patches patch other akin =>
    simp only [reduce_taskUpserted] at accepted ⊢
    cases made : (Task.merging state.agents).upsert patch state.tasks with
    | error refusal => simp [made, refusal?] at accepted
    | ok tasks =>
      -- What the patches differ in is overwritten when the task is finished.
      have lawful := Task.merging_lawful state.agents
      rw [lawful.upsert_akin (Task.merging_spares state.agents) akin made]

/-- Actions that are akin are both accepted or both refused, and leave the same state. -/
theorem reduce_akin {action other : BoardAction} (akin : action.Akin other) (state : BoardState) :
    (state.reduce action).refusal.isNone = (state.reduce other).refusal.isNone ∧
      (state.reduce action).state = (state.reduce other).state := by
  by_cases accepted : (state.reduce action).refusal = none
  · rw [reduce_akin_of_accepted akin accepted]
    exact ⟨rfl, rfl⟩
  · -- An action whose counterpart is refused cannot be accepted either.
    have refused : (state.reduce other).refusal ≠ none := fun also =>
      accepted (reduce_akin_of_accepted akin.symm also ▸ also)
    refine ⟨?_, (reduce_of_refused accepted).trans (reduce_of_refused refused).symm⟩
    rw [Option.isNone_eq_false_iff.mpr (Option.ne_none_iff_isSome.mp accepted),
      Option.isNone_eq_false_iff.mpr (Option.ne_none_iff_isSome.mp refused)]

/-- Runs that are akin are accepted alike and leave the same state. -/
theorem reduceAll_akin {run other : List BoardAction}
    (akin : List.Forall₂ BoardAction.Akin run other) (state : BoardState) :
    state.verdicts run = state.verdicts other ∧ state.reduceAll run = state.reduceAll other := by
  -- The states of the two runs are the same at every point, so the heads are always akin there.
  induction akin generalizing state with
  | nil => exact ⟨rfl, rfl⟩
  | @cons action second run other head _ ih =>
    obtain ⟨verdict, same⟩ := reduce_akin head state
    obtain ⟨verdicts, last⟩ := ih (state.reduce second).state
    refine ⟨?_, ?_⟩
    · rw [BoardState.verdicts, BoardState.verdicts, verdict, same, verdicts]
    · simp only [reduceAll, List.foldl_cons, same]
      exact last

end BoardState

/-! ## Counters that no action of a run sets -/

/-- Whether an action is none of those that bring counters, or lists of tasks. -/
def BoardAction.sparesCounters : BoardAction → Bool
  | .snapshotLoaded _ | .approvalUpserted _ _ _ | .tasksRestored _ => false
  | _ => true

/-- The approval counters of a task, all and pending. -/
def Task.tally (task : Task) : UInt32 × UInt32 :=
  (task.approvalsCount, task.approvalsPendingCount)

namespace BoardState

/-- The counters of the tasks of an identifier, of which there is one at most in a sound board. -/
def counters (state : BoardState) (id : String) : List (UInt32 × UInt32) :=
  (Keyed.bucket Task.id id state.tasks).map Task.tally

/-- There are counters of an identifier exactly when a task carries it. -/
theorem counters_eq_nil {state : BoardState} {id : String} :
    state.counters id = [] ↔ id ∉ state.tasks.map (·.id) := by
  rw [counters, List.map_eq_nil_iff, Keyed.mem_map_iff_bucket, not_not]

/-- A patch makes a task with the counters of the one that was held, or with none. -/
theorem counters_merge {agents : List Agent} {patch : Patch} {id : String} {held : Option Task}
    {task : Task} (merged : (Task.merging agents).merge patch id held = .ok task) :
    task.tally = held.elim (0, 0) Task.tally := by
  unfold Merging.merge at merged
  split at merged
  · -- The counters are set when the task is finished, whatever the patch made of them.
    obtain rfl := Except.ok.inj merged
    cases held <;> rfl
  · cases merged

/-- A patch keeps the counters of an identifier, or brings its first task, which has none. -/
theorem counters_taskUpserted (state : BoardState) (patch : Patch) (id : String) :
    (state.reduce (.taskUpserted patch)).state.counters id = state.counters id ∨
      state.counters id = [] ∧
        (state.reduce (.taskUpserted patch)).state.counters id = [(0, 0)] := by
  rw [reduce_taskUpserted]
  -- A patch that is refused keeps all counters.
  cases named : patch.id? with
  | none =>
    rw [Merging.upsert_of_unnamed named]
    exact .inl rfl
  | some target =>
    rw [Task.upsert_of_named named]
    cases made : (Task.merging state.agents).merge patch target
        (state.tasks.find? (·.id = target)) with
    | error refusal => exact .inl rfl
    | ok task =>
      have counted := counters_merge made
      have carries : task.id = target := Task.id_merge named made
      simp only [counters, kept, Except.map, Keyed.bucket_put, carries]
      by_cases same : target = id
      · subst same
        rw [Keyed.find?_eq_head?_bucket Task.id] at counted
        -- The task takes the place of the first one of its identifier, if there is one.
        cases whole : Keyed.bucket Task.id target state.tasks with
        | nil => exact .inr ⟨rfl, by simpa [whole] using counted⟩
        | cons first rest => exact .inl (by simpa [whole] using counted)
      · exact .inl (by simp [same])

/-- A task that is removed leaves no counters. -/
theorem counters_taskRemoved (state : BoardState) (id : String) :
    (state.reduce (.taskRemoved id)).state.counters id = [] := by
  simp [counters, reduce, removeTask, Keyed.bucket, List.filter_filter]

/-- An action that brings no counters keeps those of a task, or brings a task that has none. -/
theorem counters_reduce {action : BoardAction} {id : String} (spares : action.sparesCounters)
    (stays : action ≠ .taskRemoved id) (state : BoardState) :
    (state.reduce action).state.counters id = state.counters id ∨
      state.counters id = [] ∧ (state.reduce action).state.counters id = [(0, 0)] := by
  -- Most actions do not touch the tasks at all.
  have untouched : (state.reduce action).state.tasks = state.tasks →
      (state.reduce action).state.counters id = state.counters id := fun same => by
    rw [counters, counters, same]
  cases action with
  | taskUpserted patch => exact counters_taskUpserted state patch id
  | taskRemoved taskId =>
    have differs : taskId ≠ id := fun same => stays (congrArg BoardAction.taskRemoved same)
    -- The tasks that are removed have another identifier.
    have others : Keyed.bucket Task.id id (state.tasks.filter (·.id ≠ taskId)) =
        Keyed.bucket Task.id id state.tasks := by
      rw [Keyed.bucket, Keyed.bucket, List.filter_filter]
      refine List.filter_congr fun task _ => ?_
      by_cases mine : task.id = id
      · simp [mine, differs.symm]
      · simp [mine]
    exact .inl (congrArg (List.map Task.tally) others)
  | taskStatusChanged taskId status =>
    -- A move changes the first task of its identifier in place, and none of its counters.
    have moved : ∀ task, (moveTask status task).tally = task.tally := by
      intro task
      unfold moveTask
      split <;> rfl
    refine .inl ?_
    simp only [counters, reduce]
    rw [Keyed.bucket_change Task.id (moveTask_id status)]
    split
    · cases Keyed.bucket Task.id id state.tasks <;> simp [moved]
    · rfl
  | taskOpened taskId =>
    refine .inl (untouched ?_)
    simp only [reduce, openTask]
    split <;> rfl
  | commentReceived comment =>
    refine .inl (untouched ?_)
    rw [reduce_commentReceived]
  | commentPosted comment =>
    refine .inl (untouched ?_)
    simp only [reduce, postComment]
    split <;> rfl
  | agentUpserted patch =>
    refine .inl (untouched ?_)
    rw [reduce_agentUpserted]
  | chatReceived message =>
    refine .inl (untouched ?_)
    rw [reduce_chatReceived]
  -- Actions of these kinds bring counters, or whole lists of tasks.
  | snapshotLoaded | approvalUpserted | tasksRestored => cases spares
  | _ => exact .inl (untouched rfl)

variable {run : List BoardAction}

/-- Where no task has counters, none gets any. -/
theorem counters_zero (spares : ∀ action ∈ run, action.sparesCounters) {state : BoardState}
    {id : String} (zero : ∀ counters ∈ state.counters id, counters = (0, 0)) :
    ∀ counters ∈ (state.reduceAll run).counters id, counters = (0, 0) := by
  -- Along the run: a task may go and come again, but comes without counters.
  induction run generalizing state with
  | nil => exact zero
  | cons action run ih =>
    refine ih (fun other member => spares other (by simp [member])) ?_
    by_cases removed : action = .taskRemoved id
    · rw [removed, counters_taskRemoved]
      simp
    · obtain same | ⟨_, new⟩ := counters_reduce (spares action (by simp)) removed state
      · rw [same]
        exact zero
      · simp [new]

/-- A task that is held and not removed keeps its counters. -/
theorem counters_kept (spares : ∀ action ∈ run, action.sparesCounters) {state : BoardState}
    {id : String} (held : state.counters id ≠ []) (stays : .taskRemoved id ∉ run) :
    (state.reduceAll run).counters id = state.counters id := by
  -- As long as the task is held, each action keeps its counters.
  induction run generalizing state with
  | nil => rfl
  | cons action run ih =>
    obtain ⟨other, later⟩ := List.ne_and_not_mem_of_not_mem_cons stays
    obtain first | ⟨empty, _⟩ := counters_reduce (spares action (by simp)) other.symm state
    · rw [← first]
      exact ih (fun other member => spares other (by simp [member])) (first.symm ▸ held) later
    · exact absurd empty held

/-- A task that was removed has no counters when it is held again. -/
theorem counters_removed (spares : ∀ action ∈ run, action.sparesCounters) {state : BoardState}
    {id : String} (removed : .taskRemoved id ∈ run) :
    ∀ counters ∈ (state.reduceAll run).counters id, counters = (0, 0) := by
  obtain ⟨before, after, rfl⟩ := List.append_of_mem removed
  have whole : state.reduceAll (before ++ .taskRemoved id :: after) =
      ((state.reduceAll before).reduce (.taskRemoved id)).state.reduceAll after := by
    simp [reduceAll]
  rw [whole]
  -- From the removal on, there are no counters but those of tasks that come anew.
  refine counters_zero (fun action member => spares action (by simp [member])) ?_
  rw [counters_taskRemoved]
  simp

/--
Patches of tasks can set neither the counters of a task nor the name of its assignee.

Runs that differ in what their patches say of these are accepted alike, action by action, and leave
the same state. As long as nothing else brings counters, a task that was there from the start keeps
its own at every point of a run, and any other task has none.
-/
theorem reduceAll_unforged (state : BoardState) (run : List BoardAction) :
    (∀ other, List.Forall₂ BoardAction.Akin run other →
      state.verdicts run = state.verdicts other ∧ state.reduceAll run = state.reduceAll other) ∧
    ((∀ action ∈ run, action.sparesCounters) → ∀ earlier, earlier <+: run → ∀ id,
      if id ∈ state.tasks.map (·.id) ∧ .taskRemoved id ∉ earlier then
        (state.reduceAll earlier).counters id = state.counters id
      else ∀ counters ∈ (state.reduceAll earlier).counters id, counters = (0, 0)) := by
  refine ⟨fun other akin => reduceAll_akin akin state, fun spares earlier first id => ?_⟩
  -- What holds at every point is shown of every start of the run.
  have spared : ∀ action ∈ earlier, action.sparesCounters := fun action member =>
    spares action (first.subset member)
  split
  · rename_i there
    exact counters_kept spared (fun empty => counters_eq_nil.mp empty there.1) there.2
  · rename_i away
    -- Either the task was removed meanwhile, or it was not there at first.
    by_cases removed : .taskRemoved id ∈ earlier
    · exact counters_removed spared removed
    · -- A task that is not there at the start has no counters to go on from.
      have empty : state.counters id = [] :=
        counters_eq_nil.mpr fun member => away ⟨member, removed⟩
      refine counters_zero spared ?_
      rw [empty]
      simp

/-- A board of one task, with three approvals of which one is pending. -/
def approvedBoard : BoardState :=
  { empty "b" with
    tasks := [{ Task.schema.blank with
      id := "t", approvalsCount := 3, approvalsPendingCount := 1 }] }

/-- A patch that claims counters and an assignee, one of a new task, and one that is refused. -/
def forgedRun : List BoardAction :=
  [.taskUpserted [("approvals_count", .number (.integer 99)), ("assignee", .string "Eve"),
      ("id", .string "t"), ("title", .string "Ship it")],
    .taskUpserted [("approvals_pending_count", .number (.integer 7)), ("id", .string "u")],
    .taskUpserted [("id", .string "t"), ("title", .null)]]

/-- The same patches, with null in place of what was claimed, or nothing. -/
def honestRun : List BoardAction :=
  [.taskUpserted [("approvals_pending_count", .null), ("id", .string "t"),
      ("title", .string "Ship it")],
    .taskUpserted [("assignee", .null), ("id", .string "u")],
    .taskUpserted [("id", .string "t"), ("title", .null)]]

/-- What the patches claim is lost, in the task that was held and in the new one. -/
theorem reduceAll_unforged_claims :
    approvedBoard.verdicts forgedRun = [true, true, false] ∧
      approvedBoard.verdicts honestRun = [true, true, false] ∧
      approvedBoard.reduceAll forgedRun = approvedBoard.reduceAll honestRun ∧
      (approvedBoard.reduceAll forgedRun).counters "t" = [(3, 1)] ∧
      ∀ counters ∈ (approvedBoard.reduceAll forgedRun).counters "u", counters = (0, 0) := by
  obtain ⟨alike, kept⟩ := reduceAll_unforged approvedBoard forgedRun
  have held : Task.schema.Akin Task.derived
      [("approvals_count", .number (.integer 99)), ("assignee", .string "Eve"),
        ("id", .string "t"), ("title", .string "Ship it")]
      [("approvals_pending_count", .null), ("id", .string "t"),
        ("title", .string "Ship it")] :=
    .of_filter (by decide) (by decide)
  have new : Task.schema.Akin Task.derived
      [("approvals_pending_count", .number (.integer 7)), ("id", .string "u")]
      [("assignee", .null), ("id", .string "u")] :=
    .of_filter (by decide) (by decide)
  -- The two runs differ in the derived keys of the first two patches, and in nothing else.
  obtain ⟨verdicts, same⟩ := alike honestRun
    (.cons (.patches held) (.cons (.patches new) (.cons (.same _) .nil)))
  have accepted : approvedBoard.verdicts forgedRun = [true, true, false] := by decide
  have first := kept (by decide) forgedRun List.prefix_rfl "t"
  have second := kept (by decide) forgedRun List.prefix_rfl "u"
  rw [if_pos (by decide)] at first
  rw [if_neg (by decide)] at second
  exact ⟨accepted, verdicts ▸ accepted, same, first, second⟩

end BoardState

end LiveBoard
