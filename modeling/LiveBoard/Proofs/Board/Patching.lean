import LiveBoard.Proofs.Board.Effects

/-! What a patch makes of a task whose counters, or whose agents, were changed before. -/

namespace LiveBoard

/-! ## Counters and patches of tasks -/

/-- A count with a default is read again as it was written, without a fault. -/
theorem Codec.countOr_solid (default value : UInt32) :
    (count.orDefault default).decode? ((count.orDefault default).encode value) = some value ∧
      (count.orDefault default).shape.fault ((count.orDefault default).encode value) = none := by
  -- A count of 32 bits is within the range that a count is read from.
  have small : (value.toNat : Int) ≤ Shape.maxCount := by
    have := value.toNat_lt
    simp only [Shape.maxCount]
    omega
  refine ⟨count_exact.orDefault_keeps default value, ?_⟩
  simp [orDefault, count, Json.ofNat, Shape.fault, Shape.inner, Shape.countFault, small]

namespace Task

/-- The keys of the counters of a task. -/
def counters : List String := ["approvals_count", "approvals_pending_count"]

/-- The counters of a task are read again as they were written, without a fault. -/
theorem counters_solid : ∀ field ∈ schema.fields, field.key ∈ counters → field.Solid := by
  -- Of all fields, only the last two have such a key.
  simp only [schema, Field.needed, Field.given, counters, List.mem_cons, List.not_mem_nil, or_false,
    forall_eq_or_imp, forall_eq, String.reduceEq, false_imp_iff, true_imp_iff, or_true,
    true_and]
  exact ⟨Codec.countOr_solid 0, Codec.countOr_solid 0⟩

end Task

namespace TaskCounts

variable {agents : List Agent} {patch : Patch} {counts : TaskCounts} {held : Task}

/-- Counters change nothing of a task but its counters. -/
theorem sameBut_update (counts : TaskCounts) (task : Task) :
    Task.schema.SameBut Task.counters task (counts.update task) := by
  simp [Schema.SameBut, Task.schema, Field.needed, Field.given, Task.counters, update]

/-- A task is stored with the counters of the one that was held. -/
theorem finishTask_update {result again : Task}
    (same : Task.schema.SameBut Task.counters result again) :
    BoardState.finishTask agents (some (counts.update held)) again =
      counts.update (BoardState.finishTask agents (some held) result) := by
  simp only [Schema.SameBut, Task.schema, Field.needed, Field.given, Task.counters, List.mem_cons,
    List.not_mem_nil, or_false, not_or, and_imp, forall_eq_or_imp, String.reduceEq,
    not_false_eq_true, forall_const, not_true_eq_false, IsEmpty.forall_iff, forall_eq,
    and_true] at same
  simp [BoardState.finishTask, update, same]

/-- A patch makes the same of a task with counters as of the task, with these counters. -/
theorem merge_update (id : String) :
    (Task.merging agents).merge patch id (some (counts.update held)) =
      ((Task.merging agents).merge patch id (some held)).map counts.update := by
  -- The patch is laid over the fields of the task, and those of the counters can hold anything.
  have same := sameBut_update counts held
  simp only [Merging.merge, Option.elim_some, Task.merging]
  cases applied : patch.apply Task.schema held with
  | error fault =>
    rw [Task.schema_lawful.apply_sameBut_error Task.counters_solid same applied]
    rfl
  | ok result =>
    obtain ⟨again, reapplied, alike⟩ :=
      Task.schema_lawful.exists_apply_sameBut Task.counters_solid same applied
    rw [reapplied]
    exact congrArg Except.ok (finishTask_update alike)

section Upsert

variable {taskId id : String} {tasks : List Task}

/-- A patch makes the same of a task that counters are for, with these, and of any other task. -/
theorem merge_find?_update (named : patch.id? = some id)
    (held : taskId = id → ∀ task,
      (Task.merging agents).merge patch id (tasks.find? (·.id = id)) = .ok task →
        id ∈ tasks.map Task.id) :
    (Task.merging agents).merge patch id
        ((BoardState.replaceFirst (·.id = taskId) counts.update tasks).find? (·.id = id)) =
      ((Task.merging agents).merge patch id (tasks.find? (·.id = id))).map
        fun task => if task.id = taskId then counts.update task else task := by
  -- The task that is made has the identifier, so it is the one counted just when the other is.
  rw [Keyed.find?_change Task.id counts.update_id]
  by_cases same : taskId = id
  · rw [if_pos same]
    cases found : tasks.find? (·.id = id) with
    | none =>
      cases made : (Task.merging agents).merge patch id none with
      | error refusal => rw [Option.map_none, made]; rfl
      | ok task =>
        -- A task that is not there could only be brought by the patch.
        obtain ⟨before, inside, carries⟩ := List.mem_map.mp (held same task (by rw [found, made]))
        simpa [carries] using List.find?_eq_none.mp found before inside
    | some before =>
      rw [Option.map_some, merge_update]
      cases made : (Task.merging agents).merge patch id (some before) with
      | error refusal => rfl
      | ok task => simp [Except.map, Task.id_merge named made, same]
  · rw [if_neg same]
    cases made : (Task.merging agents).merge patch id (tasks.find? (·.id = id)) with
    | error refusal => rfl
    | ok task => simp [Except.map, Task.id_merge named made, Ne.symm same]

/-- Counters and a patch commute, unless the patch brings the very task that the counters name. -/
theorem upsert_update
    (held : patch.id? = some taskId → ∀ made, (Task.merging agents).upsert patch tasks = .ok made →
      taskId ∈ tasks.map Task.id) :
    (Task.merging agents).upsert patch
        (BoardState.replaceFirst (·.id = taskId) counts.update tasks) =
      ((Task.merging agents).upsert patch tasks).map
        (BoardState.replaceFirst (·.id = taskId) counts.update) := by
  cases named : patch.id? with
  | none =>
    rw [Merging.upsert_of_unnamed named, Merging.upsert_of_unnamed named]
    rfl
  | some id =>
    rw [Task.upsert_of_named named] at held
    have present : taskId = id → ∀ task,
        (Task.merging agents).merge patch id (tasks.find? (·.id = id)) = .ok task →
          id ∈ tasks.map Task.id := by
      rintro rfl task made
      exact held named _ (congrArg (Except.map _) made)
    rw [Task.upsert_of_named named, Task.upsert_of_named named, merge_find?_update named present]
    cases made : (Task.merging agents).merge patch id (tasks.find? (·.id = id)) with
    | error refusal => rfl
    | ok task =>
      -- Where the task is the one counted, it is there, so counters and task meet in its place.
      have meet : task.id = taskId → taskId ∈ tasks.map Task.id := by
        rintro rfl
        have carries := Task.id_merge named made
        exact carries ▸ present carries task made
      exact congrArg Except.ok (Keyed.put_change Task.id counts.update_id meet)

end Upsert

end TaskCounts

/-! ## Agents and patches of tasks -/

namespace Agent

variable {agents : List Agent} {patch : Patch}

/-- A patch of an agent leaves the names of all others. -/
theorem assigneeName_upsert {agentId : Option String}
    (other : ∀ id, agentId = some id → patch.id? ≠ some id) :
    BoardState.assigneeName (BoardState.kept agents (Agent.merging.upsert patch agents)) agentId =
      BoardState.assigneeName agents agentId := by
  cases agentId with
  | none => rfl
  | some wanted =>
    cases named : patch.id? with
    | none => rw [Merging.upsert_of_unnamed named]; rfl
    | some id =>
      rw [Agent.upsert_of_named named]
      cases made : Agent.merging.merge patch id (agents.find? (·.id = id)) with
      | error refusal => rfl
      | ok agent =>
        have apart : agent.id ≠ wanted := fun same =>
          other wanted rfl (by rw [named, ← same, Agent.id_merge named made])
        -- The agent that is put is not the one that is looked up.
        have found := Keyed.find?_put Agent.id agent agents wanted
        rw [if_neg apart] at found
        exact congrArg (Option.map (·.name)) found

end Agent

/-- A patch makes the same of a task whoever the agents are, if the assignee has the same name. -/
theorem Task.merge_eq_of_assignee {agents others : List Agent} {patch : Patch} {id : String}
    {held : Option Task}
    (same : ∀ task, (Task.merging agents).merge patch id held = .ok task →
      BoardState.assigneeName others task.assignedAgentId =
        BoardState.assigneeName agents task.assignedAgentId) :
    (Task.merging others).merge patch id held = (Task.merging agents).merge patch id held := by
  unfold Merging.merge at same ⊢
  simp only [Task.merging] at same ⊢
  cases made : held.elim (patch.build Task.schema) (patch.apply Task.schema) with
  | error fault => rfl
  | ok result =>
    rw [made] at same
    -- Only the name of the assignee depends on the agents.
    have name := same _ rfl
    simp only [BoardState.finishTask] at name ⊢
    rw [name]

end LiveBoard
