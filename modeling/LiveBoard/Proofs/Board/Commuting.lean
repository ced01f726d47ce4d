import LiveBoard.Proofs.Board.Patching

/-! Two actions of different feeds, which commute unless they clash in one of two ways. -/

namespace LiveBoard

/-- The feed that brings an action of its kind. -/
def BoardAction.feed? : BoardAction → Option Feed
  | .taskUpserted _ | .commentReceived _ => some .tasks
  | .approvalUpserted _ _ _ => some .approvals
  | .agentUpserted _ => some .agents
  | .chatReceived _ => some .chat
  | _ => none

/-- A feed brings an action exactly when it is the one that brings its kind. -/
theorem Feed.brings_iff {feed : Feed} {action : BoardAction} :
    feed.brings action ↔ action.feed? = some feed := by
  cases feed <;> cases action <;> simp [brings, BoardAction.feed?]

namespace BoardState

/-- A patch is accepted and leaves a task of the identifier that it names. -/
def Upserts (state : BoardState) (patch : Patch) (task : Task) : Prop :=
  (state.reduce (.taskUpserted patch)).refusal = none ∧
    ∃ id, patch.id? = some id ∧ (state.reduce (.taskUpserted patch)).state.task? id = some task

/-- An action of the task feed meets one of another feed in what it makes. -/
def Meet (state : BoardState) : BoardAction → BoardAction → Prop
  -- The task is assigned to the very agent that is changed or comes.
  | .taskUpserted patch, .agentUpserted agent =>
    ∃ task, state.Upserts patch task ∧ ∃ id, agent.id? = some id ∧ task.assignedAgentId = some id
  -- The task is new, and the counters are for it.
  | .taskUpserted patch, .approvalUpserted _ counts _ =>
    ∃ task, state.Upserts patch task ∧ state.task? task.id = none ∧
      counts.bind (·.taskId) = some task.id
  | _, _ => False

/-- One of two actions meets the other. -/
def Clash (state : BoardState) (first second : BoardAction) : Prop :=
  state.Meet first second ∨ state.Meet second first

/-- Two actions leave the same state in either order, each accepted or refused as in the other. -/
structure Commute (state : BoardState) (first second : BoardAction) : Prop where
  leaves : ((state.reduce first).state.reduce second).state =
    ((state.reduce second).state.reduce first).state
  firstRefusal : ((state.reduce second).state.reduce first).refusal = (state.reduce first).refusal
  secondRefusal :
    ((state.reduce first).state.reduce second).refusal = (state.reduce second).refusal

/-- A patch of a task that assigns it. -/
def assigning : Patch := [("id", .string "t"), ("assigned_agent_id", .string "a")]

/-- A task that is assigned to an agent shows the name of the agent only if the agent came first. -/
theorem not_commute_assigned :
    (empty "b").Meet (.taskUpserted assigning) (.agentUpserted [("id", .string "a")]) ∧
      ¬ (empty "b").Commute (.taskUpserted assigning) (.agentUpserted [("id", .string "a")]) := by
  -- The task comes with an agent that is unknown, so it shows no name, not even the empty one.
  refine ⟨⟨{ Task.schema.blank with id := "t", assignedAgentId := some "a" }, ?_, "a", ?_⟩, ?_⟩
  · exact ⟨by decide, "t", by decide, by decide⟩
  · exact ⟨by decide, rfl⟩
  · exact fun commute => absurd commute.leaves (by decide)

/-- Counters for a task are taken over only if the task came first. -/
theorem not_commute_counted :
    (empty "b").Meet (.taskUpserted [("id", .string "t")])
        (.approvalUpserted none (some ⟨some "t", some 3, none⟩) none) ∧
      ¬ (empty "b").Commute (.taskUpserted [("id", .string "t")])
        (.approvalUpserted none (some ⟨some "t", some 3, none⟩) none) := by
  -- Counters for a task that is not there are lost, and the task comes with counters of zero.
  refine ⟨⟨{ Task.schema.blank with id := "t" }, ?_, by decide, by decide⟩, ?_⟩
  · exact ⟨by decide, "t", by decide, by decide⟩
  · exact fun commute => absurd commute.leaves (by decide)

variable {state : BoardState}

/-- Actions commute in either order. -/
theorem Commute.symm {first second : BoardAction} (commute : state.Commute first second) :
    state.Commute second first :=
  ⟨commute.leaves.symm, commute.secondRefusal, commute.firstRefusal⟩

/-- A task that a patch makes is upserted. -/
theorem upserts_of_merge {patch : Patch} {id : String} {task : Task} (named : patch.id? = some id)
    (made : (Task.merging state.agents).merge patch id (state.tasks.find? (·.id = id)) = .ok task) :
    state.Upserts patch task := by
  have merged := Task.upsert_of_named named state.agents state.tasks
  rw [made] at merged
  refine ⟨?_, id, named, ?_⟩
  · rw [reduce_taskUpserted, merged]
    rfl
  · -- The task that was put is the first one of its identifier.
    have found := Keyed.find?_put Task.id task state.tasks id
    rw [if_pos (Task.id_merge named made)] at found
    rw [reduce_taskUpserted, merged]
    exact found

/-- A patch makes the same of the tasks after one of an agent, unless the two meet. -/
theorem upsert_agents {patch agent : Patch}
    (apart : ¬ state.Meet (.taskUpserted patch) (.agentUpserted agent)) :
    (Task.merging (kept state.agents (Agent.merging.upsert agent state.agents))).upsert patch
        state.tasks = (Task.merging state.agents).upsert patch state.tasks := by
  cases named : patch.id? with
  | none =>
    rw [Merging.upsert_of_unnamed named, Merging.upsert_of_unnamed named]
    rfl
  | some id =>
    rw [Task.upsert_of_named named, Task.upsert_of_named named, Task.merge_eq_of_assignee]
    -- The task is assigned to another agent or to none, so that its assignee keeps the name.
    intro task made
    exact Agent.assigneeName_upsert fun other assigned same =>
      apart ⟨task, upserts_of_merge named made, other, same, assigned⟩

/-- A patch of a task and one of an agent commute, unless the task is assigned to that agent. -/
theorem commute_task_agent {patch agent : Patch}
    (apart : ¬ state.Meet (.taskUpserted patch) (.agentUpserted agent)) :
    state.Commute (.taskUpserted patch) (.agentUpserted agent) := by
  -- Agents go by no task, and by the lemma above the tasks are made alike with the agents changed.
  constructor <;> simp only [reduce_taskUpserted, reduce_agentUpserted, upsert_agents apart]

/-- Counters and a patch commute in a state, unless the patch brings the task that they name. -/
theorem upsert_counted {patch : Patch} {approval : Option Patch} {counts : Option TaskCounts}
    {pending : Option UInt32}
    (apart : ¬ state.Meet (.taskUpserted patch) (.approvalUpserted approval counts pending)) :
    (Task.merging state.agents).upsert patch (TaskCounts.counted counts state.tasks) =
      ((Task.merging state.agents).upsert patch state.tasks).map (TaskCounts.counted counts) := by
  unfold TaskCounts.counted
  cases given : counts.bind TaskCounts.named? with
  | none => cases (Task.merging state.agents).upsert patch state.tasks <;> rfl
  | some entry =>
    obtain ⟨frame, rfl, entered⟩ := Option.bind_eq_some_iff.mp given
    obtain ⟨taskId, names, rfl⟩ := Option.map_eq_some_iff.mp entered
    refine TaskCounts.upsert_update fun named made merged => ?_
    rw [Task.upsert_of_named named] at merged
    obtain ⟨task, made, rfl⟩ := exists_of_map_eq_ok merged
    -- A task that is not there would be brought by the patch.
    refine Classical.not_not.mp fun absent => apart ⟨task, upserts_of_merge named made, ?_, ?_⟩
    · rw [Task.id_merge named made, task?, List.find?_eq_none]
      intro other inside same
      exact absent (List.mem_map.mpr ⟨other, inside, by simpa using same⟩)
    · simpa [Task.id_merge named made] using names

/-- A patch of a task and an approval frame commute, unless the task comes and is counted. -/
theorem commute_task_approval {patch : Patch} {approval : Option Patch}
    {counts : Option TaskCounts} {pending : Option UInt32}
    (apart : ¬ state.Meet (.taskUpserted patch) (.approvalUpserted approval counts pending)) :
    state.Commute (.taskUpserted patch) (.approvalUpserted approval counts pending) := by
  have same := upsert_counted apart
  -- Counters are taken over only if the approval of their frame is accepted.
  cases made : approved approval state.approvals <;>
    cases merged : (Task.merging state.agents).upsert patch state.tasks <;> constructor <;>
    simp [reduce_taskUpserted, reduce_approvalUpserted, made, merged, same, kept, refusal?,
      Except.map]

section Feeds

variable {first second : BoardAction} {feed other : Feed} (brought : first.feed? = some feed)
include brought

/-- A message commutes with what the other feeds bring. -/
theorem commute_chat (also : second.feed? = some .chat) (apart : feed ≠ .chat) :
    state.Commute first second := by
  cases second with
  | chatReceived message =>
    -- A message goes by the chat, which no other feed changes.
    cases first with
    | taskUpserted patch => constructor <;> simp only [reduce_chatReceived, reduce_taskUpserted]
    | commentReceived comment =>
      constructor <;> simp only [reduce_chatReceived, reduce_commentReceived]
    | approvalUpserted approval counts pending =>
      constructor <;> simp only [reduce_chatReceived, reduce_approvalUpserted]
    | agentUpserted patch => constructor <;> simp only [reduce_chatReceived, reduce_agentUpserted]
    | chatReceived message => exact absurd (Option.some.inj brought).symm apart
    | _ => cases brought
  | _ => cases also

/-- What the agent feed brings commutes with what the feeds of tasks and approvals bring. -/
theorem commute_agents (also : second.feed? = some .agents)
    (among : feed = .tasks ∨ feed = .approvals) (clear : ¬ state.Meet first second) :
    state.Commute first second := by
  cases second with
  | agentUpserted patch =>
    cases first with
    -- Only a patch of a task goes by the agents.
    | taskUpserted task => exact commute_task_agent clear
    | commentReceived comment =>
      constructor <;> simp only [reduce_agentUpserted, reduce_commentReceived]
    | approvalUpserted approval counts pending =>
      constructor <;> simp only [reduce_agentUpserted, reduce_approvalUpserted]
    | agentUpserted patch => cases brought; simp at among
    | chatReceived message => cases brought; simp at among
    | _ => cases brought
  | _ => cases also

end Feeds

/-- What the approval feed brings commutes with what the task feed brings. -/
theorem commute_approvals {first second : BoardAction} (brought : first.feed? = some .tasks)
    (also : second.feed? = some .approvals) (clear : ¬ state.Meet first second) :
    state.Commute first second := by
  cases second with
  | approvalUpserted approval counts pending =>
    cases first with
    -- Of what the task feed brings, only a patch changes what counters are for.
    | taskUpserted patch => exact commute_task_approval clear
    | commentReceived comment =>
      constructor <;> simp only [reduce_approvalUpserted, reduce_commentReceived]
    | _ => cases brought
  | _ => cases also

/-- Actions of different feeds commute unless they clash. -/
theorem commute_of_feeds {first second : BoardAction} {feed other : Feed}
    (brought : first.feed? = some feed) (also : second.feed? = some other) (apart : feed ≠ other)
    (clear : ¬ state.Clash first second) : state.Commute first second := by
  obtain ⟨there, back⟩ := not_or.mp clear
  -- Each pair of feeds is met in one order, and the other order is the same by symmetry.
  match feed, other with
  | .tasks, .approvals => exact commute_approvals brought also there
  | .tasks, .agents => exact commute_agents brought also (.inl rfl) there
  | .approvals, .agents => exact commute_agents brought also (.inr rfl) there
  | .tasks, .chat | .approvals, .chat | .agents, .chat =>
    exact commute_chat brought also nofun
  | .approvals, .tasks => exact (commute_approvals also brought back).symm
  | .agents, .tasks => exact (commute_agents also brought (.inl rfl) back).symm
  | .agents, .approvals => exact (commute_agents also brought (.inr rfl) back).symm
  | .chat, .tasks | .chat, .approvals | .chat, .agents =>
    exact (commute_chat also brought nofun).symm
  | .tasks, .tasks | .approvals, .approvals | .agents, .agents | .chat, .chat =>
    exact absurd rfl apart

end BoardState

end LiveBoard
