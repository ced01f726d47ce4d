import LiveBoard.Proofs.Board.Effects

/-! Which agents the name of a task's assignee comes from. -/

namespace LiveBoard

/-- A task shows the name that its assignee has among some agents, and none if it has none there. -/
def Task.Shows (agents : List Agent) (task : Task) : Prop :=
  task.assignee = BoardState.assigneeName agents task.assignedAgentId

instance (agents : List Agent) (task : Task) : Decidable (task.Shows agents) :=
  inferInstanceAs (Decidable (_ = _))

/-- Whether an action is one of those that change assignments or agents one by one. -/
def BoardAction.assigns : BoardAction → Bool
  | .taskUpserted _ | .taskStatusChanged _ _ | .agentUpserted _ => true
  | _ => false

namespace BoardState

/-- Every task shows the name that its assignee has now. -/
def Consistent (state : BoardState) : Prop := ∀ task ∈ state.tasks, task.Shows state.agents

instance (state : BoardState) : Decidable state.Consistent :=
  inferInstanceAs (Decidable (∀ _ ∈ _, _))

/-- The agents that there were at the last patch of each task, once an action is taken in. -/
def noted (state : BoardState) (seen : String → List Agent) (action : BoardAction) :
    String → List Agent :=
  match action with
  | .taskUpserted patch => fun id =>
    -- A patch that is refused changes no task.
    if patch.id? = some id ∧ (state.reduce action).refusal = none then state.agents else seen id
  | _ => seen

/-- The agents that there were at the last patch of each task in a run, or at its start. -/
def agentsAtPatch (seen : String → List Agent) (state : BoardState) :
    List BoardAction → String → List Agent
  | [] => seen
  | action :: run => agentsAtPatch (state.noted seen action) (state.reduce action).state run

/-- The first task of each identifier goes by agents of its own, and all others by the same ones. -/
def GoBy (start : List Agent) (seen : String → List Agent) (tasks : List Task) : Prop :=
  ∀ id, (∀ task ∈ (Keyed.bucket Task.id id tasks).head?, task.Shows (seen id)) ∧
    ∀ task ∈ (Keyed.bucket Task.id id tasks).tail, task.Shows start

/-- A state is consistent exactly when all tasks go by its own agents. -/
theorem consistent_iff_goBy {state : BoardState} :
    state.Consistent ↔ GoBy state.agents (fun _ => state.agents) state.tasks := by
  -- Every task is in the bucket of its identifier, in front or behind.
  constructor
  · intro consistent id
    have inside : ∀ task ∈ Keyed.bucket Task.id id state.tasks, task.Shows state.agents :=
      fun task member => consistent task (List.mem_filter.mp member).1
    exact ⟨fun task first => inside task (List.mem_of_mem_head? first),
      fun task later => inside task (List.mem_of_mem_tail later)⟩
  · intro goBy task member
    obtain ⟨first, later⟩ := goBy task.id
    have inside : task ∈ Keyed.bucket Task.id task.id state.tasks :=
      List.mem_filter.mpr ⟨member, by simp⟩
    -- A task is the first one of its identifier or comes behind it.
    rw [← Keyed.head?_append_tail (Keyed.bucket Task.id task.id state.tasks)] at inside
    rcases List.mem_append.mp inside with head | tail
    · exact first task (Option.mem_toList.mp head)
    · exact later task tail

section Step

variable {start : List Agent} {seen : String → List Agent} {state : BoardState}

/-- A task that a patch makes shows the name of its assignee. -/
theorem shows_merge {agents : List Agent} {patch : Patch} {id : String} {held : Option Task}
    {task : Task} (made : (Task.merging agents).merge patch id held = .ok task) :
    task.Shows agents := by
  simp only [Merging.merge, Task.merging] at made
  -- A patch that makes no task is not what this is about.
  split at made
  · -- The name is looked up last, whatever the patch says of it.
    obtain rfl := Except.ok.inj made
    rfl
  · cases made

/-- A task that is moved shows the name of its assignee if it did before. -/
theorem shows_moveTask {agents : List Agent} {task : Task} (shown : task.Shows agents)
    (status : TaskStatus) : (moveTask status task).Shows agents := by
  unfold moveTask
  split
  · -- In the inbox a task has no assignee, and shows none.
    rfl
  · exact shown

/-- A patch that is accepted puts the task that it makes. -/
theorem exists_put_of_accepted {patch : Patch}
    (accepted : (state.reduce (.taskUpserted patch)).refusal = none) :
    ∃ task, patch.id? = some task.id ∧ task.Shows state.agents ∧
      (state.reduce (.taskUpserted patch)).state.tasks = Keyed.put Task.id task state.tasks := by
  rw [reduce_taskUpserted] at accepted ⊢
  cases named : patch.id? with
  | none =>
    -- A patch that names no task is refused.
    rw [Merging.upsert_of_unnamed named] at accepted
    cases accepted
  | some id =>
    rw [Task.upsert_of_named named] at accepted ⊢
    cases made : (Task.merging state.agents).merge patch id (state.tasks.find? (·.id = id)) with
    | error refusal =>
      rw [made] at accepted
      cases accepted
    | ok task => exact ⟨task, by rw [Task.id_merge named made], shows_merge made, rfl⟩

/-- A patch of a task makes it go by the agents that there are. -/
theorem GoBy.taskUpserted (goBy : GoBy start seen state.tasks) (patch : Patch) :
    GoBy start (state.noted seen (.taskUpserted patch))
      (state.reduce (.taskUpserted patch)).state.tasks := by
  by_cases accepted : (state.reduce (.taskUpserted patch)).refusal = none
  · -- An accepted patch is noted for its task, which goes by the agents of now from here on.
    obtain ⟨task, named, shown, put⟩ := exists_put_of_accepted accepted
    intro id
    obtain ⟨first, later⟩ := goBy id
    simp only [noted, accepted, named, Option.some.injEq, and_true]
    rw [put, Keyed.bucket_put]
    by_cases same : task.id = id
    · -- The task that was put is the first one now, and those behind the first stay where they are.
      simpa [same] using ⟨shown, later⟩
    · simpa [same] using ⟨first, later⟩
  · -- A patch that is refused is not noted, and changes no task.
    rw [reduce_of_refused accepted]
    simpa [noted, accepted] using goBy

/-- A move makes no task go by other agents. -/
theorem GoBy.taskStatusChanged (goBy : GoBy start seen state.tasks) (taskId : String)
    (status : TaskStatus) :
    GoBy start seen (state.reduce (.taskStatusChanged taskId status)).state.tasks := by
  intro id
  -- A move looks at no agents: a task keeps its assignee and the name, or loses both.
  obtain ⟨first, later⟩ := goBy id
  simp only [BoardState.reduce]
  rw [Keyed.bucket_change Task.id (moveTask_id status)]
  split
  · cases whole : Keyed.bucket Task.id id state.tasks with
    | nil => simp
    | cons task rest =>
      rw [whole] at first later
      -- Only the first task of its identifier is moved.
      simpa using ⟨shows_moveTask (first task rfl) status, later⟩
  · exact ⟨first, later⟩

/-- Each action keeps what the tasks go by, but for the one that it is a patch of. -/
theorem GoBy.reduce (goBy : GoBy start seen state.tasks) {action : BoardAction}
    (assigns : action.assigns) :
    GoBy start (state.noted seen action) (state.reduce action).state.tasks := by
  cases action with
  | taskUpserted patch => exact goBy.taskUpserted patch
  | taskStatusChanged taskId status => exact goBy.taskStatusChanged taskId status
  | agentUpserted patch =>
    -- A patch of an agent looks at no task, so that all show the names that they did.
    rw [reduce_agentUpserted]
    exact goBy
  | _ => cases assigns

/-- A run keeps what the tasks go by, but for those that it brings patches of. -/
theorem GoBy.reduceAll {run : List BoardAction} (goBy : GoBy start seen state.tasks)
    (assigns : ∀ action ∈ run, action.assigns) :
    GoBy start (agentsAtPatch seen state run) (state.reduceAll run).tasks := by
  -- The agents that tasks go by change along the run, together with the state.
  induction run generalizing seen state with
  | nil => exact goBy
  | cons action run ih =>
    exact ih (goBy.reduce (assigns action (by simp)))
      fun other member => assigns other (by simp [member])

/-- Nothing but a patch of an agent makes a consistent state inconsistent. -/
theorem Consistent.reduce (consistent : state.Consistent) {action : BoardAction}
    (assigns : action.assigns) (agentless : action.agentPatch? = none) :
    (state.reduce action).state.Consistent := by
  have goBy := (consistent_iff_goBy.mp consistent).reduce assigns
  -- The agents stay as they are, so that tasks go by the same ones with a patch as without.
  have noted : state.noted (fun _ => state.agents) action = fun _ => state.agents := by
    unfold BoardState.noted
    split <;> simp
  have agents : (state.reduce action).state.agents = state.agents := by
    cases action with
    | taskUpserted patch => rw [reduce_taskUpserted]
    | taskStatusChanged taskId status => rfl
    | agentUpserted patch => cases agentless
    | _ => cases assigns
  rw [noted] at goBy
  rw [consistent_iff_goBy, agents]
  exact goBy

/-- A run without a patch of an agent keeps a state consistent. -/
theorem Consistent.reduceAll {run : List BoardAction} (consistent : state.Consistent)
    (assigns : ∀ action ∈ run, action.assigns)
    (agentless : ∀ action ∈ run, action.agentPatch? = none) : (state.reduceAll run).Consistent := by
  -- Action by action, as each leaves a consistent state for the next one.
  induction run generalizing state with
  | nil => exact consistent
  | cons action run ih =>
    exact ih (consistent.reduce (assigns action (by simp)) (agentless action (by simp)))
      (fun other member => assigns other (by simp [member]))
      fun other member => agentless other (by simp [member])

end Step

/-- The name of every assignee is the one that it has among the agents that its task goes by. -/
def UpToDate (start : List Agent) (seen : String → List Agent) (state : BoardState) : Prop :=
  ∀ id, (∀ task ∈ (Keyed.bucket Task.id id state.tasks).head?,
      assigneeName state.agents task.assignedAgentId =
        assigneeName (seen id) task.assignedAgentId) ∧
    ∀ task ∈ (Keyed.bucket Task.id id state.tasks).tail,
      assigneeName state.agents task.assignedAgentId = assigneeName start task.assignedAgentId

/-- A state is consistent exactly when the names that its tasks go by are up to date. -/
theorem GoBy.consistent_iff {state : BoardState} {start : List Agent} {seen : String → List Agent}
    (goBy : GoBy start seen state.tasks) : state.Consistent ↔ UpToDate start seen state := by
  rw [consistent_iff_goBy]
  refine forall_congr' fun id => ?_
  obtain ⟨first, later⟩ := goBy id
  -- What a task shows is the name it goes by, which may be that of now as well or not.
  refine and_congr (forall₂_congr fun task head => ?_) (forall₂_congr fun task tail => ?_)
  · rw [Task.Shows, first task head, eq_comm]
  · rw [Task.Shows, later task tail, eq_comm]

/--
What tasks show of their assignees after patches of tasks and agents and moves of tasks.

From a consistent state, the first task of an identifier shows the name that its assignee had when
the task was last patched, or at the start if it never was; a task behind it is never patched. So
the state that is left is consistent exactly when these names are up to date, as they are when the
run brings no patch of an agent.
-/
theorem goBy_reduceAll {state : BoardState} {run : List BoardAction}
    (consistent : state.Consistent) (assigns : ∀ action ∈ run, action.assigns) :
    GoBy state.agents (agentsAtPatch (fun _ => state.agents) state run)
        (state.reduceAll run).tasks ∧
      ((state.reduceAll run).Consistent ↔
        UpToDate state.agents (agentsAtPatch (fun _ => state.agents) state run)
          (state.reduceAll run)) ∧
      ((∀ action ∈ run, action.agentPatch? = none) → (state.reduceAll run).Consistent) := by
  have goBy := (consistent_iff_goBy.mp consistent).reduceAll assigns
  -- At the start every task goes by the agents of the state itself.
  exact ⟨goBy, goBy.consistent_iff, consistent.reduceAll assigns⟩

/-- A board of one task, which is assigned to the only agent. -/
def oneAssigned : BoardState :=
  { empty "b" with
    tasks := [{ Task.schema.blank with
      id := "t", assignedAgentId := some "a", assignee := some "Ada" }]
    agents := [{ Agent.schema.blank with id := "a", name := "Ada" }] }

/-- The agent gets another name. -/
def adaRenamed : BoardAction := .agentUpserted [("id", .string "a"), ("name", .string "Bea")]

/-- A task goes on to show the name that its assignee had before. -/
theorem not_forall_consistent :
    ¬ ∀ (state : BoardState) (run : List BoardAction), state.Consistent →
      (∀ action ∈ run, action.assigns) → (state.reduceAll run).Consistent := by
  intro always
  -- Renaming the one agent is enough, as no task is looked at then.
  have consistent := always oneAssigned [adaRenamed] (by decide) (by decide)
  exact absurd consistent (by decide)

/-- A task that was moved before its assignee was renamed shows the name from the start. -/
theorem goBy_reduceAll_renamed :
    (∀ task ∈ (oneAssigned.reduceAll [.taskStatusChanged "t" .review, adaRenamed]).task? "t",
        task.Shows oneAssigned.agents) ∧
      ¬ (oneAssigned.reduceAll [.taskStatusChanged "t" .review, adaRenamed]).Consistent ∧
      (oneAssigned.reduceAll [.taskStatusChanged "t" .review]).Consistent := by
  have consistent : oneAssigned.Consistent := by decide
  obtain ⟨goBy, _, _⟩ := @goBy_reduceAll oneAssigned
    [.taskStatusChanged "t" .review, adaRenamed] consistent (by decide)
  obtain ⟨_, _, agentless⟩ := @goBy_reduceAll oneAssigned
    [.taskStatusChanged "t" .review] consistent (by decide)
  refine ⟨fun task held => ?_, by decide, agentless (by decide)⟩
  -- The task that is found is the first one of its identifier, and was never patched.
  rw [task?, Keyed.find?_eq_head?_bucket] at held
  exact (goBy "t").1 task held

end BoardState

end LiveBoard
