import LiveBoard.Proofs.Board.Commuting

/-! The feeds come in no order with each other, and but for clashes it does not matter. -/

namespace LiveBoard.BoardState

/-- A run of feeds that brings what each of them brings in the order of that feed. -/
def Interleaves (parts : Feed → List BoardAction) (run : List BoardAction) : Prop :=
  (∀ action ∈ run, action.IsStreamed) ∧ ∀ feed : Feed, run.filter (feed.brings ·) = parts feed

/-- An action may be taken in ahead of actions that it commutes with in every state. -/
theorem reduceAll_move {action : BoardAction} {before after : List BoardAction}
    (commutes : ∀ other ∈ before, ∀ state : BoardState, state.Commute other action)
    (state : BoardState) :
    state.reduceAll (before ++ action :: after) = state.reduceAll (action :: before ++ after) := by
  induction before generalizing state with
  | nil => rfl
  | cons other before ih =>
    have rest := ih (fun later member => commutes later (by simp [member]))
      (state.reduce other).state
    -- The rest moves the action up to the first one, and then these two change places.
    have swap := (commutes other (by simp) state).leaves
    simp only [reduceAll, List.cons_append, List.foldl_cons] at rest ⊢
    rw [rest, swap]

/-- Actions of feeds other than that of tasks do not clash. -/
theorem not_clash {state : BoardState} {first second : BoardAction}
    (one : first.feed? ≠ some .tasks) (other : second.feed? ≠ some .tasks) :
    ¬ state.Clash first second := by
  -- One of two actions that meet is a patch of a task.
  rintro (meet | meet)
  · cases first with
    | taskUpserted patch => exact one rfl
    | _ => exact meet
  · cases second with
    | taskUpserted patch => exact other rfl
    | _ => exact meet

/-- A run in which the task feed has no part holds none of its actions. -/
theorem Interleaves.feed?_ne_tasks {parts : Feed → List BoardAction} {run : List BoardAction}
    (whole : Interleaves parts run) (untouched : parts .tasks = []) :
    ∀ action ∈ run, action.feed? ≠ some .tasks := by
  intro action member same
  -- What the feed brings of the run would be a part of it that is not empty.
  have nothing : run.filter (Feed.tasks.brings ·) = [] := (whole.2 .tasks).trans untouched
  exact List.filter_eq_nil_iff.mp nothing action member (Feed.brings_iff.mpr same)

/-- What is left of a run is interleaved when one action is taken out of it. -/
theorem Interleaves.erase {parts : Feed → List BoardAction} {action : BoardAction}
    {run before after : List BoardAction} (one : Interleaves parts (action :: run))
    (also : Interleaves parts (before ++ action :: after))
    (passed : ∀ other ∈ before, other.feed? ≠ action.feed?) :
    Interleaves (fun feed => run.filter (feed.brings ·)) (before ++ after) := by
  refine ⟨fun other member => also.1 other ?_, fun feed => ?_⟩
  · -- What is left was in the run, on one side of the action or the other.
    rcases List.mem_append.mp member with early | late
    · exact List.mem_append_left _ early
    · exact List.mem_append_right before (List.mem_cons_of_mem action late)
  · have same := (also.2 feed).trans (one.2 feed).symm
    rw [List.filter_append] at same ⊢
    by_cases brings : feed.brings action
    · -- Nothing that the feed of the action brings comes before it.
      have none : before.filter (feed.brings ·) = [] := by
        refine List.filter_eq_nil_iff.mpr fun other member also => passed other member ?_
        rw [Feed.brings_iff.mp also, Feed.brings_iff.mp brings]
      rw [none, List.filter_cons_of_pos brings, List.filter_cons_of_pos brings] at same
      rw [none]
      exact (List.cons.inj same).2
    · -- A feed that does not bring the action loses nothing with it.
      rwa [List.filter_cons_of_neg brings, List.filter_cons_of_neg brings] at same

/-- Interleavings of what feeds other than that of tasks bring leave the same state. -/
theorem reduceAll_interleaves {parts : Feed → List BoardAction} (untouched : parts .tasks = [])
    {run other : List BoardAction} (one : Interleaves parts run) (also : Interleaves parts other)
    (state : BoardState) : state.reduceAll run = state.reduceAll other := by
  -- Along one run, whose first action is brought to the front of the other one.
  induction run generalizing parts other state with
  | nil =>
    -- An action of the other run would be one of its feed, which brings nothing.
    have empty : other = [] := by
      refine List.eq_nil_iff_forall_not_mem.mpr fun action member => ?_
      obtain ⟨feed, brings⟩ := also.1 action member
      have nothing : other.filter (feed.brings ·) = [] := by rw [also.2 feed, ← one.2 feed]; rfl
      exact List.filter_eq_nil_iff.mp nothing action member brings
    rw [empty]
  | cons action run ih =>
    obtain ⟨feed, brings⟩ := one.1 action (by simp)
    have own := Feed.brings_iff.mp brings
    have shared : other.filter (feed.brings ·) = action :: run.filter (feed.brings ·) := by
      rw [also.2 feed, ← one.2 feed, List.filter_cons_of_pos brings]
    -- The other run brings the action too, after some of other feeds, which it may pass.
    obtain ⟨before, after, rfl, none, _, _⟩ := List.filter_eq_cons_iff.mp shared
    have passed : ∀ other ∈ before, other.feed? ≠ action.feed? := fun other member same =>
      none other member (Feed.brings_iff.mpr (same.trans own))
    have free := also.feed?_ne_tasks untouched
    have commutes : ∀ other ∈ before, ∀ state : BoardState, state.Commute other action := by
      intro other member state
      obtain ⟨source, sends⟩ := also.1 other (List.mem_append_left _ member)
      have theirs := Feed.brings_iff.mp sends
      refine commute_of_feeds theirs own ?_ (not_clash (free other (by simp [member]))
        (free action (by simp)))
      rintro rfl
      exact passed other member (theirs.trans own.symm)
    rw [reduceAll_move commutes]
    -- Both runs take in the action first now, and what is left of them is interleaved again.
    refine ih ?_ ⟨fun other member => one.1 other (by simp [member]), fun _ => rfl⟩
      (one.erase also passed) (state.reduce action).state
    exact List.filter_eq_nil_iff.mpr fun other member brings =>
      one.feed?_ne_tasks untouched other (by simp [member]) (Feed.brings_iff.mp brings)

/--
Feeds are independent of each other, but for two kinds of clash.

Actions of different feeds that do not clash commute in every state. So the order in which the feeds
of approvals, agents and chat come does not matter, as none of their actions clash; and each kind of
clash does matter in some state.
-/
theorem feeds_commute :
    (∀ (state : BoardState) {feed other : Feed} {first second : BoardAction}, feed ≠ other →
      feed.brings first → other.brings second → ¬ state.Clash first second →
        state.Commute first second) ∧
    (∀ (state : BoardState) {parts : Feed → List BoardAction} {run other : List BoardAction},
      parts .tasks = [] → Interleaves parts run → Interleaves parts other →
        state.reduceAll run = state.reduceAll other) ∧
    (∃ (state : BoardState) (task agent : Patch),
      state.Meet (.taskUpserted task) (.agentUpserted agent) ∧
        ¬ state.Commute (.taskUpserted task) (.agentUpserted agent)) ∧
    ∃ (state : BoardState) (task : Patch) (counts : TaskCounts),
      state.Meet (.taskUpserted task) (.approvalUpserted none (some counts) none) ∧
        ¬ state.Commute (.taskUpserted task) (.approvalUpserted none (some counts) none) := by
  -- The two clashes are known from before: each has a state in which the order shows.
  refine ⟨?_, ?_, ⟨_, _, _, not_commute_assigned⟩, ⟨_, _, _, not_commute_counted⟩⟩
  · intro state feed other first second apart brought also clear
    exact commute_of_feeds (Feed.brings_iff.mp brought) (Feed.brings_iff.mp also) apart clear
  · intro state parts run other untouched one also
    exact reduceAll_interleaves untouched one also state

/-- A board of one task and two agents. -/
def crew : BoardState :=
  { empty "b" with
    tasks := [{ Task.schema.blank with id := "t" }]
    agents := [{ Agent.schema.blank with id := "a", name := "Ada" },
      { Agent.schema.blank with id := "c", name := "Cy" }] }

/-- The task is given to the first agent. -/
def assigned : BoardAction := .taskUpserted assigning

/-- The second agent gets another name. -/
def renamed : BoardAction := .agentUpserted [("id", .string "c"), ("name", .string "Cleo")]

/-- An approval is asked for. -/
def asked : BoardAction := .approvalUpserted none (some ⟨some "t", some 1, some 1⟩) (some 1)

/-- Somebody says hello. -/
def greeted : BoardAction := .chatReceived ⟨"m", none, "hello", ["chat"], none, true, default⟩

/-- One action of each feed but that of tasks. -/
def oneEach : Feed → List BoardAction
  | .tasks => []
  | .approvals => [asked]
  | .agents => [renamed]
  | .chat => [greeted]

/-- A task is given to an agent while another is renamed, and other feeds come in any order. -/
theorem feeds_commute_crew :
    crew.Commute assigned renamed ∧
      crew.reduceAll [asked, renamed, greeted] = crew.reduceAll [greeted, renamed, asked] ∧
      ((crew.reduce assigned).state.reduce renamed).state.tasks.map (·.assignee) =
        [some "Ada"] := by
  have clear : ¬ crew.Clash assigned renamed := by
    rintro (⟨task, ⟨_, id, named, held⟩, agentId, agent, given⟩ | meet)
    · obtain rfl : "t" = id := Option.some.inj named
      obtain rfl : "c" = agentId := Option.some.inj agent
      -- The task is given to the first agent, not to the one that is renamed.
      have other : ((crew.reduce assigned).state.task? "t").bind (·.assignedAgentId) =
          some "a" := by decide
      rw [assigned, held, Option.bind_some, given] at other
      exact absurd other (by decide)
    · exact meet
  have one : Interleaves oneEach [asked, renamed, greeted] :=
    ⟨by simpa using ⟨⟨.approvals, rfl⟩, ⟨.agents, rfl⟩, ⟨.chat, rfl⟩⟩,
      fun feed => by cases feed <;> rfl⟩
  have also : Interleaves oneEach [greeted, renamed, asked] :=
    ⟨by simpa using ⟨⟨.chat, rfl⟩, ⟨.agents, rfl⟩, ⟨.approvals, rfl⟩⟩,
      fun feed => by cases feed <;> rfl⟩
  obtain ⟨commutes, interleaves, _⟩ := feeds_commute
  -- The three others come in two orders, and the task and the agent in one that does not clash.
  exact ⟨commutes crew (by decide : Feed.tasks ≠ Feed.agents) rfl rfl clear,
    interleaves crew rfl one also, by decide⟩

end LiveBoard.BoardState
