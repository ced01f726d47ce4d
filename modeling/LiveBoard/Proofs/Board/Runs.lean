import LiveBoard.Board.Store
import LiveBoard.Stream.Feed

/-! Runs of actions over the local copy, and the actions that the feeds bring. -/

namespace LiveBoard

/-- Whether an action is of a kind that a feed brings. -/
def Feed.brings : Feed → BoardAction → Bool
  | .tasks, .taskUpserted _ | .tasks, .commentReceived _ => true
  | .approvals, .approvalUpserted _ _ _ => true
  | .agents, .agentUpserted _ => true
  | .chat, .chatReceived _ => true
  | _, _ => false

/-- What a frame of the task feed says is of a kind that the feed brings. -/
theorem Feed.brings_of_mem_taskActions {frame : TaskFrame} {actions : List BoardAction}
    (said : taskActions frame = .ok actions) : ∀ action ∈ actions, Feed.tasks.brings action := by
  unfold taskActions at said
  -- A frame is told apart by the name of its event, and a comment may be missing from it.
  split at said
  · split at said
    · obtain rfl := Except.ok.inj said
      simp [brings]
    · cases said
  · obtain rfl := Except.ok.inj said
    cases frame.task <;> simp [brings]

/-- A result that was mapped came from a result. -/
theorem exists_of_map_eq_ok {ε α β : Type} {result : Except ε α} {change : α → β} {value : β}
    (mapped : result.map change = .ok value) :
    ∃ given, result = .ok given ∧ change given = value := by
  cases result with
  | error fault => simp [Except.map] at mapped
  | ok given => exact ⟨given, rfl, by simpa [Except.map] using mapped⟩

/-- What the data of a frame says is of a kind that the feed brings. -/
theorem Feed.brings_of_mem_actions {feed : Feed} {data : String} {actions : List BoardAction}
    (said : feed.actions data = .ok actions) : ∀ action ∈ actions, feed.brings action := by
  -- Only the frames of tasks are of two kinds; those of the other feeds say one thing or nothing.
  cases feed with
  | tasks =>
    simp only [Feed.actions] at said
    cases decoded : decodeFrame TaskFrame.schema data with
    | error fault => simp [decoded, Except.bind] at said
    | ok frame => exact brings_of_mem_taskActions (by simpa [decoded, Except.bind] using said)
  | approvals =>
    obtain ⟨frame, _, rfl⟩ := exists_of_map_eq_ok said
    unfold approvalActions
    split <;> simp [brings]
  | agents =>
    obtain ⟨frame, _, rfl⟩ := exists_of_map_eq_ok said
    cases frame.agent <;> simp [brings]
  | chat =>
    obtain ⟨frame, _, rfl⟩ := exists_of_map_eq_ok said
    cases frame.memory <;> simp [brings]

/-- Every action that a feed takes from a frame is of a kind that it brings. -/
theorem Feed.brings_of_mem_actionsOf {feed : Feed} {frame : Frame} {action : BoardAction}
    (member : action ∈ feed.actionsOf frame) : feed.brings action := by
  unfold actionsOf at member
  -- Frames of another event, and frames without data, stand for no action.
  split at member
  · simp at member
  · -- Data that cannot be read stands for no action at all.
    cases said : feed.actions frame.data with
    | error fault => simp [said, Except.toOption] at member
    | ok actions =>
      exact brings_of_mem_actions said action (by simpa [said, Except.toOption] using member)

/-- Whether an action is of a kind that some feed brings. -/
def BoardAction.IsStreamed (action : BoardAction) : Prop := ∃ feed : Feed, feed.brings action

namespace BoardState

/-- The state that actions leave when they are taken in one after the other. -/
def reduceAll (state : BoardState) (actions : List BoardAction) : BoardState :=
  actions.foldl (fun state action => (state.reduce action).state) state

/-- Every action is accepted when actions are taken in one after the other. -/
def Accepts (state : BoardState) : List BoardAction → Prop
  | [] => True
  | action :: actions =>
    (state.reduce action).refusal = none ∧ (state.reduce action).state.Accepts actions

end BoardState

namespace BoardStore

/-- A store holds the state that an action applied to it leaves. -/
@[simp] theorem apply_state (store : BoardStore) (action : BoardAction) :
    (store.apply action).state = (store.state.reduce action).state := by
  unfold apply dispatch
  -- Refused or not, the store takes over the state that is left, and only the count differs.
  cases refused : (store.state.reduce action).refusal <;> simp [refused]

/-- A store holds the state that actions applied to it leave one after the other. -/
@[simp] theorem applyAll_state (store : BoardStore) (actions : List BoardAction) :
    (store.applyAll actions).state = store.state.reduceAll actions := by
  -- The revision plays no part in what the next action does.
  induction actions generalizing store with
  | nil => rfl
  | cons action actions ih =>
    rw [applyAll, List.foldl_cons, ← applyAll, ih, apply_state]
    rfl

end BoardStore

end LiveBoard
