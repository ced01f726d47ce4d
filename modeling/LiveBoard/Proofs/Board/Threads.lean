import LiveBoard.Proofs.Board.Effects

/-!
The thread of a task that stays open, along any run of actions.

What arrives over the feed, or is posted, is added to the thread. A load replaces the whole thread,
so it also takes away what came in after the server had made its list.
-/

namespace LiveBoard

namespace BoardAction

/-- The thread of an open task after an action that leaves the task open. -/
def thread (taskId : String) (comments : List TaskComment) : BoardAction → List TaskComment
  | .commentsLoaded loaded list => if loaded = taskId then list else comments
  -- What the feed brings goes last, and what is confirmed first.
  | .commentReceived comment =>
    if comment.taskId = some taskId then
      BoardState.addComment (· ++ [comment]) comment comments
    else comments
  | .commentPosted comment =>
    if comment.taskId = some taskId then
      BoardState.addComment (comment :: ·) comment comments
    else comments
  | _ => comments

/-- Whether an action puts a comment of an identifier into the thread of a task. -/
def adds (taskId id : String) : BoardAction → Bool
  | .commentsLoaded loaded list => loaded = taskId && list.any (·.id = id)
  | .commentReceived comment | .commentPosted comment =>
    comment.taskId = some taskId && comment.id = id
  | _ => false

/-- Whether an action replaces the thread of a task by one that lacks an identifier. -/
def drops (taskId id : String) : BoardAction → Bool
  | .commentsLoaded loaded list => loaded = taskId && !list.any (·.id = id)
  | _ => false

/-- After each load of a thread that lacks an identifier, a run adds the identifier again. -/
def Recovers (taskId id : String) (run : List BoardAction) : Prop :=
  ∀ former list later, run = former ++ .commentsLoaded taskId list :: later →
    ¬ list.any (·.id = id) → ∃ action ∈ later, action.adds taskId id

variable {taskId id : String} {action : BoardAction} {run : List BoardAction}

/-- What an action drops it does not add. -/
theorem not_adds_of_drops (drops : action.drops taskId id) : ¬ action.adds taskId id := by
  -- Only a load drops, and it adds what its list has.
  cases action with
  | commentsLoaded loaded list => simp_all [BoardAction.drops, adds]
  | _ => simp [BoardAction.drops] at drops

/-- A run without actions has no loads to recover from. -/
theorem recovers_nil : Recovers taskId id [] := by
  intro former list later split
  simp at split

/-- A run recovers from its first action, and from all later ones. -/
theorem recovers_cons : Recovers taskId id (action :: run) ↔
    (action.drops taskId id → ∃ later ∈ run, later.adds taskId id) ∧ Recovers taskId id run := by
  -- A load is the first action itself, or else one of the rest of the run.
  constructor
  · refine fun recovers => ⟨fun drops => ?_, fun former list later split => ?_⟩
    · cases action with
      | commentsLoaded loaded list =>
        obtain ⟨rfl, lacks⟩ : loaded = taskId ∧ ¬ list.any (·.id = id) := by
          simpa [BoardAction.drops] using drops
        exact recovers [] list run rfl lacks
      | _ => simp [BoardAction.drops] at drops
    · exact recovers (action :: former) list later (by rw [split, List.cons_append])
  · rintro ⟨first, rest⟩ (_ | ⟨head, former⟩) list later split lacks
    · obtain ⟨rfl, rfl⟩ := List.cons.inj split
      exact first (by simpa [BoardAction.drops] using lacks)
    · exact rest former list later (List.cons.inj split).2 lacks

/-- After an action a comment is in the thread if the action adds it, or did not drop it. -/
theorem any_thread (comments : List TaskComment) :
    (action.thread taskId comments).any (·.id = id) =
      (action.adds taskId id || (comments.any (·.id = id) && !action.drops taskId id)) := by
  -- A load decides by its list alone, and a single comment joins those that are there.
  cases action with
  | commentsLoaded loaded list =>
    by_cases same : loaded = taskId <;>
      cases held : list.any (·.id = id) <;> simp [thread, adds, drops, same, held]
  | commentReceived comment =>
    by_cases belongs : comment.taskId = some taskId <;>
      simp [thread, adds, drops, belongs, BoardState.any_addComment, Bool.or_comm]
  | commentPosted comment =>
    by_cases belongs : comment.taskId = some taskId <;>
      simp [thread, adds, drops, belongs, BoardState.any_addComment, Bool.or_comm]
  | _ => simp [thread, adds, drops]

/--
A run leaves a comment in the thread if the comment was there or is added, and the run recovers.
-/
theorem any_foldl_thread (comments : List TaskComment) :
    (run.foldl (thread taskId) comments).any (·.id = id) ↔
      (comments.any (·.id = id) ∨ ∃ action ∈ run, action.adds taskId id) ∧
        Recovers taskId id run := by
  -- Along the run, since each action adds to or replaces the thread that the ones before it left.
  induction run generalizing comments with
  | nil => simp [recovers_nil]
  | cons action run ih =>
    rw [List.foldl_cons, ih, any_thread, recovers_cons, List.exists_mem_cons_iff]
    by_cases dropped : action.drops taskId id
    · -- After a load without the comment only what follows counts.
      have absent := not_adds_of_drops dropped
      simp only [dropped, absent, Bool.not_true, Bool.and_false, Bool.or_false,
        Bool.false_eq_true, false_or, true_implies]
      exact ⟨fun ⟨added, rest⟩ => ⟨.inr added, added, rest⟩, fun ⟨_, added, rest⟩ => ⟨added, rest⟩⟩
    · simp only [dropped, Bool.not_false, Bool.and_true, Bool.or_eq_true, Bool.false_eq_true,
        false_implies, true_and, or_left_comm, or_assoc]

end BoardAction

namespace BoardState

/-- The task that is open. -/
def openId? (state : BoardState) : Option String := state.detail.map (·.taskId)

/-- Whether a comment of an identifier is in the thread of a task that is open. -/
def inThread (state : BoardState) (taskId id : String) : Bool :=
  state.detail.any fun detail => detail.taskId = taskId && detail.comments.any (·.id = id)

/-- Whether an action opens a task, which it does if the board has the task. -/
def opens (state : BoardState) : BoardAction → Bool
  | .taskOpened taskId => (state.task? taskId).isSome
  | _ => false

/-- A task is open before, during and after a run, and is not opened again in it. -/
def StaysOpen (taskId : String) (state : BoardState) : List BoardAction → Prop
  | [] => state.openId? = some taskId
  | action :: run =>
    state.openId? = some taskId ∧ ¬ state.opens action ∧
      StaysOpen taskId (state.reduce action).state run

variable {state : BoardState} {taskId id : String} {run : List BoardAction}

/-- What stays open is open at the start. -/
theorem StaysOpen.openId? (stays : state.StaysOpen taskId run) :
    state.openId? = some taskId := by
  cases run with
  | nil => exact stays
  | cons action run => exact stays.1

/-- An action that leaves a task open without opening one changes nothing of it but its thread. -/
theorem detail_reduce {detail : TaskDetail} {action : BoardAction}
    (held : state.detail = some detail) (unopened : ¬ state.opens action)
    (stays : (state.reduce action).state.openId? = some detail.taskId) :
    (state.reduce action).state.detail =
      some { detail with comments := action.thread detail.taskId detail.comments } := by
  -- Kind by kind: most actions do not touch the open task at all.
  cases action with
  | taskUpserted patch =>
    rw [reduce_taskUpserted]
    exact held
  | agentUpserted patch =>
    rw [reduce_agentUpserted]
    exact held
  | approvalUpserted approval counts pending =>
    rw [reduce_approvalUpserted]
    exact held
  | chatReceived message =>
    rw [reduce_chatReceived]
    exact held
  | taskRemoved taskId =>
    -- The open task is not the one that is dropped, or else it would be closed.
    simp only [reduce, removeTask, openId?, held, Option.filter_some] at stays ⊢
    split at stays
    · simp_all [BoardAction.thread]
    · cases stays
  | taskOpened taskId =>
    -- It opens nothing, so the board does not have the task, and the action does nothing.
    have unknown : (state.openTask taskId) = state := if_neg unopened
    simp only [reduce, unknown, held, BoardAction.thread]
  | taskClosed => cases stays
  | commentsLoaded taskId comments =>
    simp only [reduce, changeThread, held, Option.map_some, BoardAction.thread, eq_comm]
    split <;> rfl
  | commentReceived comment =>
    simp only [reduce_commentReceived, hear, held, Option.map_some, BoardAction.thread]
    split <;> rfl
  | commentPosted comment =>
    simp only [reduce, postComment, BoardAction.thread]
    cases named : comment.taskId with
    -- A comment that names no task goes into no thread.
    | none => simp [held]
    | some taskId =>
      simp only [changeThread, held, Option.map_some, Option.some.injEq, eq_comm]
      split <;> rfl
  | _ => exact held

/-- Along a run in which a task stays open, nothing of it changes but its thread. -/
theorem detail_reduceAll {detail : TaskDetail} (held : state.detail = some detail)
    (stays : state.StaysOpen detail.taskId run) :
    (state.reduceAll run).detail =
      some { detail with
        comments := run.foldl (BoardAction.thread detail.taskId) detail.comments } := by
  -- Each action leaves the task open, since the task is open where the rest of the run starts.
  induction run generalizing state detail with
  | nil => exact held
  | cons action run ih =>
    obtain ⟨-, unopened, rest⟩ := stays
    exact ih (detail_reduce held unopened rest.openId?) rest

/-- A comment is in the thread of the task that is open if the thread has its identifier. -/
theorem inThread_iff : state.inThread taskId id ↔
    ∃ detail, state.detail = some detail ∧ detail.taskId = taskId ∧
      detail.comments.any (·.id = id) := by
  unfold inThread
  -- Without an open task there is no thread for a comment to be in.
  cases state.detail <;> simp

/--
A comment shown in the thread of the open task stays shown while the task stays open, but for loads.

A load for the task replaces its thread, so a comment that the list lacks is gone until a later
action adds it again. Whatever else happens, a comment that was shown is shown in the end exactly
if the run recovers from each such load.
-/
theorem inThread_reduceAll (shown : state.inThread taskId id)
    (stays : state.StaysOpen taskId run) :
    (state.reduceAll run).inThread taskId id ↔ BoardAction.Recovers taskId id run := by
  obtain ⟨detail, held, rfl, present⟩ := inThread_iff.mp shown
  -- The thread in the end is made of the one at the start, by one action after the other.
  have after := detail_reduceAll held stays
  have counted := @BoardAction.any_foldl_thread detail.taskId id run detail.comments
  simp only [present, true_or, true_and] at counted
  rw [← counted, inThread, after]
  simp

/-- A comment of the task that is open. -/
def asking : TaskComment := ⟨"c", some "t", none, some "done?", default⟩

/-- The answer to it. -/
def answering : TaskComment := ⟨"d", some "t", none, some "done.", default⟩

/-- A task that was opened and commented on while its thread was still being loaded. -/
def commented : BoardState := oneOpen.reduceAll [.taskOpened "t", .commentReceived asking]

/-- A comment that came in before the thread was loaded is gone with a list that is older. -/
theorem not_inThread_reloaded :
    commented.inThread "t" "c" ∧ commented.StaysOpen "t" [.commentsLoaded "t" []] ∧
      ¬ (commented.reduceAll [.commentsLoaded "t" []]).inThread "t" "c" :=
  ⟨by decide, ⟨by decide, by decide, rfl⟩, by decide⟩

/-- A run whose load lacks a comment, which comes in again afterwards. -/
def resent : List BoardAction :=
  [.commentPosted answering, .commentsLoaded "t" [answering], .taskStatusChanged "t" .review,
    .commentsLoaded "u" [], .commentReceived asking]

/-- A comment that a load took away is back once it has come in again. -/
theorem inThread_reduceAll_resent :
    commented.inThread "t" "c" ∧ commented.StaysOpen "t" resent ∧
      (commented.reduceAll resent).inThread "t" "c" := by
  have shown : commented.inThread "t" "c" := by decide
  have stays : commented.StaysOpen "t" resent := by
    simp only [resent, StaysOpen]
    decide
  have recovers : BoardAction.Recovers "t" "c" resent := by
    -- Only the load of the task itself drops the comment, and the last action adds it.
    simp only [resent, BoardAction.recovers_cons, BoardAction.recovers_nil]
    decide
  exact ⟨shown, stays, (inThread_reduceAll shown stays).mpr recovers⟩

end BoardState

end LiveBoard
