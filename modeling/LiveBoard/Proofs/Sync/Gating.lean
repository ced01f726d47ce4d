import LiveBoard.Proofs.Board.Effects
import LiveBoard.Sync.Mutation
import LiveBoard.Sync.Session

/-!
Which feeds of a board run, whatever is asked of it and in whatever order.

A snapshot that was loaded once lets all feeds run from then on. Starting feeds adds those that may
run and do not, so none runs twice, and without a token none runs at all.
-/

namespace LiveBoard

/-! ## The board behind the gate -/

namespace BoardState

/-- A board is known after an action if it was known before, or if the action loads a snapshot. -/
theorem isSome_board_reduce (state : BoardState) (action : BoardAction) :
    (state.reduce action).state.board.isSome = (state.board.isSome || action.loads) := by
  cases action with
  | snapshotLoaded snapshot => exact (Bool.or_true _).symm
  -- Other actions, the failure of a snapshot among them, leave the board as it is.
  | _ =>
    rw [(state.reduce_of_not_loads rfl).1]
    exact (Bool.or_false _).symm

/-- What the feeds bring leaves a board known or unknown. -/
theorem isSome_board_reduceAll (state : BoardState) {actions : List BoardAction}
    (streamed : ∀ action ∈ actions, action.IsStreamed) :
    (state.reduceAll actions).board.isSome = state.board.isSome := by
  -- Along the actions, since none of them loads a snapshot.
  induction actions generalizing state with
  | nil => rfl
  | cons action actions ih =>
    have first := (streamed action (by simp)).loads_eq_false
    rw [reduceAll, List.foldl_cons, ← reduceAll, ih _ fun other member => streamed other
      (by simp [member]), isSome_board_reduce, first, Bool.or_false]

end BoardState

namespace BoardSync

/-! ## Starting feeds -/

section Spawn

variable {running : List Feed} {feed other : Feed}

/-- Once a feed is started, it runs beside those that ran before. -/
theorem mem_spawn : other ∈ spawn running feed ↔ other ∈ running ∨ other = feed := by
  unfold spawn
  split
  · rename_i held
    have held : feed ∈ running := by simpa using held
    -- The list stays as it is, and the feed is in it already.
    exact ⟨.inl, fun either => either.elim id fun same => same ▸ held⟩
  · simp

/-- No feed runs twice because one is started. -/
theorem nodup_spawn (distinct : running.Nodup) (feed : Feed) : (spawn running feed).Nodup := by
  unfold spawn
  -- A feed is added only if it does not run.
  split
  · exact distinct
  · rename_i new
    have new : feed ∉ running := by simpa using new
    exact (List.perm_append_singleton feed running).nodup_iff.mpr
      (List.nodup_cons.mpr ⟨new, distinct⟩)

/-- The feeds that ran before one is started stay where they are. -/
theorem prefix_spawn (running : List Feed) (feed : Feed) : running <+: spawn running feed := by
  unfold spawn
  split
  · exact List.prefix_rfl
  · exact List.prefix_append ..

/-- Once feeds are started, they run beside those that ran before. -/
theorem mem_foldl_spawn (feeds : List Feed) :
    other ∈ feeds.foldl spawn running ↔ other ∈ running ∨ other ∈ feeds := by
  -- Each start adds its own feed to those that run by then.
  induction feeds generalizing running with
  | nil => simp
  | cons feed feeds ih => rw [List.foldl_cons, ih, mem_spawn, List.mem_cons, or_assoc]

/-- No feed runs twice because some are started. -/
theorem nodup_foldl_spawn (distinct : running.Nodup) (feeds : List Feed) :
    (feeds.foldl spawn running).Nodup := by
  induction feeds generalizing running with
  | nil => exact distinct
  | cons feed feeds ih => exact ih (nodup_spawn distinct feed)

/-- The feeds that ran before some are started stay where they are. -/
theorem prefix_foldl_spawn (running feeds : List Feed) :
    running <+: feeds.foldl spawn running := by
  induction feeds generalizing running with
  | nil => exact List.prefix_rfl
  | cons feed feeds ih => exact (prefix_spawn running feed).trans (ih _)

end Spawn

/-- The agents may always be followed, and all else once the board is known. -/
theorem mem_allowedFeeds {sync : BoardSync} {feed : Feed} :
    feed ∈ sync.allowedFeeds ↔ feed = .agents ∨ sync.store.state.board.isSome := by
  unfold allowedFeeds
  -- Once the board is known the list is that of all four.
  split
  · rename_i known
    cases feed <;> simp [Feed.all, known]
  · rename_i unknown
    simp [unknown]

/-! ## What may happen to a board in sync -/

/-- Ask for the snapshot, which comes or fails. -/
def load (sync : BoardSync) (reply : Except ApiError Snapshot) :
    BoardSync × Except SyncError Unit :=
  let answer {β : Type} (call : Call β) (store : BoardStore) : BoardStore × Except ApiError β :=
    match call with
    | .snapshot _ => (store, reply)
    -- Nothing else is asked for.
    | _ => (store, .error .notSignedIn)
  let (store, result) := (Mutation.loadSnapshot sync.boardId sync.store).run answer
  ({ sync with store := store }, result)

/-- Take in a frame of a feed, if the feed runs and is not cancelled. -/
def hear (sync : BoardSync) (feed : Feed) (frame : Frame) : BoardSync :=
  if sync.running.contains feed && !sync.cancelled then
    { sync with store := sync.store.applyAll (feed.actionsOf frame) }
  else sync

/-- What may happen to a board in sync. -/
inductive Event where
  /-- The snapshot is asked for. Frames that arrive before its reply come before this. -/
  | loaded (reply : Except ApiError Snapshot)
  | started
  | stopped
  /-- A frame of a feed arrives. -/
  | heard (feed : Feed) (frame : Frame)

/-- Whether a snapshot was asked for and came. -/
def Event.succeeds : Event → Bool
  | .loaded (.ok _) => true
  | _ => false

/-- What an event makes of a board in sync. -/
def step (sync : BoardSync) : Event → BoardSync
  | .loaded reply => (sync.load reply).1
  | .started => sync.startStreams.1
  | .stopped => sync.shutdown
  | .heard feed frame => sync.hear feed frame

/-- What events make of a board in sync, one after the other. -/
def after (sync : BoardSync) (events : List Event) : BoardSync := events.foldl step sync

/-! ## The gate -/

/--
What a board in sync keeps, with or without a token, once a snapshot came or none has yet.

The board is known just when a snapshot came, no feed runs twice, and a feed that runs may do so.
-/
structure Gated (signedIn loaded : Bool) (sync : BoardSync) : Prop where
  token : sync.signedIn = signedIn
  known : sync.store.state.board.isSome = loaded
  distinct : sync.running.Nodup
  allowed : ∀ feed ∈ sync.running, signedIn = true ∧ (feed = .agents ∨ loaded = true)

section Gate

variable {sync : BoardSync} {signedIn loaded : Bool}

/-- A board of which nothing is known yet is behind its gate. -/
theorem gated_new (boardId : String) (signedIn : Bool) :
    Gated signedIn false (new boardId signedIn) where
  token := rfl
  known := rfl
  distinct := .nil
  allowed := nofun

/-- A snapshot that comes is loaded, and one that does not is noted as failed. -/
theorem load_eq (sync : BoardSync) (reply : Except ApiError Snapshot) :
    sync.load reply =
      match reply with
      | .ok snapshot => ({ sync with store := sync.store.apply (.snapshotLoaded snapshot) }, .ok ())
      | .error error =>
        ({ sync with store := sync.store.apply (.snapshotFailed error.message) },
          .error (.api error)) := by
  cases reply <;> rfl

/-- Once a start was asked for with a token, the feeds run that may, besides those that ran. -/
theorem mem_running_startStreams (token : sync.signedIn = true) {feed : Feed} :
    feed ∈ sync.startStreams.1.running ↔
      feed ∈ sync.running ∨ feed = .agents ∨ sync.store.state.board.isSome := by
  rw [startStreams, if_pos token]
  exact (mem_foldl_spawn _).trans (or_congr_right mem_allowedFeeds)

/-- Without a token, a start is refused and changes nothing. -/
theorem startStreams_of_signedOut (token : sync.signedIn = false) :
    sync.startStreams = (sync, .error .notSignedIn) := by
  rw [startStreams, token, if_neg Bool.false_ne_true]

/-- With a token, a start is granted, and adds feeds behind those that run. -/
theorem exists_startStreams (token : sync.signedIn = true) :
    ∃ added : List Feed,
      sync.startStreams = ({ sync with running := sync.running ++ added }, .ok ()) := by
  obtain ⟨added, whole⟩ := prefix_foldl_spawn sync.running sync.allowedFeeds
  exact ⟨added, by rw [startStreams, if_pos token, whole]⟩

/-- A gate holds with another store if the board is known in it, or was not known before. -/
theorem Gated.withStore (gated : sync.Gated signedIn loaded) {store : BoardStore} {later : Bool}
    (known : store.state.board.isSome = later) (still : loaded = true → later = true) :
    Gated signedIn later { sync with store := store } where
  token := gated.token
  known := known
  distinct := gated.distinct
  allowed feed running := (gated.allowed feed running).imp_right (Or.imp_right still)

/-- An action opens the gate if it loads a snapshot, and else leaves it as it is. -/
theorem Gated.apply (gated : sync.Gated signedIn loaded) (action : BoardAction) :
    Gated signedIn (loaded || action.loads) { sync with store := sync.store.apply action } := by
  refine gated.withStore ?_ fun already => by rw [already, Bool.true_or]
  -- The feeds stay, and a gate that was open stays open.
  rw [BoardStore.apply_state, BoardState.isSome_board_reduce, gated.known]

/-- The reply to a load opens the gate if it is a snapshot, and else leaves it as it is. -/
theorem Gated.load (gated : sync.Gated signedIn loaded) (reply : Except ApiError Snapshot) :
    (sync.load reply).1.Gated signedIn (loaded || (Event.loaded reply).succeeds) := by
  rw [load_eq]
  cases reply with
  | ok snapshot => exact gated.apply (.snapshotLoaded snapshot)
  -- The failure of a load is noted, and what is known of the board stays.
  | error error => exact gated.apply (.snapshotFailed error.message)

/-- A start adds the feeds that may run to those that do, or is refused. -/
theorem Gated.start (gated : sync.Gated signedIn loaded) :
    sync.startStreams.1.Gated signedIn loaded := by
  cases token : sync.signedIn with
  | false =>
    rw [startStreams_of_signedOut token]
    exact gated
  | true =>
    -- Only the list of feeds changes, and what it gains is what may run.
    have rest : sync.startStreams.1 = { sync with running := sync.startStreams.1.running } := by
      obtain ⟨added, whole⟩ := exists_startStreams token
      rw [whole]
    have distinct : sync.startStreams.1.running.Nodup := by
      rw [startStreams, if_pos token]
      exact nodup_foldl_spawn gated.distinct sync.allowedFeeds
    rw [rest]
    refine ⟨gated.token, gated.known, distinct, fun feed running => ?_⟩
    rcases (mem_running_startStreams token).mp running with before | may
    · exact gated.allowed feed before
    · exact ⟨gated.token ▸ token, gated.known ▸ may⟩

/-- What a feed brings leaves the gate as it is. -/
theorem Gated.hear (gated : sync.Gated signedIn loaded) (feed : Feed) (frame : Frame) :
    (sync.hear feed frame).Gated signedIn loaded := by
  unfold BoardSync.hear
  -- A frame is dropped unless its feed runs, and then brings no snapshot.
  split
  · refine gated.withStore ?_ id
    have streamed : ∀ action ∈ feed.actionsOf frame, action.IsStreamed := fun action member =>
      ⟨feed, Feed.brings_of_mem_actionsOf member⟩
    rw [BoardStore.applyAll_state, BoardState.isSome_board_reduceAll _ streamed, gated.known]
  · exact gated

/-- An event keeps the gate, which opens when a snapshot comes and never closes again. -/
theorem Gated.step (gated : sync.Gated signedIn loaded) (event : Event) :
    (sync.step event).Gated signedIn (loaded || event.succeeds) := by
  -- Only a load can open the gate, and stopping leaves no feed for it to hold back.
  cases event with
  | loaded reply => exact gated.load reply
  | started =>
    simp only [Event.succeeds, Bool.or_false]
    exact gated.start
  | stopped =>
    simp only [Event.succeeds, Bool.or_false]
    exact ⟨gated.token, gated.known, .nil, nofun⟩
  | heard feed frame =>
    simp only [Event.succeeds, Bool.or_false]
    exact gated.hear feed frame

/-- Any events keep the gate, which is open once a snapshot came among them. -/
theorem Gated.after (gated : sync.Gated signedIn loaded) (events : List Event) :
    (sync.after events).Gated signedIn (loaded || events.any Event.succeeds) := by
  -- Each event goes on from a gate that is open if a snapshot came before it.
  induction events generalizing sync loaded with
  | nil =>
    rw [List.any_nil, Bool.or_false]
    exact gated
  | cons event events ih =>
    have rest := ih (gated.step event)
    rwa [Bool.or_assoc, ← List.any_cons] at rest

end Gate

/--
Which feeds run after any events, and what a start makes of them.

No feed runs twice. Other feeds than that of the agents run only if a snapshot came, and whether one
came is also whether the board is known, whatever became of later loads. With a token, a start is
granted and adds feeds behind those that run; then that of the agents runs, and all of them do just
when a snapshot came. Without a token no feed ever runs, and a start is refused and changes nothing.
-/
theorem gated_after (boardId : String) (signedIn : Bool) (events : List Event) :
    let sync := (new boardId signedIn).after events
    let loaded := events.any Event.succeeds
    sync.running.Nodup ∧
    (∀ feed ∈ sync.running, feed ≠ .agents → loaded) ∧
    sync.store.state.board.isSome = loaded ∧
    match signedIn with
    | true => ∃ added : List Feed,
        sync.startStreams = ({ sync with running := sync.running ++ added }, .ok ()) ∧
        ∀ feed, feed ∈ sync.running ++ added ↔ feed = .agents ∨ loaded
    | false => sync.running = [] ∧ sync.startStreams = (sync, .error .notSignedIn) := by
  intro sync loaded
  have gated : sync.Gated signedIn loaded := (gated_new boardId signedIn).after events
  -- The first three parts are what the gate says; the last one is what a start makes of it.
  refine ⟨gated.distinct, fun feed running other => ?_, gated.known, ?_⟩
  · exact (gated.allowed feed running).2.resolve_left other
  cases signedIn with
  | true =>
    obtain ⟨added, granted⟩ := exists_startStreams gated.token
    refine ⟨added, granted, fun feed => ?_⟩
    have run : feed ∈ sync.startStreams.1.running ↔
        feed ∈ sync.running ∨ feed = .agents ∨ sync.store.state.board.isSome :=
      mem_running_startStreams gated.token
    rw [granted, gated.known] at run
    -- What ran before the start was already allowed to run.
    exact run.trans (or_iff_right_of_imp fun before => (gated.allowed feed before).2)
  | false =>
    -- A feed that ran would have been started with a token.
    refine ⟨List.eq_nil_iff_forall_not_mem.mpr fun feed running => ?_,
      startStreams_of_signedOut gated.token⟩
    exact Bool.false_ne_true (gated.allowed feed running).1

end BoardSync

end LiveBoard
