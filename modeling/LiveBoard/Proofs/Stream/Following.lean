import LiveBoard.Proofs.Board.Effects
import LiveBoard.Proofs.Stream.Borders
import LiveBoard.Stream.Subscriber

/-! A subscriber that is left to run does what its connections say, one after the other. -/

namespace LiveBoard

open EventStream

/-! ## What a script says -/

/-- The chunks that a body delivers before it ends. -/
def delivered : List Delivery → List (List UInt8)
  | .chunk bytes :: rest => bytes :: delivered rest
  | _ => []

/-- A body comes to an end, by itself or because it cannot be read. -/
def Ends : List Delivery → Prop
  | [] | .failure :: _ => True
  | .silence :: _ => False
  | .chunk _ :: rest => Ends rest

/-- Whether a body comes to an end is seen by going through it. -/
instance decidableEnds : (body : List Delivery) → Decidable (Ends body)
  | [] | .failure :: _ => .isTrue trivial
  | .silence :: _ => .isFalse id
  | .chunk _ :: rest => decidableEnds rest

namespace Connection

/-- What a connection delivers; one that is refused delivers nothing. -/
def body : Connection → List Delivery
  | .refused => []
  | .opened body => body

/-- The bytes that a connection delivers before it ends. -/
def bytes (connection : Connection) : List UInt8 := (delivered connection.body).flatten

/--
A connection that comes to an end, with bytes that a decoder of a limit can follow.

No line has two carriage returns before its line feed, and what no blank line has closed yet is
within the limit after every chunk.
-/
structure Sound (limit : Nat) (connection : Connection) : Prop where
  ends : Ends connection.body
  plain : Plain connection.bytes
  fits : ∀ arrived, arrived <+: delivered connection.body →
    (pieces (rewriteLineEnds arrived.flatten)).2.length ≤ limit

/-- Whether a connection is sound is seen from the starts of its chunks, which are finitely many. -/
theorem sound_iff {limit : Nat} {connection : Connection} :
    connection.Sound limit ↔ Ends connection.body ∧
      ¬ [carriageReturn, carriageReturn, lineFeed] <:+: connection.bytes ∧
      ∀ arrived ∈ (delivered connection.body).inits,
        (remainder arrived.flatten).length ≤ limit := by
  simp only [List.mem_inits, remainder_eq_pieces]
  exact ⟨fun sound => ⟨sound.ends, sound.plain, sound.fits⟩,
    fun ⟨ends, plain, fits⟩ => ⟨ends, plain, fits⟩⟩

instance (limit : Nat) (connection : Connection) : Decidable (connection.Sound limit) :=
  decidable_of_iff _ sound_iff.symm

end Connection

/-- The state that an action leaves, which is the one before it if the action is refused. -/
def BoardState.takeIn (state : BoardState) (action : BoardAction) : BoardState :=
  match (state.reduce action).refusal with
  | none => (state.reduce action).state
  | some _ => state

/-- The state that the connections of a script leave one after the other. -/
def Feed.left (feed : Feed) (state : BoardState) (script : List Connection) : BoardState :=
  script.foldl (fun state connection => (feed.heard connection.bytes).foldl .takeIn state) state

/-- Refused actions change nothing, so taking actions in leaves the state that they leave. -/
theorem BoardState.foldl_takeIn (state : BoardState) (actions : List BoardAction) :
    actions.foldl takeIn state = state.reduceAll actions := by
  -- Action by action, as a refused one leaves the state that the next action finds.
  induction actions generalizing state with
  | nil => rfl
  | cons action actions ih =>
    have first : state.takeIn action = (state.reduce action).state := by
      unfold takeIn
      cases refused : (state.reduce action).refusal with
      | none => rfl
      | some refusal => exact (reduce_of_refused (by simp [refused])).symm
    rw [List.foldl_cons, ih, first]
    rfl

/-! ## What a subscriber does -/

namespace Progress

/-- Progress with actions applied. -/
def take (progress : Progress) (actions : List BoardAction) : Progress :=
  { progress with
    store := progress.store.applyAll actions
    applied := progress.applied ++ actions }

/-- Progress with one attempt more. -/
def note (progress : Progress) (attempt : Attempt) : Progress :=
  { progress with attempts := progress.attempts ++ [attempt] }

/-- Nothing changes when no action is applied. -/
@[simp] theorem take_nil (progress : Progress) : progress.take [] = progress := by
  simp [take, BoardStore.applyAll]

/-- Actions may be applied in two goes. -/
theorem take_append (progress : Progress) (actions more : List BoardAction) :
    progress.take (actions ++ more) = (progress.take actions).take more := by
  simp [take, BoardStore.applyAll]

/-- Applied actions leave the state that they leave one after the other. -/
@[simp] theorem take_state (progress : Progress) (actions : List BoardAction) :
    (progress.take actions).store.state = progress.store.state.reduceAll actions :=
  BoardStore.applyAll_state progress.store actions

end Progress

namespace Subscription

/-- Without a token that fires, all actions are applied. -/
theorem applyEach_never (progress : Progress) (actions : List BoardAction) :
    applyEach .never progress actions = (some .never, progress.take actions) := by
  -- The first action is applied by itself, and then the others.
  induction actions generalizing progress with
  | nil => simp [applyEach]
  | cons action actions ih =>
    rw [← List.singleton_append, progress.take_append, ← ih]
    rfl

/-- Without a token that fires, all that the chunks of a body complete is applied. -/
theorem receive_never {feed : Feed} {body : List Delivery} (ends : Ends body) (decoder : Decoder)
    (progress : Progress) :
    receive feed .never decoder progress body =
      (some .never, progress.take
        ((frames (decoder.pushAll (delivered body)).2).flatMap feed.actionsOf)) := by
  -- Along the deliveries, up to the end or to one that cannot be read.
  induction body generalizing decoder progress with
  | nil => simp [receive, delivered, Decoder.pushAll, frames, Token.look?]
  | cons delivery body ih =>
    cases delivery with
    -- A body that cannot be read any further is as good as one that ends there.
    | failure => simp [receive, delivered, Decoder.pushAll, frames, Token.look?]
    | silence => exact ends.elim
    | chunk bytes =>
      -- What the first chunk completes is applied before the next one is waited for.
      rw [delivered, frames_pushAll_cons, List.flatMap_append, progress.take_append, ← ih ends]
      simp only [receive, Token.look?, applyEach_never]

variable {subscription : Subscription} {connection : Connection}

/-- Without a token that fires, a connection leaves all that it says applied. -/
theorem follow_never (sound : connection.Sound subscription.frameLimit) (progress : Progress) :
    subscription.follow .never progress connection =
      (some .never, progress.take (subscription.feed.heard connection.bytes)) := by
  -- Refused or opened, it is a look and what was delivered until it ended.
  cases connection with
  | refused =>
    -- A connection that is refused delivers no byte, and so completes no frame.
    have nothing : subscription.feed.heard (Connection.refused).bytes = [] := by
      simp [Connection.bytes, Connection.body, delivered, Feed.heard]
    simp [follow, Token.look?, nothing]
  | opened body =>
    have ends : Ends body := sound.ends
    have given : frames ((Decoder.new subscription.frameLimit).pushAll (delivered body)).2 =
        written (delivered body).flatten := sound.plain.frames_pushAll sound.fits
    -- A new decoder is made for the connection, so no byte of an earlier one is in it.
    simp only [follow, Token.look?, receive_never ends, Feed.flatMap_actionsOf, given]
    rfl

/-- Without a token that fires, an attempt is noted. -/
theorem connect_never (time : Nat) (progress : Progress) :
    subscription.connect .never time progress =
      (some .never, progress.note (subscription.attempt time progress.store.state)) := rfl

/-- The first connection of a script is followed before the others. -/
theorem run_never_cons {script : List Connection}
    (sound : connection.Sound subscription.frameLimit) (time : Nat) (progress : Progress) :
    subscription.run .never time progress (connection :: script) =
      subscription.run .never (time + subscription.reconnectDelay)
        ((progress.note (subscription.attempt time progress.store.state)).take
          (subscription.feed.heard connection.bytes)) script := by
  rw [run, connect_never]
  -- Neither the attempt nor the connection is cut short by the token.
  simp only [follow_never sound]

/-- Without a token that fires, one more attempt is made than there are connections to follow. -/
theorem run_never {script : List Connection}
    (sound : ∀ connection ∈ script, connection.Sound subscription.frameLimit) (time : Nat)
    (progress : Progress) :
    (subscription.run .never time progress script).store.state =
        subscription.feed.left progress.store.state script ∧
      (subscription.run .never time progress script).attempts =
        progress.attempts ++ (List.range (script.length + 1)).map fun index =>
          subscription.attempt (time + index * subscription.reconnectDelay)
            (subscription.feed.left progress.store.state (script.take index)) := by
  -- The time and the progress move on with each connection.
  induction script generalizing time progress with
  | nil =>
    -- The attempt after the last connection is noted, though nothing answers it.
    simp [run, connect_never, Progress.note, Feed.left]
  | cons connection script ih =>
    let followed := (progress.note (subscription.attempt time progress.store.state)).take
      (subscription.feed.heard connection.bytes)
    -- What the rest of the script starts from is what the first connection leaves.
    have state : followed.store.state =
        (subscription.feed.heard connection.bytes).foldl .takeIn progress.store.state := by
      rw [BoardState.foldl_takeIn, Progress.take_state]
      rfl
    obtain ⟨last, attempts⟩ := ih (fun other member => sound other (by simp [member]))
      (time + subscription.reconnectDelay) followed
    rw [run_never_cons (sound connection (by simp))]
    refine ⟨?_, ?_⟩
    · rw [last, state]
      rfl
    · -- The first attempt is the one that was noted, and each later one comes a delay after it.
      have first : followed.attempts =
          progress.attempts ++ [subscription.attempt time progress.store.state] := rfl
      have later : ∀ index : Nat,
          time + subscription.reconnectDelay + index * subscription.reconnectDelay =
            time + (index + 1) * subscription.reconnectDelay := by
        intro index
        rw [Nat.succ_mul]
        omega
      have indices : List.range (script.length + 1 + 1) =
          0 :: (List.range (script.length + 1)).map Nat.succ := List.range_succ_eq_map
      rw [attempts, state, first, List.append_assoc, List.length_cons, indices]
      simp [Function.comp_def, later, Feed.left]

/-- What a connection delivers after it failed does not count. -/
theorem delivered_failure (before after : List Delivery) :
    delivered (before ++ .failure :: after) = delivered before := by
  -- A failure or a silence before it would have ended the deliveries already.
  induction before with
  | nil => rfl
  | cons delivery before ih =>
    cases delivery with
    | chunk bytes => exact congrArg (bytes :: ·) ih
    | failure => rfl
    | silence => rfl

/-- Scripts of which each connection says the same to a feed leave the same state. -/
theorem left_padded {feed : Feed} {script other : List Connection}
    (padded : List.Forall₂ (fun one another => Padded feed one.bytes another.bytes) script other)
    (state : BoardState) : feed.left state script = feed.left state other := by
  induction padded generalizing state with
  | nil => rfl
  | cons head _ ih =>
    -- Both connections say the same, so that the next ones start from the same state.
    simp only [Feed.left, List.foldl_cons, head.heard_eq] at ih ⊢
    exact ih _

/--
A subscriber does what its connections say, one after the other.

Each attempt resumes from the cursor of what the connections before it left, and what they leave is
what the frames that each of them completes say, refused actions aside. What comes after a failure
does not count, and neither do bytes that complete no frame nor frames that say nothing to the feed.
-/
theorem run_eq_left (subscription : Subscription) (time : Nat) (progress : Progress)
    {script : List Connection}
    (sound : ∀ connection ∈ script, connection.Sound subscription.frameLimit) :
    let request := subscription.feed.request subscription.boardId
    let final := subscription.run .never time progress script
    final.store.state = subscription.feed.left progress.store.state script ∧
      final.attempts = progress.attempts ++ (List.range (script.length + 1)).map (fun index =>
        ⟨request.path, request.queryFrom (subscription.feed.cursor
          (subscription.feed.left progress.store.state (script.take index))),
          time + index * subscription.reconnectDelay⟩) ∧
      (∀ before after, (Connection.opened (before ++ .failure :: after)).bytes =
        (Connection.opened before).bytes) ∧
      ∀ other, (∀ connection ∈ other, connection.Sound subscription.frameLimit) →
        List.Forall₂ (fun one another => Padded subscription.feed one.bytes another.bytes)
          script other →
        (subscription.run .never time progress other).store.state = final.store.state ∧
          (subscription.run .never time progress other).attempts = final.attempts := by
  obtain ⟨state, attempts⟩ := run_never sound time progress
  -- What is left and what is asked for are known in closed form, and both go by what is heard.
  refine ⟨state, attempts, fun before after => ?_, fun other also padded => ?_⟩
  · exact congrArg List.flatten (delivered_failure before after)
  · obtain ⟨last, tried⟩ := run_never also time progress
    refine ⟨by rw [last, state, left_padded padded], ?_⟩
    rw [tried, attempts, padded.length_eq]
    -- The connections before an attempt say the same in both scripts.
    refine congrArg (progress.attempts ++ ·) (List.map_congr_left fun index _ => ?_)
    rw [left_padded (List.forall₂_take index padded)]

/-- The bytes of a text of ASCII characters. -/
def ascii (text : String) : List UInt8 := text.toList.map fun c => UInt8.ofNat c.toNat

/-- A frame of the task feed that tells of a change. -/
def changedFrame : List UInt8 :=
  ascii ("event: task\ndata: \x7b\"task\":\x7b\"id\":\"t\"," ++
    "\"updated_at\":\"2024-03-01T12:00:00Z\"\x7d\x7d\n\n")

/-- A frame of the approval feed that tells of a decision and of how many are still to be made. -/
def decidedFrame : List UInt8 :=
  ascii ("event: approval\ndata: \x7b\"approval\":\x7b\"id\":\"a\",\"status\":\"approved\"," ++
    "\"created_at\":\"2024-03-01T12:00:00Z\",\"resolved_at\":\"2024-03-02T09:30:00Z\"\x7d," ++
    "\"pending_approvals_count\":2\x7d\n\n")

section Scripts

variable (feed : Feed) (frame : List UInt8)

/-- Frames that say nothing to a feed: a sign of life, another event, bad data, no data. -/
def idleFrames : List UInt8 :=
  ascii (": ping\n\nevent: other\ndata: \x7b\x7d\n\n" ++
    "event: " ++ feed.event ++ "\ndata: \x7bbroken\n\nevent: " ++ feed.event ++ "\ndata:\n\n")

/-- The start of a frame of a feed. -/
def openFrame : List UInt8 := ascii ("event: " ++ feed.event ++ "\ndata: \x7b\"ta")

/-- A connection that fails in the middle of its second frame, and one that is refused. -/
def lossy : List Connection :=
  [.opened [.chunk frame, .chunk (openFrame feed), .failure, .chunk frame], .refused]

/-- The same first frame among idle ones, and a connection that is refused. -/
def idle : List Connection :=
  [.opened [.chunk (idleFrames feed), .chunk frame, .chunk (idleFrames feed)], .refused]

/-- A subscriber of a feed. -/
def followed : Subscription := ⟨feed, "b", 3000, 256⟩

variable {feed frame}

/-- Idle frames and a lost one say the same to a feed, which is what the first frame says. -/
theorem padded_idle (border : AtBorder (idleFrames feed))
    (silent : ∀ other ∈ written (idleFrames feed), ¬ feed.takes other) (whole : AtBorder frame)
    (unfinished : written (openFrame feed) = []) :
    List.Forall₂ (fun one another => Padded feed one.bytes another.bytes)
      (lossy feed frame) (idle feed frame) := by
  -- The frame that was open at the failure is lost, and the chunk after it is not looked at.
  have lost : Padded feed (openFrame feed ++ []) [] :=
    .unfinished (by simpa using unfinished) written_nil
  exact .cons (.noise border silent (.kept whole (.noise border silent lost)))
    (.cons (.same []) .nil)

end Scripts

/-- A subscriber that starts with an empty board. -/
def fresh : Progress := ⟨.empty "b", [], []⟩

/-- What a subscriber of a feed comes to with an empty board, when nothing stops it. -/
def cameTo (feed : Feed) (script : List Connection) : Progress :=
  (followed feed).run .never 0 fresh script

/--
Idle frames and a lost one change neither what is asked for nor what is left.

So it is for tasks and for approvals, of which the one that was decided stays on the board.
-/
theorem run_eq_left_lossy :
    (cameTo .tasks (idle .tasks changedFrame)).store.state =
        (cameTo .tasks (lossy .tasks changedFrame)).store.state ∧
      (cameTo .tasks (idle .tasks changedFrame)).attempts =
        (cameTo .tasks (lossy .tasks changedFrame)).attempts ∧
      (cameTo .tasks (lossy .tasks changedFrame)).attempts.map (·.query) =
        [[], [("since", "2024-03-01T12:00:00Z")], [("since", "2024-03-01T12:00:00Z")]] ∧
      (cameTo .approvals (idle .approvals decidedFrame)).store.state =
        (cameTo .approvals (lossy .approvals decidedFrame)).store.state ∧
      (cameTo .approvals (idle .approvals decidedFrame)).attempts =
        (cameTo .approvals (lossy .approvals decidedFrame)).attempts ∧
      (cameTo .approvals (lossy .approvals decidedFrame)).attempts.map (·.query) =
        [[], [("since", "2024-03-02T09:30:00Z")], [("since", "2024-03-02T09:30:00Z")]] ∧
      (cameTo .approvals (lossy .approvals decidedFrame)).store.state.approvals.map
        (fun approval => (approval.id, approval.status)) = [("a", .approved)] ∧
      (cameTo .approvals (lossy .approvals decidedFrame)).store.state.pendingApprovalsCount =
        2 := by
  unfold cameTo
  -- No connection is cut off for the length of what it leaves open after one of its chunks.
  have sound : ∀ script ∈ [lossy .tasks changedFrame, idle .tasks changedFrame,
      lossy .approvals decidedFrame, idle .approvals decidedFrame],
      ∀ connection ∈ script, connection.Sound 256 := by decide +kernel
  -- Soundness, borders and silence are computed; that the scripts agree is the general statement.
  simp only [List.forall_mem_cons] at sound
  obtain ⟨lostTasks, idleTasks, lostApprovals, idleApprovals, -⟩ := sound
  have tasks : List.Forall₂ (fun one another => Padded .tasks one.bytes another.bytes)
      (lossy .tasks changedFrame) (idle .tasks changedFrame) :=
    padded_idle (atBorder_iff.mpr (by decide +kernel)) (by rw [written_eq_groups]; decide +kernel)
      (atBorder_iff.mpr (by decide +kernel)) (by rw [written_eq_groups]; decide +kernel)
  have approvals : List.Forall₂ (fun one another => Padded .approvals one.bytes another.bytes)
      (lossy .approvals decidedFrame) (idle .approvals decidedFrame) :=
    padded_idle (atBorder_iff.mpr (by decide +kernel)) (by rw [written_eq_groups]; decide +kernel)
      (atBorder_iff.mpr (by decide +kernel)) (by rw [written_eq_groups]; decide +kernel)
  obtain ⟨-, -, -, unseen⟩ := run_eq_left (followed .tasks) 0 fresh lostTasks
  obtain ⟨-, -, -, unheard⟩ := run_eq_left (followed .approvals) 0 fresh lostApprovals
  obtain ⟨state, attempts⟩ := unseen _ idleTasks tasks
  obtain ⟨decided, tried⟩ := unheard _ idleApprovals approvals
  exact ⟨state, attempts, by decide +kernel, decided, tried, by decide +kernel⟩

end Subscription

end LiveBoard
