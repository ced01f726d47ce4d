import LiveBoard.Proofs.Board.Effects
import Mathlib.Data.List.DropRight

/-!
The live feed is a window on the comments in the order of their first delivery.

A server that lost its place sends again what it sent last. As long as that fits into the window it
is passed over. A longer stretch pushes out the comments that come next, so that each of them goes
in front again and the window ends where it was.
-/

namespace LiveBoard

namespace BoardState

/-! ## The window -/

/-- The comments that the live feed shows of those delivered, the last one first. -/
def latest (delivered : List TaskComment) : List TaskComment :=
  delivered.reverse.take liveFeedLimit

/-- The live feed once comments have come in one after the other. -/
def echoAll (feed comments : List TaskComment) : List TaskComment :=
  comments.foldl (fun feed comment => echo comment feed) feed

/-- Comments that come in after others find the feed that those left. -/
theorem echoAll_append (feed comments more : List TaskComment) :
    echoAll feed (comments ++ more) = echoAll (echoAll feed comments) more :=
  List.foldl_append ..

/-- Comments that the feed brings change the live feed by themselves. -/
theorem liveFeed_reduceAll (state : BoardState) (comments : List TaskComment) :
    (state.reduceAll (comments.map .commentReceived)).liveFeed =
      echoAll state.liveFeed comments := by
  induction comments generalizing state with
  | nil => rfl
  | cons comment comments ih =>
    -- The first comment leaves a live feed, which is all that the others go on from.
    rw [List.map_cons, reduceAll, List.foldl_cons, ← reduceAll, ih, reduce_commentReceived]
    rfl

/-- A comment that the feed shows is passed over. -/
theorem echo_of_mem {comment : TaskComment} {feed : List TaskComment} (shown : comment ∈ feed) :
    echo comment feed = feed := by
  have held : feed.any (·.id = comment.id) := List.any_eq_true.mpr ⟨comment, shown, by simp⟩
  simp only [echo, feedComment, addComment, if_pos held, ite_self]

/-- A comment that the window does not show moves it on. -/
theorem echo_latest {comment : TaskComment} {comments : List TaskComment}
    (named : comment.taskId.isSome) (new : ∀ shown ∈ latest comments, shown.id ≠ comment.id) :
    echo comment (latest comments) = latest (comments ++ [comment]) := by
  have absent : ¬ (latest comments).any (·.id = comment.id) := by simpa using new
  have turned : (comments ++ [comment]).reverse = comment :: comments.reverse := by simp
  rw [echo, if_pos named, feedComment, addComment, if_neg absent, latest, latest, turned]
  -- Cutting to the limit once more takes nothing from what is kept behind the new comment.
  rw [show liveFeedLimit = 49 + 1 from rfl, List.take_succ_cons, List.take_succ_cons,
    List.take_take]
  rfl

/-- Comments that lie behind as many others as the window holds are not shown. -/
theorem latest_append {comments others : List TaskComment}
    (long : liveFeedLimit ≤ others.length) : latest (comments ++ others) = latest others := by
  rw [latest, latest, List.reverse_append, List.take_append_of_le_length]
  rwa [List.length_reverse]

/-! ## One stretch of comments -/

/-- Comments whose identifiers are apart from those delivered, and from each other, are shown. -/
theorem echoAll_fresh {delivered fresh : List TaskComment}
    (distinct : ((delivered ++ fresh).map TaskComment.id).Nodup)
    (named : ∀ comment ∈ fresh, comment.taskId.isSome) :
    echoAll (latest delivered) fresh = latest (delivered ++ fresh) := by
  induction fresh generalizing delivered with
  | nil => simp [echoAll]
  | cons comment fresh ih =>
    -- What the window shows was delivered, so the next comment is not among it.
    have new : ∀ shown ∈ latest delivered, shown.id ≠ comment.id := by
      intro shown member
      have held := List.mem_reverse.mp (List.mem_of_mem_take member)
      rw [List.map_append, List.nodup_append] at distinct
      exact distinct.2.2 _ (List.mem_map_of_mem held) _ (by simp)
    rw [List.append_cons] at distinct ⊢
    rw [← ih distinct fun other member => named other (by simp [member]),
      ← echo_latest (named comment (by simp)) new]
    rfl

/-- A stretch that the window still shows is passed over. -/
theorem echoAll_shown {feed again : List TaskComment} (shown : again ⊆ feed) :
    echoAll feed again = feed := by
  induction again with
  | nil => rfl
  | cons comment again ih =>
    obtain ⟨first, rest⟩ := List.cons_subset.mp shown
    -- The first comment changes nothing, so that the feed still shows all the others.
    rw [echoAll, List.foldl_cons, echo_of_mem first]
    exact ih rest

/--
While a stretch longer than the window comes again, the window slides over it.

It shows the last of all deliveries, those that came again counted once more. The comment that comes
next is not shown, as the stretch around it fills the window.
-/
theorem echoAll_sliding {former before next : List TaskComment}
    (long : liveFeedLimit < (before ++ next).length)
    (distinct : ((former ++ (before ++ next)).map TaskComment.id).Nodup)
    (named : ∀ comment ∈ next, comment.taskId.isSome) :
    echoAll (latest ((former ++ (before ++ next)) ++ before)) next =
      latest ((former ++ (before ++ next)) ++ (before ++ next)) := by
  induction next generalizing before with
  | nil => simp [echoAll]
  | cons comment next ih =>
    have new : ∀ shown ∈ latest ((former ++ (before ++ comment :: next)) ++ before),
        shown.id ≠ comment.id := by
      intro shown member
      -- What was delivered since this comment fills the window.
      have room : liveFeedLimit ≤ (next ++ before).length := by
        simp only [List.length_append, List.length_cons] at long ⊢
        omega
      have split : (former ++ (before ++ comment :: next)) ++ before =
          (former ++ before ++ [comment]) ++ (next ++ before) := by simp
      rw [split, latest_append room] at member
      have around : shown ∈ before ++ next := by
        simpa [or_comm] using List.mem_of_mem_take member
      -- Of the whole stretch, only the comment itself has its identifier.
      rw [List.map_append] at distinct
      have stretch := (List.nodup_append.mp distinct).2.1
      rw [List.map_append, List.map_cons, List.nodup_middle, ← List.map_append] at stretch
      exact fun same => (List.nodup_cons.mp stretch).1 (same ▸ List.mem_map_of_mem around)
    have first := echo_latest (named comment (by simp)) new
    rw [List.append_assoc _ before] at first
    -- From here on the comment counts to those that have come again.
    rw [List.append_cons before] at long distinct first ⊢
    rw [← ih long distinct fun other member => named other (by simp [member]), ← first]
    rfl

/-- A stretch of the comments delivered last leaves the live feed where it was. -/
theorem echoAll_again {delivered again : List TaskComment} (suffix : again <:+ delivered)
    (distinct : (delivered.map TaskComment.id).Nodup)
    (named : ∀ comment ∈ delivered, comment.taskId.isSome) :
    echoAll (latest delivered) again = latest delivered := by
  obtain ⟨former, rfl⟩ := suffix
  by_cases long : liveFeedLimit < again.length
  · -- In the end the stretch fills the window, as it did when it came for the first time.
    have slid := @echoAll_sliding former [] again long distinct fun comment member =>
      named comment (by simp [member])
    simp only [List.nil_append, List.append_nil] at slid
    rw [slid, latest_append long.le, latest_append long.le]
  · -- All of the stretch is still shown.
    refine echoAll_shown fun comment member => ?_
    have short : again.reverse.length ≤ liveFeedLimit := by
      rw [List.length_reverse]
      omega
    rw [latest, List.reverse_append, List.take_append, List.take_of_length_le short]
    simp [member]

end BoardState

/-! ## Rounds of connections -/

/-- What the server sends over one connection: the comments sent last once more, then new ones. -/
structure Round where
  /-- How many of the comments delivered before come again. -/
  resent : Nat
  fresh : List TaskComment

namespace Round

/-- The comments that rounds deliver, each once, in the order of their first delivery. -/
def delivered (rounds : List Round) : List TaskComment := rounds.flatMap (·.fresh)

/-- The comments that come again at the start of a round. -/
def again (round : Round) (known : List TaskComment) : List TaskComment :=
  known.rtake round.resent

/-- All that the server sends in rounds, after some comments that were delivered before. -/
def sent (known : List TaskComment) : List Round → List TaskComment
  | [] => []
  | round :: rounds => round.again known ++ round.fresh ++ sent (known ++ round.fresh) rounds

/-- What comes again at the start of a round was delivered last. -/
theorem again_suffix (round : Round) (known : List TaskComment) : round.again known <:+ known :=
  List.drop_suffix ..

open BoardState

/-- Rounds leave a window on all that was delivered. -/
theorem echoAll_sent {known : List TaskComment} {rounds : List Round}
    (distinct : ((known ++ delivered rounds).map TaskComment.id).Nodup)
    (named : ∀ comment ∈ known ++ delivered rounds, comment.taskId.isSome) :
    echoAll (latest known) (sent known rounds) = latest (known ++ delivered rounds) := by
  induction rounds generalizing known with
  | nil => simp [echoAll, sent, delivered]
  | cons round rounds ih =>
    have whole : known ++ delivered (round :: rounds) =
        known ++ round.fresh ++ delivered rounds := by simp [delivered]
    rw [whole] at distinct named ⊢
    have first : ((known ++ round.fresh).map TaskComment.id).Nodup := by
      rw [List.map_append] at distinct
      exact (List.nodup_append.mp distinct).1
    have before : (known.map TaskComment.id).Nodup := by
      rw [List.map_append] at first
      exact (List.nodup_append.mp first).1
    -- What comes again leaves the window in place, and then the new comments move it on.
    rw [sent, echoAll_append, echoAll_append,
      echoAll_again (round.again_suffix known) before fun comment member =>
        named comment (by simp [member]),
      echoAll_fresh first fun comment member => named comment (by simp [member])]
    exact ih distinct named

/--
The live feed is a window on the comments in the order of their first delivery.

This holds at the end of any rounds, and also in the middle of one, when all that the server sends
again has come: however many comments there are, and however many of them come again.
-/
theorem liveFeed_sent {state : BoardState} {rounds : List Round} (empty : state.liveFeed = [])
    (distinct : ((delivered rounds).map TaskComment.id).Nodup)
    (named : ∀ comment ∈ delivered rounds, comment.taskId.isSome) :
    (state.reduceAll ((sent [] rounds).map .commentReceived)).liveFeed =
        (delivered rounds).reverse.take liveFeedLimit ∧
      ∀ former round later, rounds = former ++ round :: later →
        (state.reduceAll ((sent [] former ++ round.again (delivered former)).map
            .commentReceived)).liveFeed = (delivered former).reverse.take liveFeedLimit := by
  -- The rounds start from an empty window, which shows nothing that was delivered.
  have ended {rounds : List Round} (distinct : ((delivered rounds).map TaskComment.id).Nodup)
      (named : ∀ comment ∈ delivered rounds, comment.taskId.isSome) :
      echoAll [] (sent [] rounds) = latest (delivered rounds) :=
    @echoAll_sent [] rounds distinct named
  constructor
  · rw [liveFeed_reduceAll, empty, ended distinct named]
    rfl
  · rintro former round later rfl
    -- The comments of the former rounds are apart from each other like all comments.
    have whole : delivered (former ++ round :: later) =
        delivered former ++ delivered (round :: later) := List.flatMap_append ..
    rw [whole] at distinct named
    rw [List.map_append] at distinct
    have first := (List.nodup_append.mp distinct).1
    have held : ∀ comment ∈ delivered former, comment.taskId.isSome := fun comment member =>
      named comment (List.mem_append_left _ member)
    rw [liveFeed_reduceAll, empty, echoAll_append, ended first held,
      echoAll_again (round.again_suffix _) first held]
    rfl

/-- Sixty comments on one task, ten more than the live feed shows. -/
def sixty : List TaskComment :=
  (List.range 60).map fun n => ⟨String.ofList (.replicate n 'c'), some "t", none, none, default⟩

/-- When all of sixty comments come again, the live feed still shows the last fifty. -/
theorem liveFeed_sent_sixty :
    let rounds : List Round := [⟨0, sixty⟩, ⟨60, []⟩]
    (sent [] rounds).length = 120 ∧
      ((empty "b").reduceAll ((sent [] rounds).map .commentReceived)).liveFeed =
        (sixty.drop 10).reverse ∧
      ((empty "b").reduceAll ((sixty ++ sixty).map .commentReceived)).liveFeed =
        (sixty.drop 10).reverse := by
  intro rounds
  have count : sixty.length = 60 := by simp [sixty]
  have whole : delivered rounds = sixty := by simp [delivered, rounds]
  have resent : Round.again ⟨60, []⟩ sixty = sixty := by simp [again, List.rtake, count]
  have distinct : ((delivered rounds).map TaskComment.id).Nodup := by
    -- The identifiers differ in their lengths.
    rw [whole, sixty, List.map_map]
    refine List.nodup_range.map fun m n same => ?_
    simpa using congrArg String.length same
  have named : ∀ comment ∈ delivered rounds, comment.taskId.isSome := by
    simp [whole, sixty]
  obtain ⟨ended, between⟩ := @liveFeed_sent (empty "b") rounds rfl distinct named
  have last : sixty.reverse.take liveFeedLimit = (sixty.drop 10).reverse := by
    rw [List.take_reverse, count]
    rfl
  refine ⟨by simp [rounds, sent, again, List.rtake, count], ?_, ?_⟩
  · rw [ended, whole, last]
  · have middle := between [⟨0, sixty⟩] ⟨60, []⟩ [] rfl
    have former : delivered [⟨0, sixty⟩] = sixty := by simp [delivered]
    have once : sent [] [⟨0, sixty⟩] = sixty := by simp [sent, again, List.rtake]
    rw [former, resent, once] at middle
    rw [middle, last]

end Round

end LiveBoard
