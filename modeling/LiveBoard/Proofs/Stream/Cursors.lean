import LiveBoard.Proofs.Board.Arrivals
import LiveBoard.Proofs.Instant.RoundTrip

/-!
A feed resumes from the latest of the instants that its records go by.

That instant is read back from the cursor, which is absent only when no record has an instant to go
by. The chat is kept in the order of creation, so its cursor is that of its last message, and never
moves back while the feeds go on.
-/

namespace LiveBoard

/-! ## The latest of some instants -/

namespace Instant

/-- The later of two instants is one of them, and neither of them is later. -/
theorem later_spec (a b : Instant) :
    (later a b = a ∨ later a b = b) ∧ a.le (later a b) ∧ b.le (later a b) := by
  unfold later
  split
  · -- Of two instants that are the same, the second is taken, which makes no difference.
    rename_i before
    exact ⟨.inr rfl, before, le_refl b⟩
  · rename_i after
    exact ⟨.inl rfl, le_refl a, (le_total a b).resolve_left after⟩

/-- Going through instants finds one of them, or the first one, that none of them is later than. -/
theorem foldl_later_spec (first : Instant) (rest : List Instant) :
    rest.foldl later first ∈ first :: rest ∧
      ∀ other ∈ first :: rest, other.le (rest.foldl later first) := by
  -- The induction goes on from the later one of the first two.
  induction rest generalizing first with
  | nil => simp [le_refl]
  | cons next rest ih =>
    obtain ⟨chosen, left, right⟩ := later_spec first next
    obtain ⟨member, greatest⟩ := ih (later first next)
    have start := greatest (later first next) List.mem_cons_self
    rw [List.foldl_cons]
    constructor
    · rcases List.mem_cons.mp member with same | inside
      · rw [same]
        rcases chosen with same | same <;> simp [same]
      · simp [inside]
    · intro other held
      simp only [List.mem_cons] at held
      rcases held with rfl | rfl | inside
      · exact le_trans left start
      · exact le_trans right start
      · exact greatest other (by simp [inside])

variable {instants others : List Instant} {last : Instant}

/-- There is no latest instant only when there is none at all. -/
theorem latest?_eq_none_iff : latest? instants = none ↔ instants = [] := by
  cases instants <;> simp [latest?]

/-- The latest of some instants is the one among them that none of them is later than. -/
theorem latest?_eq_some_iff :
    latest? instants = some last ↔ last ∈ instants ∧ ∀ other ∈ instants, other.le last := by
  cases instants with
  | nil => simp [latest?]
  | cons first rest =>
    obtain ⟨member, greatest⟩ := foldl_later_spec first rest
    constructor
    · rintro found
      obtain rfl := Option.some.inj found
      exact ⟨member, greatest⟩
    · rintro ⟨inside, above⟩
      -- Two instants that no other one is later than are no later than each other.
      exact congrArg some (le_antisymm (above _ member) (greatest last inside))

/-- The latest of some instants depends neither on their order nor on how often each is there. -/
theorem latest?_congr (same : ∀ instant, instant ∈ instants ↔ instant ∈ others) :
    latest? instants = latest? others := by
  -- Both answers are told by membership alone: that there is none, and which one is the latest.
  cases found : latest? others with
  | none =>
    rw [latest?_eq_none_iff] at found ⊢
    refine List.eq_nil_iff_forall_not_mem.mpr fun instant member => ?_
    rw [same, found] at member
    cases member
  | some last =>
    rw [latest?_eq_some_iff] at found ⊢
    simpa only [same] using found

end Instant

/-! ## Cursors -/

/-- The same records of each kind are held in some order. -/
structure BoardState.Reordered (state other : BoardState) : Prop where
  tasks : state.tasks.Perm other.tasks
  approvals : state.approvals.Perm other.approvals
  agents : state.agents.Perm other.agents
  messages : state.chatMessages.Perm other.chatMessages

namespace Feed

/--
Some record that a feed brings goes by an instant.

A task goes by its last change, or else by its creation; an approval by its decision, or else by its
creation; an agent by its last change, or else by when it was last seen; a message by its creation.
-/
def GoesBy (state : BoardState) (instant : Instant) : Feed → Prop
  | .tasks => ∃ task ∈ state.tasks, task.updatedAt = some instant ∨
    task.updatedAt = none ∧ task.createdAt = some instant
  | .approvals => ∃ approval ∈ state.approvals, approval.resolvedAt = some instant ∨
    approval.resolvedAt = none ∧ approval.createdAt = instant
  | .agents => ∃ agent ∈ state.agents, agent.updatedAt = some instant ∨
    agent.updatedAt = none ∧ agent.lastSeenAt = some instant
  | .chat => ∃ message ∈ state.chatMessages, message.createdAt = instant

/-- The instants that a feed looks at are those that its records go by. -/
theorem mem_watermarks_iff {state : BoardState} {feed : Feed} {instant : Instant} :
    instant ∈ feed.watermarks state ↔ feed.GoesBy state instant := by
  -- Each feed falls back on another timestamp when the first one is absent, but for the chat.
  cases feed with
  | tasks => simp [watermarks, GoesBy, Option.or_eq_some_iff]
  | approvals =>
    -- An approval always has a creation to fall back on.
    have fallback (approval : Approval) : approval.resolvedAt.getD approval.createdAt = instant ↔
        approval.resolvedAt = some instant ∨
          approval.resolvedAt = none ∧ approval.createdAt = instant := by
      cases approval.resolvedAt <;> simp
    simp [watermarks, GoesBy, fallback]
  | agents => simp [watermarks, GoesBy, Option.or_eq_some_iff]
  | chat => simp [watermarks, GoesBy]

/-- Which instants the records go by does not depend on the order in which these are held. -/
theorem goesBy_congr {state other : BoardState} (same : state.Reordered other) (feed : Feed)
    (instant : Instant) : feed.GoesBy state instant ↔ feed.GoesBy other instant := by
  cases feed with
  | tasks => simp only [GoesBy, same.tasks.mem_iff]
  | approvals => simp only [GoesBy, same.approvals.mem_iff]
  | agents => simp only [GoesBy, same.agents.mem_iff]
  | chat => simp only [GoesBy, same.messages.mem_iff]

/-- A feed has no cursor just when no record has an instant to go by. -/
theorem cursor_eq_none_iff {state : BoardState} {feed : Feed} :
    feed.cursor state = none ↔ ∀ instant, ¬ feed.GoesBy state instant := by
  rw [cursor, Option.map_eq_none_iff, Instant.latest?_eq_none_iff,
    List.eq_nil_iff_forall_not_mem]
  simp only [mem_watermarks_iff]

/-- A cursor is the text of the latest instant that a record goes by. -/
theorem cursor_eq_some_iff {state : BoardState} {feed : Feed} {text : String} :
    feed.cursor state = some text ↔ ∃ latest : Instant, latest.render = text ∧
      feed.GoesBy state latest ∧ ∀ other, feed.GoesBy state other → other.le latest := by
  rw [cursor, Option.map_eq_some_iff]
  -- The text is that of the latest watermark, and watermarks are what records go by.
  simp only [Instant.latest?_eq_some_iff, mem_watermarks_iff, and_comm]

/-- A cursor does not depend on the order in which records are held. -/
theorem cursor_congr {state other : BoardState} (same : state.Reordered other) (feed : Feed) :
    feed.cursor other = feed.cursor state := by
  refine congrArg (Option.map Instant.render) (Instant.latest?_congr fun instant => ?_)
  rw [mem_watermarks_iff, mem_watermarks_iff, goesBy_congr same]

end Feed

/-! ## The chat -/

namespace BoardState

/-- In the order of creation, no message is later than the last one. -/
theorem le_last {messages : List ChatMessage} (sorted : InOrder messages) {last : ChatMessage}
    (found : last ∈ messages.getLast?) :
    ∀ message ∈ messages, message.createdAt.le last.createdAt := by
  intro message member
  obtain ⟨nonempty, rfl⟩ := List.mem_getLast?_eq_getLast found
  -- The last one itself is among the messages, so the order has to be reflexive.
  exact sorted.rel_getLast_of_rel_getLast_getLast member (Instant.le_refl _)

/-- In the order of creation, the last of some messages is no later than the last of more. -/
theorem last_le_last {messages others : List ChatMessage} (sorted : InOrder others)
    (kept : messages.Sublist others) :
    ∀ earlier ∈ messages.getLast?, ∃ later ∈ others.getLast?,
      earlier.createdAt.le later.createdAt := by
  intro earlier found
  have member : earlier ∈ others := kept.subset (List.mem_of_getLast? found)
  -- There is a last message, since there is one at all.
  have last := List.getLast?_eq_some_getLast (List.ne_nil_of_mem member)
  exact ⟨_, last, le_last sorted last earlier member⟩

/-- The cursor of a chat in the order of creation is that of its last message. -/
theorem cursor_chat {state : BoardState} (sorted : InOrder state.chatMessages) :
    Feed.chat.cursor state = state.chatMessages.getLast?.map (·.createdAt.render) := by
  cases found : state.chatMessages.getLast? with
  | none =>
    rw [Option.map_none, Feed.cursor_eq_none_iff]
    simp [Feed.GoesBy, List.getLast?_eq_none_iff.mp found]
  | some last =>
    -- Its creation is gone by, and all others come before it in the chat.
    refine Feed.cursor_eq_some_iff.mpr ⟨last.createdAt, rfl, ?_, ?_⟩
    · exact ⟨last, List.mem_of_getLast? found, rfl⟩
    · rintro _ ⟨message, member, rfl⟩
      exact le_last sorted found message member

/-- What the feeds bring leaves what its messages leave of the chat. -/
theorem chatMessages_reduceAll {run : List BoardAction} (state : BoardState)
    (streamed : ∀ action ∈ run, action.IsStreamed) :
    (state.reduceAll run).chatMessages =
      (run.filterMap BoardAction.message?).foldl say state.chatMessages := by
  induction run generalizing state with
  | nil => rfl
  | cons action run ih =>
    -- No feed brings a snapshot, which would replace the chat.
    have first := (state.reduce_of_not_loads (streamed action (by simp)).loads_eq_false).2
    rw [reduceAll, List.foldl_cons, ← reduceAll, ih _ fun other member => streamed other
      (by simp [member]), first, ← List.foldl_append]
    -- An action without a message leaves the chat for the rest of the run.
    cases said : action.message? <;> simp [said]

end BoardState

open BoardState in
/--
A cursor is an exact watermark.

It is absent just when no record has an instant to go by. Where four digits hold the years of these
instants, it is read back as one of them that none of them is later than; and it does not depend on
the order in which records are held. While the feeds go on from a chat in the order of creation, the
cursor of the chat is that of its last message, which never gets earlier.
-/
theorem Feed.cursor_exact (state : BoardState) :
    (∀ feed : Feed,
      (feed.cursor state = none ↔ ∀ instant, ¬ feed.GoesBy state instant) ∧
      ((∀ instant, feed.GoesBy state instant → instant.InEra) →
        ∀ text ∈ feed.cursor state, ∃ latest, Instant.parse? text = some latest ∧
          feed.GoesBy state latest ∧ ∀ other, feed.GoesBy state other → other.le latest) ∧
      ∀ other : BoardState, state.Reordered other → feed.cursor other = feed.cursor state) ∧
    (InOrder state.chatMessages → ∀ run rest : List BoardAction,
      (∀ action ∈ run ++ rest, action.IsStreamed) →
        Feed.chat.cursor (state.reduceAll run) =
          (state.reduceAll run).chatMessages.getLast?.map (·.createdAt.render) ∧
        ∀ earlier ∈ (state.reduceAll run).chatMessages.getLast?,
          ∃ later ∈ (state.reduceAll (run ++ rest)).chatMessages.getLast?,
            earlier.createdAt.le later.createdAt) := by
  constructor
  · intro feed
    refine ⟨cursor_eq_none_iff, ?_, fun other same => cursor_congr same feed⟩
    intro era text found
    obtain ⟨latest, rfl, member, greatest⟩ := cursor_eq_some_iff.mp found
    exact ⟨latest, Instant.parse?_render (era latest member), member, greatest⟩
  · intro sorted run rest streamed
    have first : ∀ action ∈ run, action.IsStreamed := fun action member =>
      streamed action (List.mem_append_left rest member)
    have ordered : InOrder (state.reduceAll run).chatMessages := by
      rw [chatMessages_reduceAll state first]
      exact (inOrder_foldl_say sorted _).1
    -- The second part of the run goes on from the chat that the first part left.
    obtain ⟨later, kept⟩ := inOrder_foldl_say ordered (rest.filterMap BoardAction.message?)
    have whole : (state.reduceAll (run ++ rest)).chatMessages =
        (rest.filterMap BoardAction.message?).foldl say (state.reduceAll run).chatMessages := by
      rw [chatMessages_reduceAll state streamed, chatMessages_reduceAll state first,
        List.filterMap_append, List.foldl_append]
    refine ⟨cursor_chat ordered, ?_⟩
    rw [whole]
    exact last_le_last later kept

/-- A board with a message of the first minute, and two tasks of which one goes by its creation. -/
def BoardState.changedAndNew : BoardState :=
  { heldAt60 with
    tasks := [
      { Task.schema.blank with
        id := "changed"
        createdAt := some (startOf 90)
        updatedAt := some (startOf 30) },
      { Task.schema.blank with id := "new", createdAt := some (startOf 60) }] }

open BoardState in
/-- A task goes by its last change though it was created later, and the chat by its last message. -/
theorem Feed.cursor_exact_changedAndNew :
    (∃ latest, Instant.parse? "1970-01-01T00:01:00Z" = some latest ∧
      Feed.tasks.GoesBy changedAndNew latest ∧
      ∀ other, Feed.tasks.GoesBy changedAndNew other → other.le latest) ∧
    Feed.chat.cursor (changedAndNew.reduceAll [.chatReceived (chatAt "early" 30)]) =
      some "1970-01-01T00:01:00Z" := by
  obtain ⟨feeds, runs⟩ := Feed.cursor_exact changedAndNew
  have era : ∀ instant, Feed.tasks.GoesBy changedAndNew instant → instant.InEra := by
    intro instant goesBy
    have known : instant = startOf 30 ∨ instant = startOf 60 := by
      -- One task was changed, and the other one only created.
      simpa [GoesBy, changedAndNew, Task.schema, eq_comm] using goesBy
    rcases known with rfl | rfl <;> decide
  have text : Feed.tasks.cursor changedAndNew = some "1970-01-01T00:01:00Z" := by decide
  have sorted : InOrder changedAndNew.chatMessages := List.pairwise_singleton ..
  have streamed : ∀ action ∈ [BoardAction.chatReceived (chatAt "early" 30)] ++ [],
      action.IsStreamed := by
    simpa using ⟨Feed.chat, rfl⟩
  obtain ⟨last, -⟩ := runs sorted [.chatReceived (chatAt "early" 30)] [] streamed
  refine ⟨(feeds .tasks).2.1 era _ text, ?_⟩
  -- The earlier message is sorted in before the one that is held.
  have said : (changedAndNew.reduceAll [.chatReceived (chatAt "early" 30)]).chatMessages =
      [chatAt "early" 30, chatAt "held" 60] := by
    rw [chatMessages_reduceAll changedAndNew (by simpa using streamed)]
    simp [BoardAction.message?, say_eq, changedAndNew, heldAt60, sortMessages, List.mergeSort,
      chatAt, startOf, Instant.le, ChatMessage.isChatTagged, ChatMessage.chatTag]
  rw [last, said]
  decide

end LiveBoard
