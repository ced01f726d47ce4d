import LiveBoard.Proofs.Board.Invariant
import LiveBoard.Proofs.Instant.Sorting
import Mathlib.Data.List.Nodup

/-!
Messages leave the same chat in whatever order they arrive, and however often each of them does.

Each message that is new is sorted in as it arrives, which leaves what one sort leaves of all that
are new. Messages of distinct instants come out of that sort in one order only.
-/

namespace LiveBoard.BoardState

/-! ## The chat while messages arrive -/

/-- Messages that arrive leave what they leave of the chat, and nothing else changes. -/
theorem reduceAll_chatReceived (state : BoardState) (arrived : List ChatMessage) :
    state.reduceAll (arrived.map .chatReceived) =
      { state with chatMessages := arrived.foldl say state.chatMessages } := by
  -- Each message is said in the chat that the ones before it left.
  induction arrived generalizing state with
  | nil => rfl
  | cons message arrived ih =>
    rw [List.map_cons, reduceAll, List.foldl_cons, ← reduceAll, reduce_chatReceived, ih]
    rfl

/-- A chat in the order of creation is not changed by sorting it. -/
theorem sortMessages_of_inOrder {messages : List ChatMessage} (sorted : InOrder messages) :
    sortMessages messages = messages :=
  List.mergeSort_of_pairwise sorted

/-- A message is sorted in if it is tagged as chat and no message has its identifier. -/
theorem say_eq (messages : List ChatMessage) (message : ChatMessage) :
    say messages message =
      if message.isChatTagged ∧ message.id ∉ messages.map (·.id) then
        sortMessages (messages ++ [message])
      else messages := by
  have known : messages.any (·.id = message.id) = decide (message.id ∈ messages.map (·.id)) := by
    -- Looking for the identifier message by message is looking for it among the identifiers.
    rw [Bool.eq_iff_iff]
    simp
  unfold say
  rw [known]
  by_cases held : message.id ∈ messages.map (·.id)
  · simp only [held, decide_true, Bool.or_true, not_true_eq_false, and_false, if_true, if_false]
  · cases message.isChatTagged <;> simp [held]

/-- A chat stays in the order of creation when a message is said in it. -/
theorem inOrder_say {messages : List ChatMessage} (sorted : InOrder messages)
    (message : ChatMessage) : InOrder (say messages message) := by
  unfold say
  -- Either nothing is said, or the chat is sorted afterwards.
  split
  · exact sorted
  · exact inOrder_sortMessages _

/-- A chat in the order of creation keeps its messages, in that order, when one is said in it. -/
theorem sublist_say {messages : List ChatMessage} (sorted : InOrder messages)
    (message : ChatMessage) : messages.Sublist (say messages message) := by
  have goes := Instant.chronological_forwards ChatMessage.createdAt
  -- The sort is stable, so what was in order before stays in that order.
  unfold say
  split
  · exact .refl messages
  · exact List.sublist_mergeSort goes.trans goes.total sorted (List.sublist_append_left ..)

/-- A chat in the order of creation is so, with all that it held, after messages arrived. -/
theorem inOrder_foldl_say {messages : List ChatMessage} (sorted : InOrder messages)
    (arrived : List ChatMessage) :
    InOrder (arrived.foldl say messages) ∧ messages.Sublist (arrived.foldl say messages) := by
  -- What one message keeps, a run of them keeps.
  induction arrived generalizing messages with
  | nil => exact ⟨sorted, .refl messages⟩
  | cons message arrived ih =>
    obtain ⟨ordered, kept⟩ := ih (inOrder_say sorted message)
    exact ⟨ordered, (sublist_say sorted message).trans kept⟩

/-! ## Messages that are new -/

/-- The messages that a chat takes in: those tagged as chat that come first of a new identifier. -/
def newcomers (known : List String) : List ChatMessage → List ChatMessage
  | [] => []
  | message :: arrived =>
    if message.isChatTagged ∧ message.id ∉ known then
      message :: newcomers (message.id :: known) arrived
    else newcomers known arrived

/-- Which messages are new depends on which identifiers are known, in whatever order. -/
theorem newcomers_congr {known others : List String} (same : ∀ id, id ∈ known ↔ id ∈ others)
    (arrived : List ChatMessage) : newcomers known arrived = newcomers others arrived := by
  induction arrived generalizing known others with
  | nil => rfl
  | cons message arrived ih =>
    -- With the same identifier added on both sides, the same ones are known again.
    have more : ∀ id, id ∈ message.id :: known ↔ id ∈ message.id :: others := by
      simp [same]
    simp only [newcomers, same, ih same, ih more]

/-- A message that is new arrived, is tagged as chat, and has an identifier that was not known. -/
theorem of_mem_newcomers {known : List String} {arrived : List ChatMessage} {message : ChatMessage}
    (new : message ∈ newcomers known arrived) :
    message ∈ arrived ∧ message.isChatTagged ∧ message.id ∉ known := by
  -- Along what arrived, with more and more identifiers known.
  induction arrived generalizing known with
  | nil => simp [newcomers] at new
  | cons first arrived ih =>
    rw [newcomers] at new
    split at new
    · rename_i taken
      rcases List.mem_cons.mp new with rfl | later
      · exact ⟨by simp, taken⟩
      · -- What is new once the first message is known was new before.
        obtain ⟨member, tagged, unknown⟩ := ih later
        exact ⟨by simp [member], tagged, fun held => unknown (by simp [held])⟩
    · obtain ⟨member, rest⟩ := ih new
      exact ⟨by simp [member], rest⟩

/-- No two messages that are new have the same identifier. -/
theorem nodup_newcomers (known : List String) (arrived : List ChatMessage) :
    ((newcomers known arrived).map (·.id)).Nodup := by
  -- A message is taken only if its identifier is not known, and is known once it was taken.
  induction arrived generalizing known with
  | nil => simp [newcomers]
  | cons first arrived ih =>
    rw [newcomers]
    split
    · -- The identifier of the first message is known to all that come behind it.
      have apart : first.id ∉ (newcomers (first.id :: known) arrived).map (·.id) := by
        intro again
        obtain ⟨other, new, same⟩ := List.mem_map.mp again
        exact (of_mem_newcomers new).2.2 (by simp [same])
      exact List.nodup_cons.mpr ⟨apart, ih _⟩
    · exact ih known

/-- Each message that is tagged as chat is new, known, or behind a new one of its identifier. -/
theorem exists_newcomer {known : List String} {arrived : List ChatMessage} {message : ChatMessage}
    (member : message ∈ arrived) (tagged : message.isChatTagged) (unknown : message.id ∉ known) :
    ∃ first ∈ newcomers known arrived, first.id = message.id := by
  induction arrived generalizing known with
  | nil => simp at member
  | cons first arrived ih =>
    rw [newcomers]
    split
    · -- The first message is the one that is sought, or it makes no difference to that one.
      by_cases same : first.id = message.id
      · exact ⟨first, by simp, same⟩
      · have later : message ∈ arrived := by
          rcases List.mem_cons.mp member with rfl | later
          · exact absurd rfl same
          · exact later
        have unseen : message.id ∉ first.id :: known := by simp [unknown, Ne.symm same]
        obtain ⟨other, new, named⟩ := ih later unseen
        exact ⟨other, by simp [new], named⟩
    · rename_i passed
      rcases List.mem_cons.mp member with rfl | later
      · exact absurd ⟨tagged, unknown⟩ passed
      · exact ih later unknown

/-- Messages that arrive one by one leave what one sort leaves of those that are new. -/
theorem foldl_say_eq_sortMessages {messages : List ChatMessage} (sorted : InOrder messages)
    (arrived : List ChatMessage) :
    arrived.foldl say messages =
      sortMessages (messages ++ newcomers (messages.map (·.id)) arrived) := by
  -- Each message is sorted into what the ones before it left, and sorting twice is sorting once.
  induction arrived generalizing messages with
  | nil => simp [newcomers, sortMessages_of_inOrder sorted]
  | cons message arrived ih =>
    rw [List.foldl_cons, ih (inOrder_say sorted message), newcomers, say_eq]
    split
    · -- The message is sorted in, and its identifier is known from then on.
      have known : ∀ id, id ∈ (sortMessages (messages ++ [message])).map (·.id) ↔
          id ∈ message.id :: messages.map (·.id) := by
        intro id
        rw [sortMessages, ((List.mergeSort_perm ..).map _).mem_iff]
        simp [or_comm]
      rw [newcomers_congr known]
      simpa [sortMessages] using Instant.mergeSort_mergeSort_append
        (Instant.chronological_forwards ChatMessage.createdAt) (messages ++ [message])
        (newcomers (message.id :: messages.map (·.id)) arrived)
    · -- A message that is passed over changes neither the chat nor what is known.
      rfl

/-! ## Convergence -/

section Sent

variable {known : List String} {sent : List ChatMessage}
  (alike : ∀ a ∈ sent, ∀ b ∈ sent, a.id = b.id → a = b)
include alike

/-- Where identifiers tell messages apart, all are new that are tagged and not known. -/
theorem mem_newcomers_iff {message : ChatMessage} :
    message ∈ newcomers known sent ↔
      message ∈ sent ∧ message.isChatTagged ∧ message.id ∉ known := by
  constructor
  · exact of_mem_newcomers
  · rintro ⟨member, tagged, unknown⟩
    -- The first message of its identifier is the message itself.
    obtain ⟨first, new, named⟩ := exists_newcomer member tagged unknown
    obtain rfl := alike first (of_mem_newcomers new).1 message member named
    exact new

/-- The same messages are new however they arrive. -/
theorem newcomers_perm {arrived : List ChatMessage}
    (same : ∀ message, message ∈ arrived ↔ message ∈ sent) :
    (newcomers known sent).Perm (newcomers known arrived) := by
  -- What arrived are the same messages, so their identifiers tell them apart as well.
  have also : ∀ a ∈ arrived, ∀ b ∈ arrived, a.id = b.id → a = b := by
    intro a first b second
    exact alike a ((same a).mp first) b ((same b).mp second)
  -- Lists without repetitions are the same up to order when they have the same members.
  refine (List.perm_ext_iff_of_nodup (nodup_newcomers known sent).of_map
    (nodup_newcomers known arrived).of_map).mpr fun message => ?_
  rw [mem_newcomers_iff alike, mem_newcomers_iff also, same]

/-- Messages of distinct instants leave the same chat however they arrive. -/
theorem foldl_say_of_same {messages arrived : List ChatMessage} (sorted : InOrder messages)
    (apart : ∀ a ∈ sent, ∀ b ∈ sent, a.isChatTagged → b.isChatTagged → a.id ≠ b.id →
      a.createdAt ≠ b.createdAt)
    (same : ∀ message, message ∈ arrived ↔ message ∈ sent) :
    arrived.foldl say messages = sent.foldl say messages := by
  -- New messages differ in their identifiers, and so in their instants.
  have distinct : (newcomers (messages.map (·.id)) sent).Pairwise fun a b =>
      a.createdAt ≠ b.createdAt := by
    refine (List.pairwise_map.mp (nodup_newcomers _ sent)).imp_of_mem ?_
    intro a b first second different
    obtain ⟨memberA, taggedA, -⟩ := of_mem_newcomers first
    obtain ⟨memberB, taggedB, -⟩ := of_mem_newcomers second
    exact apart a memberA b memberB taggedA taggedB different
  rw [foldl_say_eq_sortMessages sorted, foldl_say_eq_sortMessages sorted]
  exact (Instant.mergeSort_append_of_perm
    (Instant.chronological_forwards ChatMessage.createdAt) messages (newcomers_perm alike same)
    distinct).symm

end Sent

/--
A chat converges, whatever the order in which messages arrive and however often each of them does.

From a chat in the order of creation, messages that their identifiers tell apart, and of which those
tagged as chat have distinct instants, leave one chat. It is in the order of creation, and holds
what was held, in its order, and each message once that is tagged as chat and of a new
identifier.
-/
theorem reduceAll_arrivals {state : BoardState} {sent : List ChatMessage}
    (sorted : InOrder state.chatMessages)
    (alike : ∀ a ∈ sent, ∀ b ∈ sent, a.id = b.id → a = b)
    (apart : ∀ a ∈ sent, ∀ b ∈ sent, a.isChatTagged → b.isChatTagged → a.id ≠ b.id →
      a.createdAt ≠ b.createdAt) :
    ∃ messages : List ChatMessage,
      (∀ arrived : List ChatMessage, (∀ message, message ∈ arrived ↔ message ∈ sent) →
        state.reduceAll (arrived.map .chatReceived) = { state with chatMessages := messages }) ∧
      InOrder messages ∧ state.chatMessages.Sublist messages ∧
      ∀ message, messages.count message = state.chatMessages.count message +
        if message ∈ sent ∧ message.isChatTagged ∧
          message.id ∉ state.chatMessages.map (·.id) then 1 else 0 := by
  -- The chat is the one that is left when all is received once, in the order in which it was sent.
  obtain ⟨ordered, kept⟩ := inOrder_foldl_say sorted sent
  refine ⟨sent.foldl say state.chatMessages, ?_, ordered, kept, ?_⟩
  · intro arrived same
    rw [reduceAll_chatReceived, foldl_say_of_same alike sorted apart same]
  · intro message
    -- Sorting moves messages about, and those that are new are there once each.
    rw [foldl_say_eq_sortMessages sorted, sortMessages, (List.mergeSort_perm ..).count_eq,
      List.count_append, (nodup_newcomers _ sent).of_map.count]
    simp only [mem_newcomers_iff alike]

/-- The start of a second. -/
def startOf (seconds : Int) : Instant := ⟨seconds, 0, by decide, by simp⟩

/-- A chat message that was created some seconds after the start of 1970. -/
def chatAt (id : String) (seconds : Int) : ChatMessage :=
  ⟨id, none, id, [ChatMessage.chatTag], none, true, startOf seconds⟩

/-- A board that holds one message. -/
def heldAt60 : BoardState := { empty "b" with chatMessages := [chatAt "held" 60] }

/-- A later message, an earlier one, one that is no chat, and the one that is held. -/
def sentAround60 : List ChatMessage :=
  [chatAt "late" 90, chatAt "early" 30, { chatAt "note" 0 with tags := [] }, chatAt "held" 60]

/-- The same messages from the last to the first, some of them twice. -/
def resentAround60 : List ChatMessage :=
  sentAround60.reverse ++ [chatAt "early" 30, chatAt "late" 90]

/-- Messages around the one that is held are sorted in alike, whichever of them comes first. -/
theorem reduceAll_arrivals_resent :
    heldAt60.reduceAll (resentAround60.map .chatReceived) =
      heldAt60.reduceAll (sentAround60.map .chatReceived) ∧
    (heldAt60.reduceAll (resentAround60.map .chatReceived)).chatMessages.map (·.id) =
      ["early", "held", "late"] := by
  have sorted : InOrder heldAt60.chatMessages := List.pairwise_singleton ..
  obtain ⟨messages, left, -⟩ := @reduceAll_arrivals heldAt60 sentAround60 sorted
    (by decide) (by decide)
  have same : ∀ message, message ∈ resentAround60 ↔ message ∈ sentAround60 := by
    intro message
    simp only [resentAround60, sentAround60, List.mem_append, List.mem_reverse, List.mem_cons,
      List.not_mem_nil, or_false]
    tauto
  -- Of the six that arrive, two are new: the third is no chat, and the fourth is held.
  have new : newcomers (heldAt60.chatMessages.map (·.id)) resentAround60 =
      [chatAt "early" 30, chatAt "late" 90] := by decide
  constructor
  · rw [left resentAround60 same, left sentAround60 fun _ => .rfl]
  · rw [reduceAll_chatReceived]
    dsimp only
    rw [foldl_say_eq_sortMessages sorted, new]
    simp [heldAt60, sortMessages, List.mergeSort, chatAt, startOf, Instant.le]

end LiveBoard.BoardState
