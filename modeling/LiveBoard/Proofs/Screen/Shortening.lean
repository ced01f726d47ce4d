import LiveBoard.Proofs.Board.Arrivals
import LiveBoard.Screen.Board

/-!
A list that is cut to so many records shows the newest of them.

The chat is cut where it stands, which is in the order of creation after any run of actions. The
live feed stands in the order of arrival, and is sorted before it is cut.
-/

namespace LiveBoard

namespace BoardState

/-- Whatever happens to a board, its chat stays in the order of creation. -/
theorem inOrder_reduce {state : BoardState} (sorted : InOrder state.chatMessages)
    (action : BoardAction) : InOrder (state.reduce action).state.chatMessages := by
  -- What a snapshot brings is sorted, and so is a message among those that are held.
  cases action with
  | snapshotLoaded snapshot => exact inOrder_sortMessages snapshot.chatMessages
  | _ =>
    rw [(state.reduce_of_not_loads rfl).2]
    exact (inOrder_foldl_say sorted _).1

/-- After any run from nothing, the chat stands in the order of creation. -/
theorem inOrder_reduceAll (boardId : String) (run : List BoardAction) :
    InOrder ((empty boardId).reduceAll run).chatMessages := by
  -- What one action keeps, a run of them keeps.
  suffices kept : ∀ state : BoardState, InOrder state.chatMessages →
      InOrder (state.reduceAll run).chatMessages from kept _ .nil
  induction run with
  | nil => exact fun _ sorted => sorted
  | cons action run ih => exact fun _ sorted => ih _ (inOrder_reduce sorted action)

/-- The live feed is shown with the newest comments first. -/
theorem pairwise_shownFeed (state : BoardState) :
    state.shownFeed.Pairwise fun a b => b.createdAt.le a.createdAt :=
  -- Comparing by instants backwards is total and transitive, so that sorting puts all in order.
  have goes := Instant.chronological_backwards TaskComment.createdAt
  List.pairwise_mergeSort goes.trans goes.total state.liveFeed

/-- The messages that are left out of a chat that is cut to so many. -/
def olderChat (state : BoardState) (limit : Nat) : List ChatMessage :=
  state.chatMessages.take (state.chatMessages.length - limit)

/-- The comments that are left out of a live feed that is cut to so many. -/
def olderFeed (state : BoardState) (limit : Nat) : List TaskComment :=
  state.shownFeed.drop limit

/-- A chat is what is left out of it, and then what is shown. -/
theorem olderChat_append_latestChat (state : BoardState) (limit : Nat) :
    state.olderChat limit ++ state.latestChat limit = state.chatMessages :=
  List.take_append_drop ..

/-- A live feed as it is shown is what is shown of it, and then what is left out. -/
theorem latestFeed_append_olderFeed (state : BoardState) (limit : Nat) :
    state.latestFeed limit ++ state.olderFeed limit = state.shownFeed :=
  List.take_append_drop ..

/-- As many messages are shown as there are, up to the limit. -/
theorem length_latestChat (state : BoardState) (limit : Nat) :
    (state.latestChat limit).length = min limit state.chatMessages.length := by
  -- A limit above the number of messages leaves out none of them.
  rw [latestChat, List.length_drop]
  omega

/-- As many comments are shown as there are, up to the limit. -/
theorem length_latestFeed (state : BoardState) (limit : Nat) :
    (state.latestFeed limit).length = min limit state.liveFeed.length := by
  -- Sorting leaves out none of them either.
  rw [latestFeed, List.length_take, shownFeed, newestFirst, List.length_mergeSort]

end BoardState

open BoardState

namespace Terminal

variable (terminal : Terminal) (state : BoardState) (limit width : Nat) (zone : TimeZone)

/-- A list is printed as its heading, what says that it is empty, and its blocks. -/
theorem titled_eq (heading absence : String) (nothing : Bool) (blocks : List String) :
    titled heading absence nothing blocks =
      heading ++ "\n" ++ (if nothing then "  " ++ absence ++ "\n" else "") ++
        String.join blocks := by
  -- The line that says so is the only one that need not be there.
  cases nothing <;> simp [titled, lines]

/-- A message is printed as a line of when and whom it is from, and its content below. -/
theorem message_eq (message : ChatMessage) :
    terminal.message zone width message =
      "  " ++ terminal.paint .dim (message.createdAt.display zone) ++ " " ++
        terminal.paint .cyan (message.source.getD "User") ++ "\n" ++
        Text.fill message.content (max width 20) "    " ++ "\n" := by
  -- A text is never filled to fewer than twenty columns.
  simp [Terminal.message, lines, filled, leastWidth, ChatMessage.sourceLabel, String.append_assoc]

/-- A comment is printed as a line of when, whom and what task it is from, and its text below. -/
theorem comment_eq (comment : TaskComment) :
    terminal.comment zone width comment =
      "  " ++ terminal.paint .dim (comment.createdAt.display zone) ++ " " ++
        terminal.paint .cyan (comment.agentId.getD "operator") ++ " " ++
        comment.taskId.elim "" ("on " ++ ·) ++ "\n" ++
        comment.message.elim "" (Text.fill · (max width 20) "    " ++ "\n") := by
  -- A comment may come without a text, and then there is nothing below the line.
  cases written : comment.message <;>
    simp [Terminal.comment, written, lines, filled, leastWidth, String.append_assoc]

end Terminal

/--
A list that is cut to so many records shows the newest of them, after any run of actions.

Of the chat, the last messages are printed, as many as there are up to the limit; they stand from
the oldest to the newest, and no message that is left out is newer than one of them. Of the live
feed, so many comments are printed from the newest on, and no comment that is left out is newer than
one of them. Records of one instant stay as they are stored, on either side of the cut.

What is printed is the heading, a line that says so if nothing is stored, and then each of these
records: a line that says when it was made and by whom, and its text below, filled to the width.
-/
theorem Terminal.prints_newest (terminal : Terminal) (boardId : String) (run : List BoardAction)
    (limit width : Nat) (zone : TimeZone) :
    let state := (empty boardId).reduceAll run
    (∃ hidden shown : List ChatMessage,
      terminal.chat state limit width zone =
        terminal.icon .chat ++ terminal.paint .bold "Board chat" ++ "\n" ++
        (if state.chatMessages.isEmpty then
          "  " ++ terminal.paint .dim "No messages yet." ++ "\n" else "") ++
        String.join (shown.map fun message =>
          "  " ++ terminal.paint .dim (message.createdAt.display zone) ++ " " ++
            terminal.paint .cyan (message.source.getD "User") ++ "\n" ++
            Text.fill message.content (max width 20) "    " ++ "\n") ∧
      hidden ++ shown = state.chatMessages ∧
      shown.length = min limit state.chatMessages.length ∧
      (shown.Pairwise fun a b => a.createdAt.le b.createdAt) ∧
      ∀ left ∈ hidden, ∀ message ∈ shown, left.createdAt.le message.createdAt) ∧
    ∃ shown hidden : List TaskComment,
      terminal.liveFeed state limit width zone =
        terminal.icon .live ++ terminal.paint .bold "Live feed" ++ "\n" ++
        (if state.liveFeed.isEmpty then
          "  " ++ terminal.paint .dim "Waiting for new comments…" ++ "\n" else "") ++
        String.join (shown.map fun comment =>
          "  " ++ terminal.paint .dim (comment.createdAt.display zone) ++ " " ++
            terminal.paint .cyan (comment.agentId.getD "operator") ++ " " ++
            comment.taskId.elim "" ("on " ++ ·) ++ "\n" ++
            comment.message.elim "" (Text.fill · (max width 20) "    " ++ "\n")) ∧
      (shown ++ hidden).Perm state.liveFeed ∧
      shown.length = min limit state.liveFeed.length ∧
      (shown.Pairwise fun a b => b.createdAt.le a.createdAt) ∧
      (∀ left ∈ hidden, ∀ comment ∈ shown, left.createdAt.le comment.createdAt) ∧
      ∀ instant, Instant.moment TaskComment.createdAt instant (shown ++ hidden) =
        Instant.moment TaskComment.createdAt instant state.liveFeed := by
  intro state
  constructor
  · -- The chat is in order as it is stored, and what is cut off it stands in front.
    have whole := state.olderChat_append_latestChat limit
    have sorted := inOrder_reduceAll boardId run
    obtain ⟨-, oldest, across⟩ := List.pairwise_append.mp (whole ▸ sorted)
    have printed := funext (terminal.message_eq width zone)
    exact ⟨state.olderChat limit, state.latestChat limit, by rw [chat, titled_eq, printed], whole,
      state.length_latestChat limit, oldest, across⟩
  · -- The feed is put in order first, and what is cut off it comes behind what is shown.
    have whole := state.latestFeed_append_olderFeed limit
    have sorted := state.pairwise_shownFeed
    obtain ⟨newest, -, across⟩ := List.pairwise_append.mp (whole ▸ sorted)
    refine ⟨state.latestFeed limit, state.olderFeed limit, ?_, ?_, state.length_latestFeed limit,
      newest, ?_, ?_⟩
    · -- The notice goes by the feed as it is shown, which is empty just when the stored one is.
      have nothing : state.shownFeed.isEmpty = state.liveFeed.isEmpty :=
        (List.mergeSort_perm ..).isEmpty_eq
      rw [liveFeed, titled_eq, nothing, funext (terminal.comment_eq width zone)]
    · rw [whole]
      exact List.mergeSort_perm ..
    · intro left out comment inside
      exact across comment inside left out
    · intro instant
      -- The sort is stable, so records of one instant stay as they are stored.
      rw [whole]
      exact Instant.moment_mergeSort (Instant.chronological_backwards _) instant state.liveFeed

/-- Clocks that are an hour ahead. -/
def anHourAhead : TimeZone := ⟨fun _ => 3600, by simp⟩

/-- What the latest message and the latest comment say. -/
def tidings : String := "The build is green again"

/-- A message from two hours before midnight in universal time. -/
def saidAtTen : ChatMessage := chatAt "ten" 79200

/-- A message of an agent, from a minute before midnight on the clocks that are ahead. -/
def saidBefore : ChatMessage := { chatAt "before" 82740 with source := some "Bea" }

/-- A message from midnight on those clocks. -/
def saidAtTwelve : ChatMessage := { chatAt "twelve" 82800 with content := tidings }

/-- A comment from the instant of the first message. -/
def wroteAtTen : TaskComment := ⟨"ten", some "t", none, none, startOf 79200⟩

/-- A comment of an agent, without a text, from the instant of the second message. -/
def wroteBefore : TaskComment := ⟨"before", some "t", some "Bea", none, startOf 82740⟩

/-- A comment from the instant of the third message. -/
def wroteAtTwelve : TaskComment := ⟨"twelve", some "t", none, some tidings, startOf 82800⟩

/-- All six of them, neither messages nor comments in the order of creation. -/
def threeOfEach : List BoardAction := [
  .chatReceived saidAtTwelve, .chatReceived saidAtTen, .chatReceived saidBefore,
  .commentReceived wroteBefore, .commentReceived wroteAtTwelve, .commentReceived wroteAtTen]

/-- They stand in the chat in the order of creation, and in the live feed in that of arrival. -/
theorem reduceAll_threeOfEach :
    ((empty "b").reduceAll threeOfEach).chatMessages = [saidAtTen, saidBefore, saidAtTwelve] ∧
    ((empty "b").reduceAll threeOfEach).liveFeed = [wroteAtTen, wroteAtTwelve, wroteBefore] := by
  -- Each message is put at its place when it comes, and each comment in front of the feed.
  simp [threeOfEach, reduceAll, reduce, receiveChat, receiveComment, changeThread, feedComment,
    addComment, liveFeedLimit, sortMessages, List.mergeSort, saidAtTen, saidBefore, saidAtTwelve,
    wroteAtTen, wroteBefore, wroteAtTwelve, chatAt, startOf, Instant.le, empty,
    ChatMessage.isChatTagged]

/-- Of three records the two newest are printed, one from before midnight and one from after it. -/
theorem Terminal.prints_newest_threeOfEach :
    let state := (empty "b").reduceAll threeOfEach
    Terminal.chat ⟨false, true⟩ state 2 0 anHourAhead =
      "🗨️  Board chat\n" ++
      "  Jan 1, 23:59 Bea\n" ++
      "    before\n" ++
      "  Jan 2, 00:00 User\n" ++
      "    The build is\n    green again\n" ∧
    Terminal.liveFeed ⟨false, true⟩ state 2 0 anHourAhead =
      "📡 Live feed\n" ++
      "  Jan 2, 00:00 operator on t\n" ++
      "    The build is\n    green again\n" ++
      "  Jan 1, 23:59 Bea on t\n" := by
  intro state
  obtain ⟨⟨hidden, shown, chat, whole, many, -, -⟩,
    newest, older, feed, same, few, sorted, across, -⟩ :=
    Terminal.prints_newest ⟨false, true⟩ "b" threeOfEach 2 0 anHourAhead
  obtain ⟨said, written⟩ := reduceAll_threeOfEach
  constructor
  · -- The chat holds all three in order, so the one that is hidden is the first of them.
    rw [said] at whole many
    have parts : hidden ++ shown = [saidAtTen] ++ [saidBefore, saidAtTwelve] := whole
    rw [chat, said, (List.append_inj' parts many).2]
    decide +kernel
  · -- No two comments are of one instant, so they can be in order in one way only.
    rw [written] at same few
    -- One of the three is left out, whichever it is.
    obtain ⟨oldest, rfl⟩ : ∃ oldest, older = [oldest] := by
      have size := same.length_eq
      rw [List.length_append, few] at size
      exact List.length_eq_one_iff.mp (Nat.add_left_cancel size)
    have order : (newest ++ [oldest]).Pairwise fun a b => b.createdAt.le a.createdAt :=
      List.pairwise_append.mpr ⟨sorted, List.pairwise_singleton .., fun comment inside left out =>
        across left out comment inside⟩
    have apart : ∀ a ∈ [wroteAtTen, wroteAtTwelve, wroteBefore],
        ∀ b ∈ [wroteAtTwelve, wroteBefore, wroteAtTen],
        b.createdAt.le a.createdAt → a.createdAt.le b.createdAt → a = b := by decide
    -- Two lists of the same records that are both in order are one.
    have parts : newest ++ [oldest] = [wroteAtTwelve, wroteBefore] ++ [wroteAtTen] :=
      (same.trans (by decide)).eq_of_pairwise
        (fun a b first second => apart a (same.subset first) b second) order (by decide)
    rw [feed, written, (List.append_inj' parts rfl).1]
    decide +kernel

end LiveBoard
