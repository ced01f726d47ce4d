import LiveBoard.Proofs.Board.Effects
import Mathlib.Data.List.Perm.Subperm

/-! What holds of a board in every state that a run can reach. -/

namespace LiveBoard

/-- No two records of one kind in a snapshot carry the same identifier. -/
structure Snapshot.Distinct (snapshot : Snapshot) : Prop where
  tasks : (snapshot.tasks.map (·.id)).Nodup
  agents : (snapshot.agents.map (·.id)).Nodup
  approvals : (snapshot.approvals.map (·.id)).Nodup
  messages : (snapshot.chatMessages.map (·.id)).Nodup

/-- What an action may bring once a run has passed through some states. -/
def BoardAction.Allowed (earlier : List BoardState) : BoardAction → Prop
  | .snapshotLoaded snapshot => snapshot.Distinct
  | .commentsLoaded _ comments => (comments.map (·.id)).Nodup
  -- A change that failed puts back a list that the board once had.
  | .tasksRestored tasks => ∃ state ∈ earlier, state.tasks = tasks
  | _ => True

namespace BoardState

/-- Messages stand in the order of their creation. -/
def InOrder (messages : List ChatMessage) : Prop :=
  messages.Pairwise fun a b => a.createdAt.le b.createdAt

/-- What a board keeps whatever happens to it. -/
structure Sound (state : BoardState) : Prop where
  tasks : (state.tasks.map (·.id)).Nodup
  agents : (state.agents.map (·.id)).Nodup
  approvals : (state.approvals.map (·.id)).Nodup
  messages : (state.chatMessages.map (·.id)).Nodup
  feed : (state.liveFeed.map (·.id)).Nodup
  thread : ∀ detail ∈ state.detail, (detail.comments.map (·.id)).Nodup
  short : state.liveFeed.length ≤ 50
  named : ∀ comment ∈ state.liveFeed, comment.taskId.isSome
  ordered : InOrder state.chatMessages

/-- A board of which nothing is known is sound. -/
theorem sound_empty (boardId : String) : (empty boardId).Sound := by
  -- There is nothing in it that could carry an identifier twice.
  constructor <;> simp [empty, InOrder]

/-- Errors do not count. -/
theorem sound_setError {state : BoardState} (sound : state.Sound) (part : Section)
    (slot : Option String) : (state.setError part slot).Sound :=
  { sound with }

section Lists

/-- Sorted messages stand in the order of their creation. -/
theorem inOrder_sortMessages (messages : List ChatMessage) : InOrder (sortMessages messages) := by
  -- The order of instants is total and transitive, which is all that sorting asks for.
  have trans : ∀ a b c : ChatMessage, a.createdAt.le b.createdAt → b.createdAt.le c.createdAt →
      a.createdAt.le c.createdAt := fun _ _ _ => Instant.le_trans
  have total : ∀ a b : ChatMessage, a.createdAt.le b.createdAt || b.createdAt.le a.createdAt :=
    fun a b => by simpa using Instant.le_total a.createdAt b.createdAt
  exact List.pairwise_mergeSort trans total messages

/-- Sorting keeps identifiers distinct. -/
theorem nodup_sortMessages {messages : List ChatMessage}
    (distinct : (messages.map (·.id)).Nodup) : ((sortMessages messages).map (·.id)).Nodup :=
  ((List.mergeSort_perm messages _).map _).nodup_iff.mpr distinct

/-- A comment that is put into a list, among those that were there, keeps identifiers distinct. -/
theorem nodup_addComment (place : List TaskComment → List TaskComment) {comment : TaskComment}
    {comments : List TaskComment} (placed : (place comments).Subperm (comment :: comments))
    (distinct : (comments.map (·.id)).Nodup) :
    ((addComment place comment comments).map (·.id)).Nodup := by
  unfold addComment
  -- A comment is put in only if no other one has its identifier.
  split
  · exact distinct
  · rename_i new
    -- Without a comment of its identifier, the new one is the only one that carries it.
    have absent : comment.id ∉ comments.map (·.id) := by
      simpa [List.any_eq_true] using new
    obtain ⟨middle, same, within⟩ := placed
    have whole : ((comment :: comments).map (·.id)).Nodup := List.nodup_cons.mpr ⟨absent, distinct⟩
    exact (same.map _).nodup_iff.mp ((within.map _).nodup whole)

/-- What is in a list after a comment was put into it is that comment or was there before. -/
theorem mem_of_mem_addComment (place : List TaskComment → List TaskComment)
    {comment other : TaskComment} {comments : List TaskComment}
    (placed : (place comments).Subperm (comment :: comments))
    (member : other ∈ addComment place comment comments) : other = comment ∨ other ∈ comments := by
  unfold addComment at member
  split at member
  · exact .inr member
  · exact List.mem_cons.mp (placed.subset member)

end Lists

section Parts

variable {state : BoardState} (sound : state.Sound)
include sound

/-- Another task list with distinct identifiers keeps a board sound. -/
theorem Sound.withTasks {tasks : List Task} (distinct : (tasks.map (·.id)).Nodup) :
    Sound { state with tasks := tasks } :=
  { sound with tasks := distinct }

/-- Another open task, with a thread of distinct identifiers, keeps a board sound. -/
theorem Sound.withDetail {detail : Option TaskDetail}
    (distinct : ∀ opened ∈ detail, (opened.comments.map (·.id)).Nodup) :
    Sound { state with detail := detail } :=
  { sound with thread := distinct }

/-- A step that may be refused keeps a board sound when it does so unless it is refused. -/
theorem Sound.attempt {next : Except Refusal BoardState}
    (kept : ∀ later, next = .ok later → later.Sound) : (attempt state next).state.Sound := by
  -- Refused, the step leaves the state that was sound before.
  cases next with
  | error refusal => exact sound
  | ok later => exact kept later rfl

/-- A change of the open thread that keeps its identifiers distinct keeps a board sound. -/
theorem Sound.changeThread {taskId : String} {change : List TaskComment → List TaskComment}
    (kept : ∀ comments, (comments.map (·.id)).Nodup → ((change comments).map (·.id)).Nodup) :
    (state.changeThread taskId change).Sound := by
  refine sound.withDetail fun detail member => ?_
  -- The thread that is open now is the one that was open, changed or not.
  obtain ⟨before, opened, rfl⟩ := Option.map_eq_some_iff.mp member
  have distinct := sound.thread before opened
  split
  · exact kept before.comments distinct
  · exact distinct

/-- A snapshot without repeated identifiers keeps a board sound. -/
theorem Sound.loadSnapshot {snapshot : Snapshot} (distinct : snapshot.Distinct) :
    (state.loadSnapshot snapshot).Sound := by
  -- Clearing the errors of three sections comes last, and errors do not count.
  refine sound_setError (sound_setError (sound_setError ?_ ..) ..) ..
  exact { sound with
    tasks := distinct.tasks
    agents := distinct.agents
    approvals := distinct.approvals
    messages := nodup_sortMessages distinct.messages
    ordered := inOrder_sortMessages snapshot.chatMessages }

/-- A comment from the feed keeps a board sound. -/
theorem Sound.receiveComment (comment : TaskComment) : (state.receiveComment comment).Sound := by
  unfold BoardState.receiveComment
  -- A comment that names no task is dropped, and any other may go into thread and feed.
  cases named : comment.taskId with
  | none => exact sound
  | some taskId =>
    have threaded : (state.changeThread taskId (addComment (· ++ [comment]) comment)).Sound :=
      sound.changeThread fun comments =>
        nodup_addComment _ (List.perm_append_singleton comment comments).subperm
    -- The feed is cut after the comment went in front, so it holds no more than its limit.
    have placed : ((comment :: state.liveFeed).take liveFeedLimit).Subperm
        (comment :: state.liveFeed) := (List.take_sublist ..).subperm
    let place : List TaskComment → List TaskComment := fun feed =>
      (comment :: feed).take liveFeedLimit
    refine { threaded with feed := ?_, short := ?_, named := ?_ }
    · exact nodup_addComment place placed sound.feed
    · change (feedComment comment state.liveFeed).length ≤ 50
      unfold feedComment addComment
      split
      · exact sound.short
      · exact List.length_take_le ..
    · intro other member
      rcases mem_of_mem_addComment place placed member with rfl | held
      · simp [named]
      · exact sound.named other held

/-- A message keeps a board sound. -/
theorem Sound.receiveChat (message : ChatMessage) : (state.receiveChat message).Sound := by
  unfold BoardState.receiveChat
  split
  · exact sound
  · rename_i new
    -- Only a message of a new identifier is taken in, and then all are sorted.
    simp only [Bool.or_eq_true, Bool.not_eq_true', not_or, List.any_eq_true, not_exists] at new
    have absent : message.id ∉ state.chatMessages.map (·.id) := by
      simpa using new.2
    have distinct : ((state.chatMessages ++ [message]).map (·.id)).Nodup := by
      refine ((List.perm_append_singleton message state.chatMessages).map _).nodup_iff.mpr ?_
      exact List.nodup_cons.mpr ⟨absent, sound.messages⟩
    exact { sound with
      messages := nodup_sortMessages distinct
      ordered := inOrder_sortMessages _ }

/-- An approval frame keeps a board sound. -/
theorem Sound.receiveApproval (approval : Option Patch) (counts : Option TaskCounts)
    (pending : Option UInt32) :
    (state.receiveApproval approval counts pending).state.Sound := by
  rw [receiveApproval_eq]
  refine sound.attempt fun later done => ?_
  obtain ⟨approvals, upserted, rfl⟩ := exists_of_map_eq_ok done
  refine { sound with tasks := ?_, approvals := ?_ }
  · -- Counters change tasks in place, so that the identifiers of the tasks stay as they are.
    cases counts.bind TaskCounts.named? with
    | none => exact sound.tasks
    | some named => exact TaskCounts.changes.nodup_alter sound.tasks named
  · -- A frame that brings no approval leaves them as they are.
    cases approval with
    | none => exact Except.ok.inj upserted ▸ sound.approvals
    | some patch => exact Approval.merging_lawful.nodup_upsert upserted sound.approvals

end Parts

/-! ## Runs -/

/-- Every action keeps a board sound, if what it brings is allowed after states that were sound. -/
theorem sound_reduce {state : BoardState} (sound : state.Sound) {earlier : List BoardState}
    (before : ∀ other ∈ earlier, other.Sound) {action : BoardAction}
    (allowed : action.Allowed earlier) : (state.reduce action).state.Sound := by
  cases action with
  | snapshotLoaded snapshot => exact sound.loadSnapshot allowed
  | snapshotFailed message =>
    exact sound_setError (sound_setError (sound_setError sound ..) ..) ..
  | taskUpserted patch =>
    refine sound.attempt fun later done => ?_
    obtain ⟨tasks, upserted, rfl⟩ := exists_of_map_eq_ok done
    exact sound.withTasks ((Task.merging_lawful _).nodup_upsert upserted sound.tasks)
  | taskRemoved taskId =>
    -- What is left of the tasks, and of the open one, was there before.
    have tasks : ((state.tasks.filter (·.id ≠ taskId)).map (·.id)).Nodup :=
      (List.filter_sublist.map _).nodup sound.tasks
    exact (sound.withTasks tasks).withDetail fun opened member =>
      sound.thread opened (Option.mem_filter_iff.mp member).1
  | taskStatusChanged taskId status =>
    refine sound.withTasks ?_
    rw [Keyed.map_replaceFirst_of_keeps _ fun task => moveTask_id status task]
    exact sound.tasks
  | tasksRestored tasks =>
    obtain ⟨other, member, rfl⟩ := allowed
    exact sound.withTasks (before other member).tasks
  | taskOpened taskId =>
    simp only [reduce, openTask]
    split
    · refine sound_setError (sound_setError (sound.withDetail fun opened member => ?_) ..) ..
      -- A thread that was just opened is empty.
      obtain rfl := Option.some.inj member
      exact List.nodup_nil
    · exact sound
  | taskClosed =>
    refine sound_setError (sound_setError (sound.withDetail fun opened member => ?_) ..) ..
    cases member
  | commentsLoaded taskId comments => exact sound.changeThread fun _ _ => allowed
  | commentReceived comment => exact sound.receiveComment comment
  | commentPosted comment =>
    simp only [reduce, postComment]
    split
    · exact sound
    · exact sound.changeThread fun comments => nodup_addComment _ (.refl _)
  | approvalUpserted approval counts pending => exact sound.receiveApproval approval counts pending
  | agentUpserted patch =>
    refine sound.attempt fun later done => ?_
    obtain ⟨agents, upserted, rfl⟩ := exists_of_map_eq_ok done
    exact { sound with agents := Agent.merging_lawful.nodup_upsert upserted sound.agents }
  | chatReceived message => exact sound.receiveChat message
  | sectionFailed part message => exact sound_setError sound part _
  | sectionCleared part => exact sound_setError sound part _

/-- The states that a run passes through, from its start to its end. -/
def states (state : BoardState) : List BoardAction → List BoardState
  | [] => [state]
  | action :: run => state :: states (state.reduce action).state run

/-- Every action of a run is allowed after the states before it, the latest of which comes first. -/
def Allows (earlier : List BoardState) (state : BoardState) : List BoardAction → Prop
  | [] => True
  | action :: run =>
    action.Allowed (state :: earlier) ∧ Allows (state :: earlier) (state.reduce action).state run

/-- A run whose actions are allowed passes through sound states when it starts from one. -/
theorem sound_of_allows {earlier : List BoardState} {state : BoardState} {run : List BoardAction}
    (before : ∀ other ∈ earlier, other.Sound) (sound : state.Sound)
    (allowed : state.Allows earlier run) : ∀ visited ∈ state.states run, visited.Sound := by
  -- The states passed through are all sound, so each list that is put back is one of theirs.
  induction run generalizing earlier state with
  | nil => simpa [states] using sound
  | cons action run ih =>
    obtain ⟨first, rest⟩ := allowed
    have reached : ∀ other ∈ state :: earlier, other.Sound := by
      simpa using ⟨sound, before⟩
    intro visited member
    rcases List.mem_cons.mp member with rfl | later
    · exact sound
    · exact ih reached (sound_reduce sound reached first) rest visited later

/--
A board is sound in every state that a run from nothing passes through.

The run may hold actions of every kind, refused ones among them, as long as what it loads repeats no
identifier and each task list that it puts back is one that the board once had.
-/
theorem sound_states {boardId : String} {run : List BoardAction}
    (allowed : (empty boardId).Allows [] run) : ∀ state ∈ (empty boardId).states run, state.Sound :=
  sound_of_allows (by simp) (sound_empty boardId) allowed

/-- A board that is loaded, changed by a patch that is refused and one that is not, and put back. -/
def loadedAndPutBack : List BoardAction :=
  [.chatReceived ⟨"m", none, "early", ["chat"], none, true, default⟩,
    .snapshotLoaded ⟨Board.schema.blank, [{ Task.schema.blank with id := "t" }], [], [],
      [⟨"n", none, "first", [], none, false, default⟩,
        ⟨"m", none, "early", ["chat"], none, true, default⟩], 0⟩,
    .taskUpserted [("title", .string "lost")],
    .taskUpserted [("id", .string "u")],
    .taskOpened "u",
    .commentReceived ⟨"c", some "u", none, none, default⟩,
    .commentReceived ⟨"c", some "u", none, none, default⟩,
    .tasksRestored [{ Task.schema.blank with id := "t" }]]

/-- A comment that comes twice is kept once, and a task list is put back, on a sound board. -/
theorem sound_states_loadedAndPutBack :
    (∀ state ∈ (empty "b").states loadedAndPutBack, state.Sound) ∧
      ((empty "b").reduceAll loadedAndPutBack).tasks.map (·.id) = ["t"] ∧
      ((empty "b").reduceAll loadedAndPutBack).liveFeed.map (·.id) = ["c"] := by
  have allowed : (empty "b").Allows [] loadedAndPutBack := by
    -- The list that is put back is that of the state after the snapshot, five states ago.
    have loaded : ((empty "b").reduceAll (loadedAndPutBack.take 2)).tasks =
        [{ Task.schema.blank with id := "t" }] := rfl
    exact ⟨trivial, ⟨by decide, by decide, by decide, by decide⟩, trivial, trivial, trivial,
      trivial, trivial, ⟨_, List.mem_of_getElem? (i := 5) rfl, loaded⟩, trivial⟩
  exact ⟨sound_states allowed, by decide, by decide⟩

end BoardState

end LiveBoard
