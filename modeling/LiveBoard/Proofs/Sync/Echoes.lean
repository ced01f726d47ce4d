import LiveBoard.Proofs.Board.Repeating
import LiveBoard.Proofs.Sync.Changes

/-!
What the server confirmed comes over a feed once more, and changes nothing then.

The answer was taken in by the action of the feed itself. Comments alone have an action of their
own, which changes the open thread only, so that the live feed still waits for the echo.
-/

namespace LiveBoard

/-- The action by which a feed brings what a call was answered with. -/
def Call.echo? {β : Type} : Call β → β → Option BoardAction
  | .createTask .., created => some (.taskUpserted created)
  | .updateTask .., updated => some (.taskUpserted updated)
  | .createComment .., created => some (.commentReceived created)
  -- The counters of a frame are not in the answer.
  | .decideApproval .., decided => some (.approvalUpserted (some decided) none none)
  | .sendChat .., created => some (.chatReceived created)
  | .snapshot _, _ | .deleteTask .., _ | .listComments .., _ => none

/-- Whether a change is a comment on the open task. -/
def Change.posts {α : Type} : Change α → Bool
  | .postComment _ => true
  | _ => false

namespace BoardState

variable {state : BoardState} {action : BoardAction}

/-- What a board with other error slots makes of an action that does not concern them. -/
theorem reduce_withErrors (state : BoardState) (errors : SectionErrors)
    (unmarked : action.marks = false) :
    (state.withErrors errors).reduce action =
      ⟨(state.reduce action).state.withErrors errors, (state.reduce action).refusal⟩ := by
  -- What such an action makes is known part by part, and no part is made of the error slots.
  cases action with
  | taskUpserted patch => rw [reduce_taskUpserted, reduce_taskUpserted]; rfl
  | approvalUpserted approval counts pending =>
    rw [reduce_approvalUpserted, reduce_approvalUpserted]
    rfl
  | agentUpserted patch => rw [reduce_agentUpserted, reduce_agentUpserted]; rfl
  | commentReceived comment => rw [reduce_commentReceived, reduce_commentReceived]; rfl
  | chatReceived message => rw [reduce_chatReceived, reduce_chatReceived]; rfl
  | commentPosted comment =>
    -- A comment that names no task is dropped.
    simp only [reduce, postComment]
    cases comment.taskId <;> rfl
  | taskRemoved taskId => rfl
  | taskStatusChanged taskId status => rfl
  | tasksRestored tasks => rfl
  | commentsLoaded taskId comments => rfl
  | _ => cases unmarked

/-- What an echo does to a board: nothing, or for a comment nothing but to the live feed. -/
def Absorbs (state : BoardState) (echoed : BoardAction) : (posted : Bool) → Prop
  | false => state.Passes echoed
  | true => ∃ comment, echoed = .commentReceived comment ∧
      state.reduce echoed = ⟨{ state with liveFeed := echo comment state.liveFeed }, none⟩

/-- What an echo does to a board does not depend on the error slots. -/
theorem Absorbs.withErrors {posted : Bool} (absorbs : state.Absorbs action posted)
    (errors : SectionErrors) (unmarked : action.marks = false) :
    (state.withErrors errors).Absorbs action posted := by
  cases posted with
  | false => rw [Absorbs, Passes, reduce_withErrors state errors unmarked, absorbs]
  | true =>
    obtain ⟨comment, rfl, fed⟩ := absorbs
    refine ⟨comment, rfl, ?_⟩
    -- The slots are carried past the change of the live feed.
    rw [reduce_withErrors state errors unmarked, fed]
    rfl

/-- A comment that was posted is in the open thread, if it belongs there. -/
theorem heard_postComment (state : BoardState) (comment : TaskComment) :
    Heard (state.postComment comment).detail comment := by
  intro opened shown belongs
  simp only [postComment, belongs, changeThread] at shown
  obtain ⟨before, -, left⟩ := Option.map_eq_some_iff.mp shown
  split at left
  · -- The thread that is open is the one that the comment was put into.
    rw [← left]
    simp [any_addComment]
  · -- The thread of another task would be open under another identifier.
    rename_i other
    exact absurd (congrArg TaskDetail.taskId left) other

/-- The echo of a comment that was posted brings it to the live feed, and does nothing else. -/
theorem absorbs_commentPosted (comment : TaskComment) :
    (state.reduce (.commentPosted comment)).state.Absorbs (.commentReceived comment) true := by
  -- The thread has the comment from its posting, so only the live feed is left to change.
  have heard : hear (state.reduce (.commentPosted comment)).state.detail comment =
      (state.reduce (.commentPosted comment)).state.detail :=
    hear_of_heard (heard_postComment state comment)
  refine ⟨comment, rfl, ?_⟩
  rw [reduce_commentReceived, heard]

/-- A live feed stays as it is when a comment comes that it has, or that names no task. -/
theorem echo_eq_self {comment : TaskComment} {feed : List TaskComment} :
    echo comment feed = feed ↔ comment.taskId = none ∨ ∃ held ∈ feed, held.id = comment.id := by
  unfold echo feedComment addComment
  cases comment.taskId with
  -- A comment that names no task is dropped.
  | none => simp
  | some taskId =>
    simp only [Option.isSome_some, if_true, reduceCtorEq, false_or, List.any_eq_true,
      decide_eq_true_eq]
    constructor
    · intro same
      by_contra missing
      rw [if_neg missing] at same
      -- A feed that begins with the comment has it.
      exact missing ⟨comment, same ▸ List.mem_cons_self, rfl⟩
    · intro held
      rw [if_pos held]

end BoardState

namespace Mutation

variable {α : Type} {action : BoardAction} {store after : BoardStore} {value : α}
  {next : BoardStore → BoardStore × Except SyncError α}

/-- What an accepted action leaves to its echo is left by a change that goes on to a success. -/
theorem absorbs_confirm {echoed : BoardAction} {posted : Bool} (unmarked : echoed.marks = false)
    (absorbs : (store.state.reduce action).refusal = none →
      (store.state.reduce action).state.Absorbs echoed posted)
    (leaves : ∀ later, ∃ errors, (next later).1.state = later.state.withErrors errors)
    (confirmed : confirm action store next = (after, .ok value)) :
    after.state.Absorbs echoed posted := by
  obtain ⟨accepted, gone⟩ := confirm_eq_ok confirmed
  -- All that follows the action is that an error slot may be emptied.
  obtain ⟨errors, left⟩ := leaves (store.apply action)
  rw [gone, BoardStore.apply_state] at left
  rw [left]
  exact (absorbs accepted).withErrors errors unmarked

/-- A change of which the echo does nothing to a board, or for a comment nothing but to its feed. -/
def Absorbs (posted : Bool) : Mutation α → Prop
  | .finished _ _ => True
  | .asking _ call resume => ∀ {heard after payload value echoed},
    call.echo? payload = some echoed → resume heard (.ok payload) = (after, .ok value) →
      after.state.Absorbs echoed posted

section Absorbs

variable (boardId : String) (store : BoardStore)

/-- The creation of a task absorbs its echo. -/
theorem absorbs_createTask (title : String) (description : Option String)
    (priority : TaskPriority) :
    (createTask boardId title description priority store).Absorbs false := by
  unfold createTask
  -- A blank title is refused before anything is asked.
  split
  · trivial
  · intro heard after created value echoed brought confirmed
    obtain rfl := Option.some.inj brought
    dsimp only at confirmed
    split at confirmed
    · -- An answer that names no task is no success.
      cases confirmed
    · exact absorbs_confirm rfl BoardState.passes_taskUpserted (fun later => ⟨_, rfl⟩) confirmed

/-- The edit of a task absorbs its echo. -/
theorem absorbs_updateTask (taskId : String) (update : TaskUpdate) :
    (updateTask boardId taskId update store).Absorbs false := by
  unfold updateTask
  -- A faulty edit, or one of a task that is not held, is refused before anything is asked.
  split
  · trivial
  · split
    · trivial
    · intro heard after updated value echoed brought confirmed
      obtain rfl := Option.some.inj brought
      exact absorbs_confirm rfl BoardState.passes_taskUpserted (fun later => ⟨_, rfl⟩) confirmed

/-- A move absorbs its echo. -/
theorem absorbs_moveTask (taskId : String) (status : TaskStatus) :
    (moveTask boardId taskId status store).Absorbs false := by
  unfold moveTask
  split
  · trivial
  · split
    · trivial
    · intro heard after updated value echoed brought confirmed
      obtain rfl := Option.some.inj brought
      -- What the move showed ahead of the answer is in the store that the answer comes to.
      exact absorbs_confirm rfl BoardState.passes_taskUpserted (fun later => ⟨_, rfl⟩) confirmed

/-- A decision absorbs its echo. -/
theorem absorbs_decideApproval (approvalId : String) (status : ApprovalStatus) :
    (decideApproval boardId approvalId status store).Absorbs false := by
  intro heard after decided value echoed brought confirmed
  obtain rfl := Option.some.inj brought
  -- The approval is only looked up afterwards.
  exact absorbs_confirm rfl BoardState.passes_approvalUpserted (fun later => ⟨_, rfl⟩) confirmed

/-- A comment absorbs its echo, but for the live feed. -/
theorem absorbs_postComment (message : String) :
    (postComment boardId message store).Absorbs true := by
  unfold postComment
  -- A comment needs an open task and a text before anything is asked.
  split
  · trivial
  · split
    · trivial
    · intro heard after created value echoed brought confirmed
      obtain rfl := Option.some.inj brought
      exact absorbs_confirm rfl (fun _ => BoardState.absorbs_commentPosted created)
        (fun later => ⟨_, rfl⟩) confirmed

/-- A message absorbs its echo. -/
theorem absorbs_sendChat (content : String) : (sendChat boardId content store).Absorbs false := by
  unfold sendChat
  -- Blank text is not sent.
  split
  · trivial
  · intro heard after created value echoed brought confirmed
    obtain rfl := Option.some.inj brought
    exact absorbs_confirm rfl (fun _ => BoardState.passes_chatReceived created)
      (fun later => ⟨_, rfl⟩) confirmed

/-- The opening of a task has no echo. -/
theorem absorbs_openTask (taskId : String) : (openTask boardId taskId store).Absorbs false := by
  unfold openTask
  -- No feed brings whole threads.
  split
  · trivial
  · exact fun brought => nomatch brought

/-- Every change absorbs its echo, if it has one. -/
theorem absorbs_start (change : Change α) :
    (change.start boardId store).Absorbs change.posts := by
  cases change with
  | createTask title description priority =>
    exact absorbs_createTask boardId store title description priority
  | updateTask taskId update => exact absorbs_updateTask boardId store taskId update
  | moveTask taskId status => exact absorbs_moveTask boardId store taskId status
  | decideApproval approvalId status =>
    exact absorbs_decideApproval boardId store approvalId status
  | postComment message => exact absorbs_postComment boardId store message
  | sendChat content => exact absorbs_sendChat boardId store content
  | openTask taskId => exact absorbs_openTask boardId store taskId
  -- No feed brings what the others are answered with.
  | deleteTask taskId => exact fun brought => nomatch brought
  | loadSnapshot => exact fun brought => nomatch brought

end Absorbs

end Mutation

/--
The echo of a change that succeeded does nothing to the board, but for that of a comment.

This is so whatever the server answered, and whatever came in before the answer. The echo of a
comment puts the comment in front of the live feed and does nothing else, and not even that if the
live feed has the comment or the comment names no task.
-/
theorem Change.reduce_echo {α β : Type} {change : Change α} {boardId : String}
    {before asked heard after : BoardStore} {call : Call β}
    {resume : BoardStore → Except ApiError β → BoardStore × Except SyncError α}
    {payload : β} {value : α} {echoed : BoardAction}
    (started : change.start boardId before = .asking asked call resume)
    (confirmed : resume heard (.ok payload) = (after, .ok value))
    (brought : call.echo? payload = some echoed) :
    if change.posts then
      ∃ comment, echoed = .commentReceived comment ∧
        after.state.reduce echoed =
          ⟨{ after.state with liveFeed := BoardState.echo comment after.state.liveFeed }, none⟩ ∧
        (after.state.reduce echoed = ⟨after.state, none⟩ ↔
          comment.taskId = none ∨ ∃ held ∈ after.state.liveFeed, held.id = comment.id)
    else after.state.reduce echoed = ⟨after.state, none⟩ := by
  have absorbs := Mutation.absorbs_start boardId before change
  rw [started] at absorbs
  -- The change got through its request, so that what the server sent is taken in by now.
  have absorbed := absorbs brought confirmed
  cases posted : change.posts with
  | false =>
    rw [posted] at absorbed
    exact absorbed
  | true =>
    rw [posted] at absorbed
    obtain ⟨comment, rfl, fed⟩ := absorbed
    refine ⟨comment, rfl, fed, ?_⟩
    rw [fed, ← BoardState.echo_eq_self]
    constructor
    · intro same
      -- Two boards that are the same have the same live feed.
      exact congrArg (fun outcome => outcome.state.liveFeed) same
    · intro same
      rw [same]

/-- A board of one task, which is open and has no comments yet. -/
def openBoard : BoardStore :=
  ⟨{ BoardState.empty "b" with
    tasks := [{ Task.schema.blank with id := "t" }]
    detail := some ⟨"t", []⟩ }, 0⟩

/-- A comment on that task, as the server confirms it. -/
def doneComment : TaskComment := ⟨"c", some "t", none, some "Done.", default⟩

/-- A decision as the server confirms it, with an instant that is not written as it was read. -/
def decision : Patch :=
  [("id", .string "p"), ("status", .string "approved"),
    ("created_at", .string "9999-12-31T23:00:00-02:00")]

/-- The echo of a comment changes the live feed. -/
theorem Change.not_forall_reduce_echo :
    ¬ ∀ (α β : Type) (change : Change α) (boardId : String) (before asked heard after : BoardStore)
      (call : Call β) (resume : BoardStore → Except ApiError β → BoardStore × Except SyncError α)
      (payload : β) (value : α) (echoed : BoardAction),
      change.start boardId before = .asking asked call resume →
      resume heard (.ok payload) = (after, .ok value) → call.echo? payload = some echoed →
        after.state.reduce echoed = ⟨after.state, none⟩ := by
  intro unchanged
  have same := unchanged _ _ (.postComment "Done.") "b" openBoard openBoard openBoard _ _ _
    doneComment doneComment _ rfl rfl rfl
  -- The live feed is empty after the posting, and has the comment after its echo.
  exact absurd (congrArg (fun outcome => outcome.state.liveFeed.length) same) (by decide)

/-- A decision is echoed without a trace, and a comment comes to the live feed by its echo. -/
theorem Change.reduce_echo_decision :
    (∃ asked call resume after value,
      (Change.decideApproval "p" .approved).start "b" openBoard = .asking asked call resume ∧
        resume openBoard (.ok decision) = (after, .ok value) ∧
        call.echo? decision = some (.approvalUpserted (some decision) none none) ∧
        after.state.approvals ≠ openBoard.state.approvals ∧
        after.state.reduce (.approvalUpserted (some decision) none none) = ⟨after.state, none⟩) ∧
    ∃ asked call resume after value,
      (Change.postComment "Done.").start "b" openBoard = .asking asked call resume ∧
        resume openBoard (.ok doneComment) = (after, .ok value) ∧
        call.echo? doneComment = some (.commentReceived doneComment) ∧
        after.state.reduce (.commentReceived doneComment) =
          ⟨{ after.state with liveFeed := [doneComment] }, none⟩ := by
  refine ⟨⟨_, _, _, _, _, rfl, rfl, rfl, by decide, ?_⟩, ⟨_, _, _, _, _, rfl, rfl, rfl, ?_⟩⟩
  · exact @Change.reduce_echo _ _ (.decideApproval "p" .approved) "b" openBoard _ openBoard _ _ _
      decision _ _ rfl rfl rfl
  · obtain ⟨comment, same, fed, -⟩ := @Change.reduce_echo _ _ (.postComment "Done.") "b" openBoard
      _ openBoard _ _ _ doneComment _ _ rfl rfl rfl
    obtain rfl := BoardAction.commentReceived.inj same
    exact fed

end LiveBoard
