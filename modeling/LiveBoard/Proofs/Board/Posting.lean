import LiveBoard.Board.View
import LiveBoard.Proofs.Board.Invariant
import LiveBoard.Proofs.Instant.Sorting

/-!
A comment that is posted, and comes over the feed before or after it is confirmed.

The confirmation puts the comment at the front of the open thread and the feed at its end, so the
two orders leave threads that differ in the place of the comment alone. As threads are shown from
the newest comment on, this place shows only among comments of the same instant.
-/

namespace LiveBoard

/-- The same task is open, with the same comments in some order. -/
def TaskDetail.Reordered (opened other : TaskDetail) : Prop :=
  opened.taskId = other.taskId ∧ opened.comments.Perm other.comments

namespace BoardState

/-- The open task with a comment put somewhere in its thread, if it belongs there and is new. -/
def hearAt (place : List TaskComment → List TaskComment) (comment : TaskComment)
    (detail : Option TaskDetail) : Option TaskDetail :=
  detail.map fun opened =>
    if comment.taskId = some opened.taskId then
      { opened with comments := addComment place comment opened.comments }
    else opened

/-- What the feed brings goes to the end of the open thread. -/
theorem hear_eq_hearAt (detail : Option TaskDetail) (comment : TaskComment) :
    hear detail comment = hearAt (· ++ [comment]) comment detail := rfl

/-- A comment that was confirmed goes to the front of the open thread. -/
theorem reduce_commentPosted (state : BoardState) (comment : TaskComment) :
    state.reduce (.commentPosted comment) =
      ⟨{ state with detail := hearAt (comment :: ·) comment state.detail }, none⟩ := by
  cases named : comment.taskId with
  | none =>
    -- A comment that names no task belongs to no thread.
    simp only [reduce, postComment, hearAt, named]
    cases held : state.detail <;> simp [← held]
  | some taskId =>
    simp only [reduce, postComment, hearAt, named, changeThread, Option.some.injEq, eq_comm]

section Thread

variable {place other : List TaskComment → List TaskComment} {comment : TaskComment}
  {comments : List TaskComment} (placed : (place comments).Perm (comment :: comments))
include placed

/-- A comment that was put into a list is not put there once more, wherever it would go. -/
theorem addComment_addComment :
    addComment other comment (addComment place comment comments) =
      addComment place comment comments := by
  -- The second time it is found by its identifier, so its place does not matter.
  have held : (addComment place comment comments).any (·.id = comment.id) := by
    simp [any_addComment placed]
  rw [addComment, if_pos held]

/-- A comment that was put among comments of distinct identifiers is there exactly once. -/
theorem count_addComment (distinct : (comments.map (·.id)).Nodup) :
    ((addComment place comment comments).map (·.id)).count comment.id = 1 := by
  -- It is there at least once, and no identifier is there twice.
  have whole := nodup_addComment place placed.subperm distinct
  have held : (addComment place comment comments).any (·.id = comment.id) := by
    simp [any_addComment placed]
  have member : comment.id ∈ (addComment place comment comments).map (·.id) := by
    simpa [List.any_eq_true] using held
  exact List.count_eq_one_of_mem whole member

/-- The same comments are there wherever a comment was put. -/
theorem addComment_perm (also : (other comments).Perm (comment :: comments)) :
    (addComment place comment comments).Perm (addComment other comment comments) := by
  unfold addComment
  split
  · -- Either it was there before and both keep the list, or both lists have the same members.
    exact .refl comments
  · exact placed.trans also.symm

end Thread

/-- A comment that was put into the open thread is not put there once more. -/
theorem hearAt_hearAt {place : List TaskComment → List TaskComment} {comment : TaskComment}
    (placed : ∀ comments, (place comments).Perm (comment :: comments))
    (other : List TaskComment → List TaskComment) (detail : Option TaskDetail) :
    hearAt other comment (hearAt place comment detail) = hearAt place comment detail := by
  rw [hearAt, hearAt, Option.map_map]
  -- Only a thread that the comment belongs to could have changed twice.
  refine congrArg (Option.map · detail) (funext fun opened => ?_)
  by_cases belongs : comment.taskId = some opened.taskId
  · simp [belongs, addComment_addComment (placed opened.comments)]
  · simp [belongs]

/-- A thread is shown the same with a comment at either end when no other one is as old. -/
theorem newestFirst_addComment {comment : TaskComment} {comments : List TaskComment}
    (apart : ∀ other ∈ comments, other.id ≠ comment.id → other.createdAt ≠ comment.createdAt) :
    newestFirst (addComment (comment :: ·) comment comments) =
      newestFirst (addComment (· ++ [comment]) comment comments) := by
  unfold addComment
  split
  · rfl
  · rename_i new
    -- The comment is new, so every comment of the thread is another one.
    have alone : ∀ other ∈ comments, other.createdAt ≠ comment.createdAt := by
      intro other member
      refine apart other member fun same => new ?_
      exact List.any_eq_true.mpr ⟨other, member, by simp [same]⟩
    refine Instant.mergeSort_eq_of_moments (Instant.chronological_backwards TaskComment.createdAt)
      fun instant => ?_
    by_cases own : comment.createdAt = instant
    · subst own
      have none : comments.filter (·.createdAt = comment.createdAt) = [] :=
        List.filter_eq_nil_iff.mpr fun other member => by simpa using alone other member
      simp [Instant.moment, none]
    · simp [Instant.moment, own]

/-- The same comments are in the open thread wherever a comment was put. -/
theorem hearAt_reordered {place other : List TaskComment → List TaskComment}
    {comment : TaskComment} (placed : ∀ comments, (place comments).Perm (comment :: comments))
    (also : ∀ comments, (other comments).Perm (comment :: comments))
    (detail : Option TaskDetail) :
    Option.Rel TaskDetail.Reordered (hearAt place comment detail)
      (hearAt other comment detail) := by
  cases detail with
  | none => exact .none
  | some opened =>
    refine .some ?_
    -- The thread of another task is the same on both sides.
    by_cases belongs : comment.taskId = some opened.taskId
    · simp only [if_pos belongs]
      exact ⟨rfl, addComment_perm (placed opened.comments) (also opened.comments)⟩
    · simp only [if_neg belongs]
      exact ⟨rfl, .refl opened.comments⟩

variable (state : BoardState) (comment : TaskComment)

/-- A comment that is confirmed before it comes over the feed stays at the front of its thread. -/
theorem reduceAll_posted_received :
    state.reduceAll [.commentPosted comment, .commentReceived comment] =
      { state with
        detail := hearAt (comment :: ·) comment state.detail
        liveFeed := echo comment state.liveFeed } := by
  -- The thread has the comment by the time it comes over the feed.
  have held : hear (hearAt (comment :: ·) comment state.detail) comment =
      hearAt (comment :: ·) comment state.detail :=
    hearAt_hearAt (fun _ => .refl _) (· ++ [comment]) state.detail
  simp only [reduceAll, List.foldl_cons, List.foldl_nil, reduce_commentPosted,
    reduce_commentReceived, held]

/-- A comment that comes over the feed before it is confirmed stays at the end of its thread. -/
theorem reduceAll_received_posted :
    state.reduceAll [.commentReceived comment, .commentPosted comment] =
      { state with
        detail := hearAt (· ++ [comment]) comment state.detail
        liveFeed := echo comment state.liveFeed } := by
  -- The other way about: the thread has the comment by the time it is confirmed.
  have held : hearAt (comment :: ·) comment (hear state.detail comment) =
      hearAt (· ++ [comment]) comment state.detail :=
    hearAt_hearAt (fun comments => List.perm_append_singleton comment comments) (comment :: ·)
      state.detail
  simp only [reduceAll, List.foldl_cons, List.foldl_nil, reduce_commentPosted,
    reduce_commentReceived, held]

/-- A comment that was put into its own thread of distinct identifiers is there exactly once. -/
theorem exists_hearAt_once {place : List TaskComment → List TaskComment}
    (placed : ∀ comments, (place comments).Perm (comment :: comments)) {opened : TaskDetail}
    (held : opened ∈ state.detail) (belongs : comment.taskId = some opened.taskId)
    (distinct : (opened.comments.map (·.id)).Nodup) :
    ∃ shown ∈ hearAt place comment state.detail, shown.taskId = opened.taskId ∧
      (shown.comments.map (·.id)).count comment.id = 1 := by
  refine ⟨{ opened with comments := addComment place comment opened.comments }, ?_, rfl,
    count_addComment (placed opened.comments) distinct⟩
  rw [hearAt, Option.mem_def.mp held, Option.map_some, if_pos belongs]
  rfl

/-- The open thread is shown the same with a comment at either end if no other one is as old. -/
theorem openThread_hearAt
    (apart : ∀ opened ∈ state.detail, comment.taskId = some opened.taskId →
      ∀ other ∈ opened.comments, other.id ≠ comment.id → other.createdAt ≠ comment.createdAt) :
    openThread { state with detail := hearAt (comment :: ·) comment state.detail } =
      openThread { state with detail := hearAt (· ++ [comment]) comment state.detail } := by
  simp only [openThread, hearAt]
  cases held : state.detail with
  | none => rfl
  | some opened =>
    simp only [Option.map_some, Option.elim_some]
    by_cases belongs : comment.taskId = some opened.taskId
    · simp only [if_pos belongs]
      exact newestFirst_addComment (apart opened held belongs)
    · simp only [if_neg belongs]

/--
A comment may be confirmed before or after it comes over the feed.

Either way the boards are the same but for the order of the open thread, in which the comment is
once if it belongs there and the thread had no identifier twice. The thread is even shown the same
unless another comment in it is just as old.
-/
theorem reduceAll_confirmed_either_way (state : BoardState) (comment : TaskComment) :
    let confirmed := state.reduceAll [.commentPosted comment, .commentReceived comment]
    let echoed := state.reduceAll [.commentReceived comment, .commentPosted comment]
    confirmed.liveFeed = echoed.liveFeed ∧
      { confirmed with detail := echoed.detail } = echoed ∧
      Option.Rel TaskDetail.Reordered confirmed.detail echoed.detail ∧
      (∀ opened ∈ state.detail, comment.taskId = some opened.taskId →
        (opened.comments.map (·.id)).Nodup → ∀ after ∈ [confirmed, echoed],
          ∃ shown ∈ after.detail, shown.taskId = opened.taskId ∧
            (shown.comments.map (·.id)).count comment.id = 1) ∧
      ((∀ opened ∈ state.detail, comment.taskId = some opened.taskId →
        ∀ other ∈ opened.comments, other.id ≠ comment.id →
          other.createdAt ≠ comment.createdAt) →
        confirmed.openThread = echoed.openThread) := by
  intro confirmed echoed
  -- Both runs in closed form: they differ in where the thread takes the comment in.
  have front : confirmed = _ := reduceAll_posted_received state comment
  have back : echoed = _ := reduceAll_received_posted state comment
  have placed : ∀ comments, (comments ++ [comment]).Perm (comment :: comments) :=
    fun comments => List.perm_append_singleton comment comments
  rw [front, back]
  refine ⟨rfl, rfl, hearAt_reordered (fun _ => .refl _) placed state.detail, ?_,
    openThread_hearAt state comment⟩
  intro opened held belongs distinct after member
  simp only [List.mem_cons, List.not_mem_nil, or_false] at member
  -- The two places are a front and an end, and neither puts in more than the one comment.
  rcases member with rfl | rfl
  · exact exists_hearAt_once state comment (fun _ => .refl _) held belongs distinct
  · exact exists_hearAt_once state comment placed held belongs distinct

/-- A comment on a task. -/
def question : TaskComment := ⟨"c", some "t", none, some "done?", default⟩

/-- A later one. -/
def reply : TaskComment := ⟨"d", some "t", none, some "done.", ⟨60, 0, by decide⟩⟩

/-- A board on which the task is open, with the first comment in its thread. -/
def askedBoard : BoardState := { empty "b" with detail := some ⟨"t", [question]⟩ }

/-- A later comment is shown first and counted once, though it stands at either end. -/
theorem reduceAll_confirmed_either_way_reply :
    let confirmed := askedBoard.reduceAll [.commentPosted reply, .commentReceived reply]
    let echoed := askedBoard.reduceAll [.commentReceived reply, .commentPosted reply]
    confirmed.detail ≠ echoed.detail ∧ confirmed.openThread = echoed.openThread ∧
      ∃ shown ∈ echoed.detail, (shown.comments.map (·.id)).count "d" = 1 := by
  intro confirmed echoed
  -- The reply is a minute later than the only other comment, so the threads are shown the same.
  obtain ⟨_, _, _, once, shown⟩ := reduceAll_confirmed_either_way askedBoard reply
  have apart : ∀ opened ∈ askedBoard.detail, reply.taskId = some opened.taskId →
      ∀ other ∈ opened.comments, other.id ≠ reply.id →
        other.createdAt ≠ reply.createdAt := by
    decide
  obtain ⟨thread, held, _, counted⟩ :=
    once ⟨"t", [question]⟩ rfl rfl (by decide) echoed (by simp [echoed])
  exact ⟨by decide, shown apart, thread, held, counted⟩

end BoardState

end LiveBoard
