import LiveBoard.Proofs.Board.Posting
import LiveBoard.Proofs.Board.Threads
import LiveBoard.Proofs.Sync.Changes
import LiveBoard.Proofs.Sync.Rollback
import Mathlib.Logic.Relation

/-!
Any number of changes that wait for their answers while the board goes on.

Whatever lands in whatever order, the open thread holds comments on the open task alone, as long as
the server answers a request for a thread with comments on its task.
-/

namespace LiveBoard

/-- A thread that an action brings holds comments on its task alone. -/
def BoardAction.Proper : BoardAction → Prop
  | .commentsLoaded taskId comments => ∀ comment ∈ comments, comment.taskId = some taskId
  | _ => True

/-- A thread that a call is answered with holds comments on its task alone. -/
def Call.Proper {β : Type} : Call β → Except ApiError β → Prop
  | .listComments _ taskId, .ok comments => ∀ comment ∈ comments, comment.taskId = some taskId
  | _, _ => True

/-- The task whose thread a call asks for. -/
def Call.thread? {β : Type} : Call β → Option String
  | .listComments _ taskId => some taskId
  | _ => none

/-- A change that waits for its answer. -/
structure Waiting where
  {α : Type}
  {β : Type}
  call : Call β
  resume : BoardStore → Except ApiError β → BoardStore × Except SyncError α

/-- A board with the changes that wait for their answers. -/
structure Desk where
  store : BoardStore
  waiting : List Waiting

/-- What may happen next to a board, while any number of changes wait for their answers. -/
inductive Desk.Step : Desk → Desk → Prop where
  /-- An action lands on its own: what a feed brings, a reload, the closing of a task. -/
  | landed {desk : Desk} {action : BoardAction} :
    action.Proper → Step desk { desk with store := desk.store.apply action }
  /-- A change comes to its end without a request. -/
  | finished {desk : Desk} {α : Type} {change : Change α} {boardId : String} {store : BoardStore}
    {result : Except SyncError α} :
    change.start boardId desk.store = .finished store result →
      Step desk { desk with store := store }
  /-- A change makes its request. -/
  | asked {desk : Desk} {α β : Type} {change : Change α} {boardId : String} {store : BoardStore}
    {call : Call β} {resume : BoardStore → Except ApiError β → BoardStore × Except SyncError α} :
    change.start boardId desk.store = .asking store call resume →
      Step desk ⟨store, ⟨call, resume⟩ :: desk.waiting⟩
  /-- The answer of any request that is out comes in, and its change goes on. -/
  | answered {store : BoardStore} {before after : List Waiting} {waiting : Waiting}
    {reply : Except ApiError waiting.β} :
    waiting.call.Proper reply →
      Step ⟨store, before ++ waiting :: after⟩ ⟨(waiting.resume store reply).1, before ++ after⟩

/-! ## All that a change does it does by actions -/

/-- A store that proper actions make of another one. -/
def BoardStore.Makes (before after : BoardStore) : Prop :=
  ∃ actions : List BoardAction, (∀ action ∈ actions, action.Proper) ∧
    after = before.applyAll actions

namespace BoardStore

variable {before between after : BoardStore}

/-- Every store makes itself. -/
theorem Makes.refl (store : BoardStore) : store.Makes store :=
  ⟨[], by simp, rfl⟩

/-- What is made in two goes is made. -/
theorem Makes.trans (first : before.Makes between) (second : between.Makes after) :
    before.Makes after := by
  obtain ⟨actions, proper, rfl⟩ := first
  -- The actions of the second go come after those of the first.
  obtain ⟨more, also, rfl⟩ := second
  refine ⟨actions ++ more, fun action member => ?_, by simp [applyAll]⟩
  exact (List.mem_append.mp member).elim (proper action) (also action)

/-- A proper action makes what it leaves. -/
theorem makes_apply (store : BoardStore) (action : BoardAction) (proper : action.Proper) :
    store.Makes (store.apply action) :=
  ⟨[action], by simpa using proper, rfl⟩

end BoardStore

namespace Mutation

variable {α : Type}

/-- A failure is shown in a section by an action. -/
theorem makes_fail (part : Section) (error : SyncError) (store : BoardStore) :
    store.Makes (fail part error store : BoardStore × Except SyncError α).1 :=
  store.makes_apply (.sectionFailed part error.message) trivial

/-- The slot of a section is emptied by an action. -/
theorem makes_clear (part : Section) (store : BoardStore) : store.Makes (clear part store) :=
  store.makes_apply (.sectionCleared part) trivial

/-- An action, and what goes on from it by actions, is made by actions, refused or not. -/
theorem makes_confirm {action : BoardAction} {store : BoardStore}
    {next : BoardStore → BoardStore × Except SyncError α} (proper : action.Proper)
    (rest : ∀ later : BoardStore, later.Makes (next later).1) :
    store.Makes (confirm action store next).1 := by
  -- A refused action leaves the store as it was, which no action at all makes too.
  rcases confirm_eq action store next with ⟨refusal, refused⟩ | accepted
  · rw [refused]
    exact .refl store
  · rw [accepted]
    exact (store.makes_apply action proper).trans (rest (store.apply action))

end Mutation

/-- A change that waits goes on by proper actions, and drops a thread of a task that is not open. -/
structure Waiting.Orderly (waiting : Waiting) : Prop where
  makes : ∀ (store : BoardStore) (reply : Except ApiError waiting.β), waiting.call.Proper reply →
    store.Makes (waiting.resume store reply).1
  aside : ∀ (taskId : String), waiting.call.thread? = some taskId → ∀ store : BoardStore,
    store.state.openId? ≠ some taskId → ∀ reply,
      (waiting.resume store reply).1.state.detail = store.state.detail

/-- The thread of a task that is not open is not there to be changed. -/
theorem BoardState.detail_changeThread {state : BoardState} {taskId : String}
    {change : List TaskComment → List TaskComment} (elsewhere : state.openId? ≠ some taskId) :
    (state.changeThread taskId change).detail = state.detail := by
  -- A thread is changed only if the open task is the one named.
  cases held : state.detail with
  | none => simp [changeThread, held]
  | some opened =>
    have other : opened.taskId ≠ taskId := by simpa [openId?, held] using elsewhere
    simp [changeThread, held, other]

namespace Mutation

variable {α : Type}

/-- All that a change does it does by proper actions, before its request and after it. -/
def Orderly (before : BoardStore) : Mutation α → Prop
  | .finished store _ => before.Makes store
  | .asking store call resume => before.Makes store ∧ Waiting.Orderly ⟨call, resume⟩

section Orderly

variable (boardId : String) (store : BoardStore)

/-- The creation of a task is done by proper actions. -/
theorem orderly_createTask (title : String) (description : Option String)
    (priority : TaskPriority) :
    (createTask boardId title description priority store).Orderly store := by
  unfold createTask
  -- A title of blanks is shown as a failure, and nothing is asked.
  split
  · exact makes_fail (α := Task) .createTask (.input .titleMissing) store
  · refine ⟨.refl store, ⟨fun heard reply proper => ?_, nofun⟩⟩
    cases reply with
    | error error => exact makes_fail .createTask (.api error) heard
    | ok created =>
      dsimp only
      -- An answer without an identifier ends the change on the spot.
      split
      · exact .refl heard
      · exact makes_confirm trivial fun later => makes_clear .createTask later

/-- The edit of a task is done by proper actions. -/
theorem orderly_updateTask (taskId : String) (update : TaskUpdate) :
    (updateTask boardId taskId update store).Orderly store := by
  unfold updateTask
  -- An edit that is no edit is refused or ends at once; any other is asked for.
  split
  · rename_i fault _
    exact makes_fail (α := Task) .saveTask (.input fault) store
  · split
    · exact .refl store
    · refine ⟨.refl store, ⟨fun heard reply proper => ?_, nofun⟩⟩
      cases reply with
      | error error => exact makes_fail .saveTask (.api error) heard
      | ok updated => exact makes_confirm trivial fun later => makes_clear .saveTask later

/-- The deletion of a task is done by proper actions. -/
theorem orderly_deleteTask (taskId : String) :
    (deleteTask boardId taskId store).Orderly store := by
  refine ⟨.refl store, ⟨fun heard reply proper => ?_, nofun⟩⟩
  cases reply with
  | error error => exact makes_fail .deleteTask (.api error) heard
  | ok done => exact makes_confirm trivial fun later => makes_clear .deleteTask later

/-- A move is done by proper actions, ahead of its answer and after it. -/
theorem orderly_moveTask (taskId : String) (status : TaskStatus) :
    (moveTask boardId taskId status store).Orderly store := by
  unfold moveTask
  split
  · exact .refl store
  · -- Neither a task that is not held nor one already in the column is moved.
    split
    · exact .refl store
    · -- The move goes ahead of the answer, by an action as well.
      refine ⟨store.makes_apply (.taskStatusChanged taskId status) trivial,
        ⟨fun heard reply proper => ?_, nofun⟩⟩
      cases reply with
      | error error =>
        -- The old list is put back before the error is shown.
        exact (heard.makes_apply (.tasksRestored store.state.tasks) trivial).trans
          (makes_fail .board (.api error) _)
      | ok updated => exact makes_confirm trivial .refl

/-- A decision is done by proper actions. -/
theorem orderly_decideApproval (approvalId : String) (status : ApprovalStatus) :
    (decideApproval boardId approvalId status store).Orderly store := by
  refine ⟨.refl store, ⟨fun heard reply proper => ?_, nofun⟩⟩
  cases reply with
  | error error => exact makes_fail .approvals (.api error) heard
  | ok decided => exact makes_confirm trivial fun later => makes_clear .approvals later

/-- The opening of a task is done by proper actions if its thread is, and fills no other thread. -/
theorem orderly_openTask (taskId : String) : (openTask boardId taskId store).Orderly store := by
  unfold openTask
  split
  · exact .refl store
  · refine ⟨store.makes_apply (.taskOpened taskId) trivial,
      ⟨fun heard reply proper => ?_, ?_⟩⟩
    · cases reply with
      | error error => exact makes_fail .comments (.api error) heard
      -- This is the one answer that brings a thread, and it is proper as the server sends it so.
      | ok comments => exact makes_confirm proper .refl
    · rintro _ ⟨⟩ heard elsewhere (error | comments)
      · -- A failure is shown in a section, which no thread is part of.
        rfl
      · -- The list is taken in, but into the thread of its own task only.
        exact BoardState.detail_changeThread elsewhere

/-- A comment is done by proper actions. -/
theorem orderly_postComment (message : String) :
    (postComment boardId message store).Orderly store := by
  unfold postComment
  split
  · exact .refl store
  · -- Nothing is posted without an open task, and nothing that is blank.
    split
    · exact makes_fail (α := TaskComment) .postComment (.input .messageMissing) store
    · refine ⟨.refl store, ⟨fun heard reply proper => ?_, nofun⟩⟩
      cases reply with
      | error error => exact makes_fail .postComment (.api error) heard
      | ok created => exact makes_confirm trivial fun later => makes_clear .postComment later

/-- A message is done by proper actions. -/
theorem orderly_sendChat (content : String) : (sendChat boardId content store).Orderly store := by
  unfold sendChat
  split
  · exact .refl store
  · refine ⟨.refl store, ⟨fun heard reply proper => ?_, nofun⟩⟩
    cases reply with
    | error error => exact makes_fail .chat (.api error) heard
    | ok created => exact makes_confirm trivial fun later => makes_clear .chat later

/-- The loading of a snapshot is done by proper actions. -/
theorem orderly_loadSnapshot : (loadSnapshot boardId store).Orderly store := by
  refine ⟨.refl store, ⟨fun heard reply proper => ?_, nofun⟩⟩
  cases reply with
  | error error => exact heard.makes_apply (.snapshotFailed error.message) trivial
  | ok snapshot => exact makes_confirm trivial .refl

/-- Every change is done by proper actions. -/
theorem orderly_start {α : Type} (change : Change α) :
    (change.start boardId store).Orderly store := by
  cases change with
  | createTask title description priority =>
    exact orderly_createTask boardId store title description priority
  | updateTask taskId update => exact orderly_updateTask boardId store taskId update
  | deleteTask taskId => exact orderly_deleteTask boardId store taskId
  | moveTask taskId status => exact orderly_moveTask boardId store taskId status
  | decideApproval approvalId status => exact orderly_decideApproval boardId store approvalId status
  | openTask taskId => exact orderly_openTask boardId store taskId
  | postComment message => exact orderly_postComment boardId store message
  | sendChat content => exact orderly_sendChat boardId store content
  | loadSnapshot => exact orderly_loadSnapshot boardId store

end Orderly

end Mutation

/-! ## Threads never mix -/

namespace BoardState

/-- Every comment in the open thread is on the open task. -/
def Unmixed (state : BoardState) : Prop :=
  ∀ opened ∈ state.detail, ∀ comment ∈ opened.comments, comment.taskId = some opened.taskId

variable {state : BoardState}

/-- A board on which the same task is open with the same thread is as unmixed. -/
theorem Unmixed.of_detail_eq {other : BoardState} (unmixed : state.Unmixed)
    (same : other.detail = state.detail) : other.Unmixed := by
  intro opened held
  exact unmixed opened (same ▸ held)

/-- A comment that is put into the thread of its own task mixes nothing. -/
theorem Unmixed.hearAt (unmixed : state.Unmixed) {place : List TaskComment → List TaskComment}
    {comment : TaskComment} (placed : ∀ comments, (place comments).Perm (comment :: comments)) :
    Unmixed { state with detail := hearAt place comment state.detail } := by
  intro opened shown other member
  obtain ⟨before, held, rfl⟩ := Option.map_eq_some_iff.mp shown
  by_cases belongs : comment.taskId = some before.taskId
  · simp only [if_pos belongs] at member ⊢
    -- What is in the thread now was there before, or is the comment itself.
    rcases mem_of_mem_addComment place (placed before.comments).subperm member with rfl | old
    · exact belongs
    · exact unmixed before held other old
  · simp only [if_neg belongs] at member ⊢
    exact unmixed before held other member

/-- A proper action mixes no thread. -/
theorem Unmixed.reduce (unmixed : state.Unmixed) {action : BoardAction} (proper : action.Proper) :
    (state.reduce action).state.Unmixed := by
  -- Five kinds of action open, close or fill a thread, and all others leave it as it is.
  cases action with
  | taskUpserted patch =>
    rw [reduce_taskUpserted]
    exact unmixed
  | agentUpserted patch =>
    rw [reduce_agentUpserted]
    exact unmixed
  | approvalUpserted approval counts pending =>
    rw [reduce_approvalUpserted]
    exact unmixed
  | chatReceived message =>
    rw [reduce_chatReceived]
    exact unmixed
  | taskRemoved taskId =>
    -- The removal may close the open task, and takes no thread from another one.
    intro opened held
    exact unmixed opened (Option.mem_filter_iff.mp held).1
  | taskOpened taskId =>
    simp only [BoardState.reduce, openTask]
    split
    · intro opened held comment member
      -- A thread that was just opened is empty.
      obtain rfl := Option.some.inj held
      cases member
    · exact unmixed
  | taskClosed =>
    intro opened held
    cases held
  | commentsLoaded taskId comments =>
    intro opened shown comment member
    obtain ⟨before, held, rfl⟩ := Option.map_eq_some_iff.mp shown
    -- A thread that is brought fills the open one only if it is of the same task.
    by_cases own : before.taskId = taskId
    · simp only [if_pos own] at member ⊢
      rw [own]
      exact proper comment member
    · simp only [if_neg own] at member ⊢
      exact unmixed before held comment member
  | commentReceived comment =>
    rw [reduce_commentReceived, hear_eq_hearAt]
    have heard := unmixed.hearAt fun comments => List.perm_append_singleton comment comments
    exact heard.of_detail_eq rfl
  | commentPosted comment =>
    rw [reduce_commentPosted]
    exact unmixed.hearAt fun _ => .refl _
  | _ => exact unmixed

/-- A run of proper actions mixes no thread. -/
theorem Unmixed.reduceAll (unmixed : state.Unmixed) {run : List BoardAction}
    (proper : ∀ action ∈ run, action.Proper) : (state.reduceAll run).Unmixed := by
  induction run generalizing state with
  | nil => exact unmixed
  | cons action run ih =>
    -- Each action keeps the threads unmixed, whatever came before it.
    have first : (state.reduce action).state.Unmixed := unmixed.reduce (proper action (by simp))
    exact ih first fun later member => proper later (by simp [member])

end BoardState

/-- What proper actions make of a store has unmixed threads when the store has. -/
theorem BoardStore.Makes.unmixed {before after : BoardStore} (makes : before.Makes after)
    (unmixed : before.state.Unmixed) : after.state.Unmixed := by
  obtain ⟨actions, proper, rfl⟩ := makes
  rw [BoardStore.applyAll_state]
  exact unmixed.reduceAll proper

namespace Desk

/-- No thread is mixed, and all that waits goes on by proper actions. -/
structure Tidy (desk : Desk) : Prop where
  unmixed : desk.store.state.Unmixed
  orderly : ∀ waiting ∈ desk.waiting, waiting.Orderly

/-- Whatever happens next, threads stay unmixed. -/
theorem Tidy.step {desk later : Desk} (tidy : desk.Tidy) (step : Step desk later) :
    later.Tidy := by
  -- Every kind of step is a run of proper actions, and may change who waits.
  cases step with
  | landed proper =>
    exact ⟨(desk.store.makes_apply _ proper).unmixed tidy.unmixed, tidy.orderly⟩
  | @finished _ _ change boardId store result started =>
    have orderly := Mutation.orderly_start boardId desk.store change
    rw [started] at orderly
    exact ⟨orderly.unmixed tidy.unmixed, tidy.orderly⟩
  | @asked _ _ _ change boardId store call resume started =>
    -- The change waits from now on, as one that goes on by proper actions.
    have orderly := Mutation.orderly_start boardId desk.store change
    rw [started] at orderly
    refine ⟨orderly.1.unmixed tidy.unmixed, fun waiting member => ?_⟩
    rcases List.mem_cons.mp member with rfl | old
    · exact orderly.2
    · exact tidy.orderly waiting old
  | @answered store before after waiting reply proper =>
    have own : waiting.Orderly := tidy.orderly waiting (by simp)
    -- The change that goes on waits no longer, and all others wait as before.
    refine ⟨(own.makes store reply proper).unmixed tidy.unmixed, fun other member => ?_⟩
    rcases List.mem_append.mp member with front | back
    · exact tidy.orderly other (by simp [front])
    · exact tidy.orderly other (by simp [back])

/-- Along any run, threads stay unmixed. -/
theorem Tidy.reaches {start desk : Desk} (tidy : start.Tidy)
    (reaches : Relation.ReflTransGen Step start desk) : desk.Tidy := by
  -- Step by step: who waits is as much part of what is kept as the threads are.
  induction reaches with
  | refl => exact tidy
  | tail _ step ih => exact ih.step step

/--
Threads never mix, however many requests are out and in whatever order their answers come in.

From a board that no change waits for and on which no thread is mixed, every comment in the open
thread is on the open task in every state that is reached. The answer to a request for the thread of
a task that is not open by then does nothing to the one that is.
-/
theorem unmixed_of_reaches {start desk : Desk} (idle : start.waiting = [])
    (unmixed : start.store.state.Unmixed) (reaches : Relation.ReflTransGen Step start desk) :
    desk.store.state.Unmixed ∧
      ∀ waiting ∈ desk.waiting, ∀ taskId, waiting.call.thread? = some taskId →
        desk.store.state.openId? ≠ some taskId → ∀ reply,
          (waiting.resume desk.store reply).1.state.detail = desk.store.state.detail := by
  -- A desk on which nobody waits is tidy, and so is all that is reached from it.
  have tidy : start.Tidy := ⟨unmixed, by simp [idle]⟩
  have kept := tidy.reaches reaches
  refine ⟨kept.unmixed, fun waiting member taskId asks elsewhere reply => ?_⟩
  exact (kept.orderly waiting member).aside taskId asks desk.store elsewhere reply

/-- Of two tasks that are opened in turn, the thread of the first is of no use any more. -/
theorem unmixed_of_reaches_late :
    ∃ desk, Relation.ReflTransGen Step ⟨Mutation.twoTasks, []⟩ desk ∧
      desk.store.state.Unmixed ∧ desk.store.state.openId? = some "u" ∧
      ∃ waiting ∈ desk.waiting, waiting.call.thread? = some "t" ∧ ∀ reply,
        (waiting.resume desk.store reply).1.state.detail = desk.store.state.detail := by
  have unmixed : Mutation.twoTasks.state.Unmixed := by
    intro opened held
    cases held
  -- Both threads are asked for before either of them has come in.
  let opened := Mutation.twoTasks.apply (.taskOpened "t")
  obtain ⟨resume, first⟩ : ∃ resume, Step ⟨Mutation.twoTasks, []⟩
      ⟨opened, [⟨.listComments "b" "t", resume⟩]⟩ :=
    ⟨_, .asked (rfl : (Change.openTask "t").start "b" Mutation.twoTasks = _)⟩
  obtain ⟨other, second⟩ : ∃ other, Step ⟨opened, [⟨.listComments "b" "t", resume⟩]⟩
      ⟨opened.apply (.taskOpened "u"),
        [⟨.listComments "b" "u", other⟩, ⟨.listComments "b" "t", resume⟩]⟩ :=
    ⟨_, .asked (rfl : (Change.openTask "u").start "b" opened = _)⟩
  have reaches := (Relation.ReflTransGen.single first).tail second
  obtain ⟨kept, aside⟩ := unmixed_of_reaches rfl unmixed reaches
  have open_ : (opened.apply (.taskOpened "u")).state.openId? = some "u" := by decide
  have elsewhere : (opened.apply (.taskOpened "u")).state.openId? ≠ some "t" := by decide
  refine ⟨_, reaches, kept, open_, ⟨.listComments "b" "t", resume⟩, by simp, rfl, ?_⟩
  exact aside ⟨.listComments "b" "t", resume⟩ (by simp) "t" rfl elsewhere

end Desk

end LiveBoard
