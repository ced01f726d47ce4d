import LiveBoard.Proofs.Board.Effects
import LiveBoard.Sync.Mutation

/-! A move that the server rejects, with the actions of the feeds that came in before its answer. -/

namespace LiveBoard

namespace BoardState

/-- The state with another task list. -/
def withTasks (state : BoardState) (tasks : List Task) : BoardState := { state with tasks := tasks }

/-- An action that a feed brings makes the same of all but the tasks, whatever the tasks are. -/
theorem reduce_withTasks {action : BoardAction} (streamed : action.IsStreamed)
    (state : BoardState) (tasks : List Task) :
    ∃ later, ((state.withTasks tasks).reduce action).state =
      (state.reduce action).state.withTasks later := by
  obtain ⟨feed, brings⟩ := streamed
  -- Nothing that a feed brings reads the tasks but to change them.
  cases action with
  | taskUpserted patch =>
    simp only [reduce_taskUpserted]
    exact ⟨_, rfl⟩
  | commentReceived comment =>
    simp only [reduce_commentReceived]
    exact ⟨tasks, rfl⟩
  | approvalUpserted approval counts pending =>
    -- An approval is merged without a look at the tasks, which only its counters may change.
    simp only [reduce_approvalUpserted]
    exact ⟨_, rfl⟩
  | agentUpserted patch =>
    simp only [reduce_agentUpserted]
    exact ⟨tasks, rfl⟩
  | chatReceived message =>
    simp only [reduce_chatReceived]
    exact ⟨tasks, rfl⟩
  | _ => cases feed <;> simp [Feed.brings] at brings

/-- Actions that feeds bring make the same of all but the tasks, whatever the tasks are. -/
theorem reduceAll_withTasks {actions : List BoardAction}
    (streamed : ∀ action ∈ actions, action.IsStreamed) (state : BoardState) (tasks : List Task) :
    ∃ later, (state.withTasks tasks).reduceAll actions =
      (state.reduceAll actions).withTasks later := by
  -- Which tasks the rest of the run starts from is not known, so any will do.
  induction actions generalizing state tasks with
  | nil => exact ⟨tasks, rfl⟩
  | cons action actions ih =>
    -- The first action makes the same of all but the tasks, and the others go on from there.
    obtain ⟨between, step⟩ := reduce_withTasks (streamed action (by simp)) state tasks
    obtain ⟨later, rest⟩ := ih (fun other member => streamed other (by simp [member]))
      (state.reduce action).state between
    exact ⟨later, by simpa only [reduceAll, List.foldl_cons, step] using rest⟩

end BoardState

namespace Mutation

/-- A server that rejects every request, after other actions have come in. -/
def rejectAfter (actions : List BoardAction) (error : ApiError) {β : Type} (_ : Call β)
    (store : BoardStore) : BoardStore × Except ApiError β :=
  (store.applyAll actions, .error error)

/--
A move that the server rejects puts the whole task list back as it was before the move.

All else is as the actions that came in meanwhile make it without the move, with the error of the
request in the slot of the board. What these actions did to the tasks is undone with the move, so
the task list is theirs exactly when they leave it as it was.
-/
theorem run_moveTask_rejected {store : BoardStore} {taskId : String} {task : Task}
    {status : TaskStatus} {actions : List BoardAction} (held : store.state.task? taskId = some task)
    (other : task.status ≠ status) (streamed : ∀ action ∈ actions, action.IsStreamed)
    (boardId : String) (error : ApiError) :
    let alone := (store.applyAll actions).state
    let final := (moveTask boardId taskId status store).run (rejectAfter actions error)
    final.1.state =
        (alone.withTasks store.state.tasks).setError .board (some (SyncError.api error).message) ∧
      (final.1.state.tasks = alone.tasks ↔ store.state.tasks = alone.tasks) ∧
      final.2 = .error (.api error) := by
  intro alone final
  -- Rejected, the move puts its list back into what the actions left, and shows the error.
  have rejected : final = fail .board (.api error)
      (((store.apply (.taskStatusChanged taskId status)).applyAll actions).apply
        (.tasksRestored store.state.tasks)) := by
    simp only [final, moveTask, held, if_neg other, run, rejectAfter]
  -- The move itself changes the tasks alone, so all else goes on as it would without it.
  obtain ⟨moved, ahead⟩ : ∃ moved, (store.state.reduce (.taskStatusChanged taskId status)).state =
      store.state.withTasks moved := ⟨_, rfl⟩
  obtain ⟨later, between⟩ := BoardState.reduceAll_withTasks streamed store.state moved
  have restored : final.1.state =
      (alone.withTasks store.state.tasks).setError .board (some (SyncError.api error).message) := by
    simp only [rejected, alone, fail, BoardStore.apply_state, BoardStore.applyAll_state, ahead,
      between]
    rfl
  refine ⟨restored, ?_, ?_⟩
  · rw [restored]
    rfl
  · rw [rejected]
    rfl

/-- A board of two tasks in the inbox. -/
def twoTasks : BoardStore :=
  ⟨{ BoardState.empty "b" with
    tasks := [{ Task.schema.blank with id := "t" }, { Task.schema.blank with id := "u" }] }, 0⟩

/-- A frame that counts three approvals for the second of two tasks. -/
def threeApprovals : BoardAction := .approvalUpserted none (some ⟨some "u", some 3, none⟩) none

/-- The counters that a frame brings before a move is rejected are lost with the move. -/
theorem not_forall_tasks_kept :
    ¬ ∀ (store : BoardStore) (taskId : String) (task : Task) (status : TaskStatus)
      (actions : List BoardAction) (boardId : String) (error : ApiError),
      store.state.task? taskId = some task → task.status ≠ status →
      (∀ action ∈ actions, action.IsStreamed) →
      ((moveTask boardId taskId status store).run (rejectAfter actions error)).1.state.tasks =
        (store.applyAll actions).state.tasks := by
  intro kept
  -- The counters come in between, and the list from before the move has none.
  have same := kept twoTasks "t" { Task.schema.blank with id := "t" } .review [threeApprovals] "b"
    .notSignedIn (by decide) (by decide) (by simpa using ⟨.approvals, rfl⟩)
  exact absurd same (by decide)

/-- A rejected move puts back two tasks, one of which had been given counters meanwhile. -/
theorem run_moveTask_rejected_twoTasks :
    ((moveTask "b" "t" .review twoTasks).run
        (rejectAfter [threeApprovals] .notSignedIn)).1.state.tasks = twoTasks.state.tasks ∧
      (twoTasks.applyAll [threeApprovals]).state.tasks ≠ twoTasks.state.tasks := by
  have held : twoTasks.state.task? "t" = some { Task.schema.blank with id := "t" } := by decide
  have streamed : ∀ action ∈ [threeApprovals], action.IsStreamed := by
    simpa using ⟨.approvals, rfl⟩
  obtain ⟨restored, _, _⟩ :=
    run_moveTask_rejected held (by decide : _ ≠ TaskStatus.review) streamed "b" .notSignedIn
  -- The counters of the second task go with the list that is replaced.
  rw [restored]
  exact ⟨rfl, by decide⟩

end Mutation

end LiveBoard
