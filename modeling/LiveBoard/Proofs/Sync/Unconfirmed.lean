import LiveBoard.Proofs.Board.Dispatching
import LiveBoard.Proofs.Sync.Withdrawal

/-!
How a move ends that returns a failure, when nothing else happens to the board meanwhile.

A move that the server rejects is taken back. A move that the server makes, but with an answer that
the board refuses, is returned as a failure as well, and leaves the task where it was moved to.
-/

namespace LiveBoard

namespace BoardState

variable {tasks : List Task} {taskId : String} {task : Task} {status : TaskStatus}

/-- A list of tasks with the first one of an identifier moved to a column. -/
def moveIn (tasks : List Task) (taskId : String) (status : TaskStatus) : List Task :=
  replaceFirst (·.id = taskId) (moveTask status) tasks

/-- A list of tasks changes when the first one of an identifier is moved to another column. -/
theorem moveIn_ne (held : tasks.find? (·.id = taskId) = some task) (other : task.status ≠ status) :
    moveIn tasks taskId status ≠ tasks := by
  -- Were the lists the same, then looking the task up would find one in the column it was not in.
  intro same
  have moved := Keyed.find?_change Task.id (moveTask_id status) taskId tasks taskId
  rw [if_pos rfl, ← moveIn, same, held] at moved
  -- The task that is found after the move is in the column that it was moved to.
  have column : (moveTask status task).status = status := by
    unfold moveTask
    split <;> rfl
  exact other ((congrArg Task.status (Option.some.inj moved)).trans column)

end BoardState

namespace Mutation

/-- A change that ends with an action fails if the action is refused, and leaves the store then. -/
theorem confirm_eq_error {α : Type} {action : BoardAction} {store after : BoardStore}
    {error : SyncError} {value : α}
    (failed : confirm action store (fun store => (store, .ok value)) = (after, .error error)) :
    ∃ refusal, error = .refused refusal ∧ store.state.refusalOf? action = some refusal ∧
      after = store := by
  -- Nothing after the action can fail, so the failure is the refusal of the action.
  have dispatched := store.dispatch_eq_refusalOf? action
  cases refused : store.state.refusalOf? action with
  | none =>
    rw [refused] at dispatched
    simp [confirm, dispatched] at failed
  | some refusal =>
    rw [refused] at dispatched
    simp only [confirm, dispatched, Prod.mk.injEq, Except.error.injEq] at failed
    exact ⟨refusal, failed.2.symm, rfl, failed.1.symm⟩

/--
How a move returns a failure is told by the server's answer.

A rejection puts the task list back, and changes nothing but the error of the board. An answer that
the board refuses, as the move left it, is returned alone: the tasks stay as the move left them,
which is not as they were, and all else stays as it was.
-/
theorem run_moveTask_failed {boardId taskId : String} {status : TaskStatus}
    {store after : BoardStore} {error : SyncError} {reply : {β : Type} → Call β → Except ApiError β}
    (failed : (moveTask boardId taskId status store).run (promptly reply) =
      (after, .error error)) :
    let moved := store.state.withTasks (BoardState.moveIn store.state.tasks taskId status)
    moved.tasks ≠ store.state.tasks ∧
      match reply (.updateTask boardId taskId (.ofStatus status)) with
      | .error fault =>
        error = .api fault ∧ after.state = store.state.setError .board (some error.message)
      | .ok updated => ∃ refusal, error = .refused refusal ∧
        moved.refusalOf? (.taskUpserted updated) = some refusal ∧ after.state = moved := by
  intro moved
  unfold moveTask at failed
  split at failed
  · -- The move of a task that is not held does nothing, and is no failure.
    cases failed
  · rename_i task held
    split at failed
    · cases failed
    · rename_i other
      -- The move went ahead of its answer, and what the answer is tells the two ends apart.
      refine ⟨BoardState.moveIn_ne held other, ?_⟩
      have withdraws := withdraws_moveTask boardId store taskId status
      simp only [moveTask, held, if_neg other, Withdraws] at withdraws
      simp only [run, promptly] at failed
      cases answered : reply (.updateTask boardId taskId (.ofStatus status)) with
      | error fault =>
        -- A rejection is what the lemma on withdrawn moves is about.
        obtain ⟨left, returned⟩ := withdraws fault
        rw [answered] at failed
        dsimp only at failed ⊢
        rw [failed] at left returned
        obtain rfl := Except.error.inj returned
        exact ⟨rfl, left⟩
      | ok updated =>
        rw [answered] at failed
        -- An answer that is refused leaves the store with the move that went ahead.
        obtain ⟨refusal, rfl, refused, rfl⟩ := confirm_eq_error failed
        have ahead : (store.apply (.taskStatusChanged taskId status)).state = moved :=
          BoardStore.apply_state store _
        rw [ahead] at refused
        exact ⟨refusal, rfl, refused, ahead⟩

/-- A server that makes every change of a task, with an answer that names no task. -/
def unnamed {β : Type} : Call β → Except ApiError β
  | .updateTask .. => .ok [("title", .string "One")]
  | _ => .error .notSignedIn

/-- A move that is answered without a name is a failure, and yet the task is moved. -/
theorem not_forall_tasks_restored :
    ¬ ∀ (boardId taskId : String) (status : TaskStatus) (store after : BoardStore)
      (error : SyncError) (reply : {β : Type} → Call β → Except ApiError β),
      (moveTask boardId taskId status store).run (promptly reply) = (after, .error error) →
      after.state.tasks = store.state.tasks := by
  intro restored
  -- Two tasks and an answer without an identifier are enough.
  have same := restored "b" "t" .review twoTasks _ _ unnamed rfl
  exact absurd same (by decide)

/-- A move that is rejected is taken back, and one that is answered without a name is not. -/
theorem run_moveTask_failed_unnamed :
    (∃ after, (moveTask "b" "t" .review twoTasks).run (promptly fun _ => .error .notSignedIn) =
        (after, .error (.api .notSignedIn)) ∧
      after.state.tasks = twoTasks.state.tasks) ∧
    ∃ after, (moveTask "b" "t" .review twoTasks).run (promptly unnamed) =
        (after, .error (.refused (.missingId .task))) ∧
      after.state.tasks = BoardState.moveIn twoTasks.state.tasks "t" .review := by
  refine ⟨⟨_, rfl, ?_⟩, ⟨_, rfl, ?_⟩⟩
  · obtain ⟨-, -, left⟩ := @run_moveTask_failed "b" "t" .review twoTasks _ _
      (fun _ => .error .notSignedIn) rfl
    exact (congrArg BoardState.tasks left :)
  · obtain ⟨-, refusal, -, -, left⟩ := @run_moveTask_failed "b" "t" .review twoTasks _ _ unnamed rfl
    exact congrArg BoardState.tasks left

end Mutation

end LiveBoard
