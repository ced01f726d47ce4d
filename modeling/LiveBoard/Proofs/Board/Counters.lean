import LiveBoard.Proofs.Board.Merging

/-! Approval counters that are taken over into the tasks of a board. -/

namespace LiveBoard

namespace TaskCounts

/-- A task with the counters that there are, for the task of an identifier. -/
def onto (counted : String × TaskCounts) (task : Task) : Task :=
  { task with
    id := counted.1
    approvalsCount := counted.2.approvalsCount.getD task.approvalsCount
    approvalsPendingCount := counted.2.approvalsPendingCount.getD task.approvalsPendingCount }

/-- Counters as changes to the tasks that they name; they make no task of nothing. -/
def changes : Keyed.Changes Task (String × TaskCounts) where
  idOf := (·.id)
  target := Prod.fst
  make counted held := held.map (onto counted)
  carries := by
    intro counted held task made
    obtain ⟨before, _, rfl⟩ := Option.map_eq_some_iff.mp made
    rfl

/-- What counters make of a task one after the other is known field by field. -/
theorem makeAll_some (run : List (String × TaskCounts)) (task : Task) :
    changes.makeAll (some task) run = some { task with
      id := resettle id task.id (run.map fun counted => some counted.1)
      approvalsCount :=
        resettle id task.approvalsCount (run.map fun counted => counted.2.approvalsCount)
      approvalsPendingCount := resettle id task.approvalsPendingCount
        (run.map fun counted => counted.2.approvalsPendingCount) } := by
  -- Each field is resettled by itself, since the counters of a frame may give any of them.
  induction run generalizing task with
  | nil => rfl
  | cons counted run ih => exact ih (onto counted task)

/-- Counters make nothing new of the task that they made. -/
theorem makeAll_makeAll (run : List (String × TaskCounts)) (held : Option Task) :
    changes.makeAll (changes.makeAll held run) run = changes.makeAll held run := by
  cases held with
  | none =>
    -- Counters of a task that is not there are dropped.
    have nothing : changes.makeAll none run = none := by
      induction run with
      | nil => rfl
      | cons counted run ih => exact ih
    rw [nothing, nothing]
  | some task => simp only [makeAll_some, resettle_resettle id rfl]

/-- Counters that were taken over last are taken over again and change nothing. -/
theorem alterAll_again {run more : List (String × TaskCounts)} (suffix : more <:+ run)
    (tasks : List Task) :
    changes.alterAll (changes.alterAll tasks run) more = changes.alterAll tasks run := by
  obtain ⟨before, rfl⟩ := suffix
  -- What came before the counters that come again only sets where these start from.
  have whole : changes.alterAll tasks (before ++ more) =
      changes.alterAll (changes.alterAll tasks before) more := List.foldl_append ..
  rw [whole]
  exact Keyed.Changes.alterAll_alterAll _ fun _ => makeAll_makeAll _ _

/-- The counters of a frame as a change, when they name a task. -/
def named? (counts : TaskCounts) : Option (String × TaskCounts) :=
  counts.taskId.map fun taskId => (taskId, counts)

/-- Counters change the first task of the identifier that they name. -/
theorem alter_eq {counted : String × TaskCounts} {change : Task → Task}
    (same : ∀ task, task.id = counted.1 → change task = onto counted task) (tasks : List Task) :
    changes.alter tasks counted =
      BoardState.replaceFirst (·.id = counted.1) change tasks := by
  have made : changes.make counted (tasks.find? (changes.idOf · = changes.target counted)) =
      (tasks.find? (·.id = counted.1)).map (onto counted) := rfl
  rw [Keyed.Changes.alter, made]
  -- Counters put no task in front: without one of the identifier they change nothing.
  cases found : tasks.find? (·.id = counted.1) with
  | none => exact (Keyed.replaceFirst_of_find?_eq_none found).symm
  | some task =>
    have named : task.id = counted.1 := by simpa using List.find?_some found
    -- The task that is found has the identifier, so it is replaced and not put in front.
    have member : (onto counted task).id ∈ tasks.map (·.id) :=
      List.mem_map.mpr ⟨task, List.mem_of_find?_eq_some found, named⟩
    rw [Keyed.replaceFirst_of_find?_eq_some found, same task named]
    exact if_pos member

/-- A state takes over counters by changing the task that they name. -/
theorem applyCounts_eq (state : BoardState) (counts : TaskCounts) :
    state.applyCounts counts =
      { state with tasks := changes.alterAll state.tasks counts.named?.toList } := by
  unfold BoardState.applyCounts named?
  -- Counters may come without saying of which task, and are dropped then.
  cases counts.taskId with
  | none => rfl
  | some taskId =>
    -- The model does not set the identifier, which is the one that the task was found by.
    have once := @alter_eq (taskId, counts) (fun task =>
      { task with
        approvalsCount := counts.approvalsCount.getD task.approvalsCount
        approvalsPendingCount := counts.approvalsPendingCount.getD task.approvalsPendingCount })
      (by rintro task rfl; rfl) state.tasks
    simp only [Option.map_some, Option.toList_some, Keyed.Changes.alterAll, List.foldl_cons,
      List.foldl_nil, once]

end TaskCounts

end LiveBoard
