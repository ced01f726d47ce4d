import LiveBoard.Proofs.Board.Counters
import LiveBoard.Proofs.Board.Kinds
import LiveBoard.Proofs.Board.Runs

/-! What a feed brings again after it lost its place changes nothing but the live feed. -/

namespace LiveBoard

/-! ## Things that are taken in once -/

section Held

variable {σ π : Type} {take : σ → π → σ} {Holds : σ → π → Prop}

/-- What stays held is held after a run that takes it in, or before which it was held. -/
theorem holds_foldl (takes : ∀ state item, Holds (take state item) item)
    (keeps : ∀ {state item}, Holds state item → ∀ other, Holds (take state other) item)
    (run : List π) {state : σ} {item : π} (brought : Holds state item ∨ item ∈ run) :
    Holds (run.foldl take state) item := by
  -- Along the run: once held, an item is carried past every later action.
  induction run generalizing state with
  | nil => exact brought.resolve_right (by simp)
  | cons first run ih =>
    -- The first action keeps what is held, or takes the item in.
    rcases brought with held | member
    · exact ih (.inl (keeps held first))
    · rcases List.mem_cons.mp member with rfl | later
      · exact ih (.inl (takes state _))
      · exact ih (.inr later)

/-- Things that stay held once they are taken in change nothing when they come again. -/
theorem foldl_again (takes : ∀ state item, Holds (take state item) item)
    (keeps : ∀ {state item}, Holds state item → ∀ other, Holds (take state other) item)
    (passes : ∀ {state item}, Holds state item → take state item = state) (state : σ)
    {run again : List π} (brought : again ⊆ run) :
    again.foldl take (run.foldl take state) = run.foldl take state := by
  have held : ∀ item ∈ again, Holds (run.foldl take state) item := fun item member =>
    holds_foldl takes keeps run (.inr (brought member))
  -- From here on only what is held matters, and nothing that passes changes it.
  generalize run.foldl take state = result at held
  induction again with
  | nil => rfl
  | cons item again ih =>
    rw [List.foldl_cons, passes (held item (by simp))]
    exact ih (fun _ member => brought (by simp [member])) fun other member =>
      held other (by simp [member])

end Held

/-! ## What an action brings -/

namespace BoardAction

/-- The patch of a task that an action brings. -/
def taskPatch? : BoardAction → Option Patch
  | .taskUpserted patch => some patch
  | _ => none

/-- The comment that an action brings. -/
def comment? : BoardAction → Option TaskComment
  | .commentReceived comment => some comment
  | _ => none

/-- The patch of an approval that an action brings. -/
def approvalPatch? : BoardAction → Option Patch
  | .approvalUpserted approval _ _ => approval
  | _ => none

/-- The counters that an action brings, when they name a task. -/
def counts? : BoardAction → Option (String × TaskCounts)
  | .approvalUpserted _ counts _ => counts.bind TaskCounts.named?
  | _ => none

/-- The number of pending approvals that an action brings. -/
def pending? : BoardAction → Option UInt32
  | .approvalUpserted _ _ pending => pending
  | _ => none

/-- The patch of an agent that an action brings. -/
def agentPatch? : BoardAction → Option Patch
  | .agentUpserted patch => some patch
  | _ => none

/-- The message that an action brings. -/
def message? : BoardAction → Option ChatMessage
  | .chatReceived message => some message
  | _ => none

/-- Every timestamp of a record that an action brings as a patch lies in a year of four digits. -/
def InEra (action : BoardAction) : Prop :=
  (∀ patch ∈ action.taskPatch?, patch.InEra .task) ∧
    (∀ patch ∈ action.approvalPatch?, patch.InEra .approval) ∧
      ∀ patch ∈ action.agentPatch?, patch.InEra .agent

instance (action : BoardAction) : Decidable action.InEra :=
  inferInstanceAs (Decidable (_ ∧ _ ∧ _))

end BoardAction

namespace BoardState

open BoardAction

/-- Every timestamp of the records that patches change lies in a year of four digits. -/
structure InEra (state : BoardState) : Prop where
  tasks : ∀ task ∈ state.tasks, Instant.AllInEra task.instants
  approvals : ∀ approval ∈ state.approvals, Instant.AllInEra approval.instants
  agents : ∀ agent ∈ state.agents, Instant.AllInEra agent.instants

/-- A state with an empty live feed. -/
def withoutFeed (state : BoardState) : BoardState := { state with liveFeed := [] }

/-- Every action of a run is accepted, and the run leaves a state, the live feed aside. -/
def Leaves (state : BoardState) (run : List BoardAction) (result : BoardState) : Prop :=
  state.Accepts run ∧ (state.reduceAll run).withoutFeed = result.withoutFeed

/-- A run leaves what its later actions leave of what the first one leaves. -/
theorem leaves_cons {state result : BoardState} {action : BoardAction} {run : List BoardAction} :
    state.Leaves (action :: run) result ↔
      (state.reduce action).refusal = none ∧ (state.reduce action).state.Leaves run result := by
  simp [Leaves, Accepts, reduceAll, and_assoc]

/-! ## The task feed -/

/-- The open task with a comment in its thread, if the comment belongs there and is new. -/
def hear (detail : Option TaskDetail) (comment : TaskComment) : Option TaskDetail :=
  detail.map fun opened =>
    if comment.taskId = some opened.taskId then
      { opened with comments := addComment (· ++ [comment]) comment opened.comments }
    else opened

/-- A comment is not missing from the open task. -/
def Heard (detail : Option TaskDetail) (comment : TaskComment) : Prop :=
  ∀ opened ∈ detail, comment.taskId = some opened.taskId →
    opened.comments.any (·.id = comment.id)

/-- A comment that is put into a list is there then, with all that were there before. -/
theorem any_addComment {place : List TaskComment → List TaskComment} {comment : TaskComment}
    {comments : List TaskComment} (placed : (place comments).Perm (comment :: comments))
    (id : String) :
    (addComment place comment comments).any (·.id = id) =
      (comments.any (·.id = id) || comment.id = id) := by
  unfold addComment
  split
  · rename_i held
    -- A comment that was there already is found either way.
    by_cases same : comment.id = id
    · subst same
      simp [held]
    · simp [same]
  · rw [placed.any_eq, List.any_cons, Bool.or_comm]

/-- What was heard, or comes, is heard then. -/
theorem heard_hear {detail : Option TaskDetail} {comment other : TaskComment}
    (heard : Heard detail other ∨ comment = other) : Heard (hear detail comment) other := by
  intro opened member
  -- The open task stays the same one, and only its thread can have grown.
  obtain ⟨before, held, rfl⟩ := Option.map_eq_some_iff.mp member
  by_cases belongs : comment.taskId = some before.taskId
  · simp only [if_pos belongs, any_addComment, List.perm_append_singleton, Bool.or_eq_true,
      decide_eq_true_eq]
    exact fun same => heard.imp (· before held same) fun equal => congrArg _ equal
  · simp only [if_neg belongs]
    intro same
    rcases heard with heard | rfl
    · exact heard before held same
    · exact absurd same belongs

/-- A comment that is heard changes nothing in the open task. -/
theorem hear_of_heard {detail : Option TaskDetail} {comment : TaskComment}
    (heard : Heard detail comment) : hear detail comment = detail := by
  -- Without an open task nothing is heard, and in its thread nothing twice.
  cases detail with
  | none => rfl
  | some opened =>
    simp only [hear, Option.map_some]
    split
    · rename_i belongs
      rw [addComment, if_pos (heard opened rfl belongs)]
    · rfl

/-- Comments change nothing in the open task when they come again. -/
theorem hear_again (detail : Option TaskDetail) {run again : List TaskComment}
    (brought : again ⊆ run) :
    again.foldl hear (run.foldl hear detail) = run.foldl hear detail :=
  @foldl_again _ _ hear Heard (fun _ _ => heard_hear (.inr rfl))
    (fun heard _ => heard_hear (.inl heard)) hear_of_heard detail _ _ brought

/-- A comment is heard, and may be shown in the live feed. -/
theorem exists_receiveComment (state : BoardState) (comment : TaskComment) :
    ∃ feed, state.receiveComment comment =
      { state with detail := hear state.detail comment, liveFeed := feed } := by
  -- Nothing has to be known of the live feed but that it is all that may differ.
  refine ⟨(state.receiveComment comment).liveFeed, ?_⟩
  unfold receiveComment hear
  cases named : comment.taskId with
  -- A comment that names no task is in no thread, as no open task is nameless.
  | none => cases held : state.detail <;> simp [← held]
  | some taskId =>
    cases held : state.detail with
    | none => simp [changeThread, held]
    | some opened => simp [changeThread, held, eq_comm]

/-- A patch of a task is merged into the tasks. -/
theorem upsertTask_eq (state : BoardState) (patch : Patch) :
    state.upsertTask patch =
      attempt state (((Task.merging state.agents).upsert patch state.tasks).map
        fun tasks => { state with tasks := tasks }) := rfl

/-- The task feed changes the tasks that its patches name and the open thread. -/
theorem leaves_tasks {state result : BoardState} {run : List BoardAction}
    (brought : ∀ action ∈ run, Feed.tasks.brings action) :
    state.Leaves run result ↔ ∃ tasks,
      (Task.merging state.agents).upsertAll (run.filterMap taskPatch?) state.tasks = .ok tasks ∧
        { state with
          tasks := tasks
          detail := (run.filterMap comment?).foldl hear state.detail
          liveFeed := [] } = result.withoutFeed := by
  induction run generalizing state with
  | nil => simp [Leaves, Accepts, reduceAll, Merging.upsertAll, pure, Except.pure, withoutFeed]
  | cons action run ih =>
    rw [leaves_cons, ih fun other member => brought other (by simp [member])]
    -- Each action of the feed is one step of one of the two runs.
    cases action with
    | taskUpserted patch =>
      simp only [reduce, upsertTask_eq, List.filterMap_cons, taskPatch?, comment?,
        Merging.upsertAll_cons]
      cases (Task.merging state.agents).upsert patch state.tasks <;> simp [attempt, Except.map]
    | commentReceived comment =>
      -- The live feed may change, which the rest of the run does not look at.
      obtain ⟨feed, heard⟩ := exists_receiveComment state comment
      simp [reduce, heard, List.filterMap_cons, taskPatch?, comment?]
    | _ => simp [Feed.brings] at brought

/-! ## The approval feed -/

/-- The approvals that a frame leaves, which may bring none. -/
def approved (approval : Option Patch) (approvals : List Approval) :
    Except Refusal (List Approval) :=
  approval.elim (.ok approvals) fun patch => Approval.merging.upsert patch approvals

/-- The approval of a frame is merged into the approvals, if there is one. -/
theorem merged_eq (state : BoardState) (approval : Option Patch) :
    approval.elim ⟨state, none⟩ state.upsertApproval =
      attempt state ((approved approval state.approvals).map
        fun approvals => { state with approvals := approvals }) := by
  cases approval <;> rfl

/-- What a frame says besides its approval: counters and a number of pending approvals. -/
theorem counted_eq (state : BoardState) (counts : Option TaskCounts) (pending : Option UInt32) :
    (let counted := counts.elim state state.applyCounts
     pending.elim counted fun count => { counted with pendingApprovalsCount := count }) =
      { state with
        tasks := TaskCounts.changes.alterAll state.tasks (counts.bind TaskCounts.named?).toList
        pendingApprovalsCount := pending.getD state.pendingApprovalsCount } := by
  -- Either part may be missing from a frame, and then keeps what is there.
  cases counts <;> cases pending <;>
    simp [TaskCounts.applyCounts_eq, Keyed.Changes.alterAll]

/-- An approval frame is taken in as a whole, its counters with its approval, or not at all. -/
theorem receiveApproval_eq (state : BoardState) (approval : Option Patch)
    (counts : Option TaskCounts) (pending : Option UInt32) :
    state.receiveApproval approval counts pending =
      attempt state ((approved approval state.approvals).map fun approvals =>
        { state with
          tasks := TaskCounts.changes.alterAll state.tasks (counts.bind TaskCounts.named?).toList
          approvals := approvals
          pendingApprovalsCount := pending.getD state.pendingApprovalsCount }) := by
  rw [receiveApproval, merged_eq]
  -- The counters are reached only if the approval is not refused.
  cases approved approval state.approvals with
  | error refusal => rfl
  | ok approvals =>
    exact congrArg (Outcome.mk · none)
      (counted_eq { state with approvals := approvals } counts pending)

/-- The counters of a run are those of its first action and those of the others. -/
theorem alterAll_counts (tasks : List Task) (action : BoardAction) (run : List BoardAction) :
    TaskCounts.changes.alterAll tasks ((action :: run).filterMap counts?) =
      TaskCounts.changes.alterAll (TaskCounts.changes.alterAll tasks (counts? action).toList)
        (run.filterMap counts?) := by
  cases named : counts? action <;> simp [named, Keyed.Changes.alterAll]

/-- The approval feed changes the approvals, the counters, and the number of pending approvals. -/
theorem leaves_approvals {state result : BoardState} {run : List BoardAction}
    (brought : ∀ action ∈ run, Feed.approvals.brings action) :
    state.Leaves run result ↔ ∃ approvals,
      Approval.merging.upsertAll (run.filterMap approvalPatch?) state.approvals = .ok approvals ∧
        { state with
          tasks := TaskCounts.changes.alterAll state.tasks (run.filterMap counts?)
          approvals := approvals
          pendingApprovalsCount :=
            resettle id state.pendingApprovalsCount (run.map pending?)
          liveFeed := [] } = result.withoutFeed := by
  -- The three parts are followed together, since a refused approval stops all of them.
  induction run generalizing state with
  | nil =>
    simp [Leaves, Accepts, reduceAll, Merging.upsertAll, pure, Except.pure, withoutFeed,
      Keyed.Changes.alterAll, resettle]
  | cons action run ih =>
    rw [leaves_cons, ih fun other member => brought other (by simp [member])]
    cases action with
    | approvalUpserted approval counts pending =>
      -- The first action is split off each part of what the run brings.
      rw [alterAll_counts, List.map_cons, resettle_cons]
      -- The counters and the number are taken over unless the approval is refused.
      cases approval with
      | none =>
        simp [reduce, receiveApproval_eq, approved, attempt, Except.map, List.filterMap_cons,
          approvalPatch?, counts?, pending?]
      | some patch =>
        simp only [reduce, receiveApproval_eq, approved, Option.elim_some, List.filterMap_cons,
          approvalPatch?, counts?, pending?, Merging.upsertAll_cons]
        cases Approval.merging.upsert patch state.approvals <;> simp [attempt, Except.map]
    | _ => simp [Feed.brings] at brought

/-! ## The agent feed -/

/-- A patch of an agent is merged into the agents. -/
theorem upsertAgent_eq (state : BoardState) (patch : Patch) :
    state.upsertAgent patch =
      attempt state ((Agent.merging.upsert patch state.agents).map
        fun agents => { state with agents := agents }) := rfl

/-- The agent feed changes the agents that its patches name. -/
theorem leaves_agents {state result : BoardState} {run : List BoardAction}
    (brought : ∀ action ∈ run, Feed.agents.brings action) :
    state.Leaves run result ↔ ∃ agents,
      Agent.merging.upsertAll (run.filterMap agentPatch?) state.agents = .ok agents ∧
        { state with agents := agents, liveFeed := [] } = result.withoutFeed := by
  induction run generalizing state with
  | nil => simp [Leaves, Accepts, reduceAll, Merging.upsertAll, pure, Except.pure, withoutFeed]
  | cons action run ih =>
    rw [leaves_cons, ih fun other member => brought other (by simp [member])]
    cases action with
    | agentUpserted patch =>
      -- A patch is merged or refused by the state just as it is by the list of agents.
      simp only [reduce, upsertAgent_eq, List.filterMap_cons, agentPatch?, Merging.upsertAll_cons]
      cases Agent.merging.upsert patch state.agents <;> simp [attempt, Except.map]
    | _ => simp [Feed.brings] at brought

/-! ## The chat feed -/

/-- The chat with a message, if it is tagged as chat and new. -/
def say (messages : List ChatMessage) (message : ChatMessage) : List ChatMessage :=
  if !message.isChatTagged || messages.any (·.id = message.id) then messages
  else sortMessages (messages ++ [message])

/-- A message is not missing from the chat. -/
def Said (messages : List ChatMessage) (message : ChatMessage) : Prop :=
  message.isChatTagged = false ∨ messages.any (·.id = message.id)

/-- A message that is sorted in is there then, with all that were there before. -/
theorem any_sortMessages (messages : List ChatMessage) (message : ChatMessage) (id : String) :
    (sortMessages (messages ++ [message])).any (·.id = id) =
      (messages.any (·.id = id) || message.id = id) := by
  rw [sortMessages, (List.mergeSort_perm ..).any_eq]
  simp

/-- What was said, or comes, is said then. -/
theorem said_say {messages : List ChatMessage} {message other : ChatMessage}
    (said : Said messages other ∨ message = other) : Said (say messages message) other := by
  unfold say
  -- A message that is passed over is no chat, or is there already.
  split
  · rename_i passed
    rcases said with said | rfl
    · exact said
    · simpa [Said] using passed
  · -- Sorting moves messages about, but takes none away.
    simp only [Said, any_sortMessages, Bool.or_eq_true, decide_eq_true_eq]
    rcases said with (untagged | held) | rfl
    · exact .inl untagged
    · exact .inr (.inl held)
    · exact .inr (.inr rfl)

/-- Messages change nothing in the chat when they come again. -/
theorem say_again (messages : List ChatMessage) {run again : List ChatMessage}
    (brought : again ⊆ run) :
    again.foldl say (run.foldl say messages) = run.foldl say messages := by
  refine @foldl_again _ _ say Said (fun _ _ => said_say (.inr rfl))
    (fun said _ => said_say (.inl said)) ?_ messages _ _ brought
  intro messages message said
  -- A message that is said is no chat at all, or is there already.
  rw [say, if_pos]
  rcases said with untagged | held
  · simp [untagged]
  · simp [held]

/-- A message is said in the chat. -/
theorem receiveChat_eq (state : BoardState) (message : ChatMessage) :
    state.receiveChat message =
      { state with chatMessages := say state.chatMessages message } := by
  unfold receiveChat say
  split <;> rfl

/-- The chat feed changes the chat. -/
theorem leaves_chat {state result : BoardState} {run : List BoardAction}
    (brought : ∀ action ∈ run, Feed.chat.brings action) :
    state.Leaves run result ↔
      { state with
        chatMessages := (run.filterMap message?).foldl say state.chatMessages
        liveFeed := [] } = result.withoutFeed := by
  induction run generalizing state with
  | nil => simp [Leaves, Accepts, reduceAll, withoutFeed]
  | cons action run ih =>
    rw [leaves_cons, ih fun other member => brought other (by simp [member])]
    cases action with
    | chatReceived message => simp [reduce, receiveChat_eq, message?]
    | _ => simp [Feed.brings] at brought

/-! ## Replay -/

/-- Patches of years of four digits are brought by actions of such years. -/
theorem inEra_of_mem_filterMap {run : List BoardAction} {kind : PatchedKind}
    {patch? : BoardAction → Option Patch}
    (era : ∀ action ∈ run, ∀ patch ∈ patch? action, patch.InEra kind) :
    ∀ patch ∈ run.filterMap patch?, patch.InEra kind := by
  intro patch member
  obtain ⟨action, brought, same⟩ := List.mem_filterMap.mp member
  exact era action brought patch same

section Again

variable {state result : BoardState} {run again : List BoardAction}

/-- What the task feed brought last changes nothing when it comes again. -/
theorem tasks_again (brought : ∀ action ∈ run, Feed.tasks.brings action) (era : state.InEra)
    (dated : ∀ action ∈ run, action.InEra) (suffix : again <:+ run)
    (left : state.Leaves run result) : result.Leaves again result := by
  obtain ⟨tasks, merged, same⟩ := (leaves_tasks brought).mp left
  have heard : _ = result.detail := (congrArg BoardState.detail same :)
  obtain rfl : tasks = result.tasks := (congrArg BoardState.tasks same :)
  -- The feed leaves the agents alone, so that assignees get the same names again.
  have agents : state.agents = result.agents := (congrArg BoardState.agents same :)
  have silent : (again.filterMap comment?).foldl hear result.detail = result.detail := by
    rw [← heard]
    exact hear_again _ (suffix.filterMap comment?).subset
  have patches := inEra_of_mem_filterMap fun action member => (dated action member).1
  rw [leaves_tasks fun action member => brought action (suffix.subset member), silent, ← agents]
  exact ⟨result.tasks, Task.schema_dated.upsertAll_again (Task.merging_lawful state.agents)
    (suffix.filterMap taskPatch?) patches era.tasks merged, by rw [agents]; rfl⟩

/-- What the approval feed brought last changes nothing when it comes again. -/
theorem approvals_again (brought : ∀ action ∈ run, Feed.approvals.brings action)
    (era : state.InEra) (dated : ∀ action ∈ run, action.InEra) (suffix : again <:+ run)
    (left : state.Leaves run result) : result.Leaves again result := by
  obtain ⟨approvals, merged, same⟩ := (leaves_approvals brought).mp left
  have counted : _ = result.tasks := (congrArg BoardState.tasks same :)
  have given : _ = result.pendingApprovalsCount :=
    (congrArg BoardState.pendingApprovalsCount same :)
  obtain rfl : approvals = result.approvals := (congrArg BoardState.approvals same :)
  -- Approvals, counters and the number of them are each absorbed on their own.
  have tasks : TaskCounts.changes.alterAll result.tasks (again.filterMap counts?) =
      result.tasks := by
    rw [← counted]
    exact TaskCounts.alterAll_again (suffix.filterMap counts?) _
  have pending : resettle id result.pendingApprovalsCount (again.map pending?) =
      result.pendingApprovalsCount := by
    rw [← given]
    exact resettle_again (suffix.map pending?) _
  have patches := inEra_of_mem_filterMap fun action member => (dated action member).2.1
  rw [leaves_approvals fun action member => brought action (suffix.subset member), tasks, pending]
  exact ⟨result.approvals, Approval.schema_dated.upsertAll_again Approval.merging_lawful
    (suffix.filterMap approvalPatch?) patches era.approvals merged, rfl⟩

/-- What the agent feed brought last changes nothing when it comes again. -/
theorem agents_again (brought : ∀ action ∈ run, Feed.agents.brings action) (era : state.InEra)
    (dated : ∀ action ∈ run, action.InEra) (suffix : again <:+ run)
    (left : state.Leaves run result) : result.Leaves again result := by
  obtain ⟨agents, merged, same⟩ := (leaves_agents brought).mp left
  obtain rfl : agents = result.agents := (congrArg BoardState.agents same :)
  have patches := inEra_of_mem_filterMap fun action member => (dated action member).2.2
  rw [leaves_agents fun action member => brought action (suffix.subset member)]
  exact ⟨result.agents, Agent.schema_dated.upsertAll_again Agent.merging_lawful
    (suffix.filterMap agentPatch?) patches era.agents merged, rfl⟩

/-- What the chat feed brought last changes nothing when it comes again. -/
theorem chat_again (brought : ∀ action ∈ run, Feed.chat.brings action) (suffix : again <:+ run)
    (left : state.Leaves run result) : result.Leaves again result := by
  -- The chat is what the whole run said, of which the part that comes again is some.
  have said : _ = result.chatMessages :=
    (congrArg BoardState.chatMessages ((leaves_chat brought).mp left) :)
  have silent : (again.filterMap message?).foldl say result.chatMessages =
      result.chatMessages := by
    rw [← said]
    exact say_again _ (suffix.filterMap message?).subset
  rw [leaves_chat fun action member => brought action (suffix.subset member), silent]
  rfl

end Again

/--
Taking in once more what a feed brought last leaves everything but the live feed in place.

The actions that come again are accepted again.
-/
theorem reduceAll_again {feed : Feed} {state : BoardState} {run again : List BoardAction}
    (brought : ∀ action ∈ run, feed.brings action) (accepted : state.Accepts run)
    (era : state.InEra) (dated : ∀ action ∈ run, action.InEra) (suffix : again <:+ run) :
    (state.reduceAll run).Accepts again ∧
      ((state.reduceAll run).reduceAll again).withoutFeed = (state.reduceAll run).withoutFeed := by
  have left : state.Leaves run (state.reduceAll run) := ⟨accepted, rfl⟩
  -- Each feed changes parts of its own, and each part absorbs its run in its own way.
  cases feed with
  | tasks => exact tasks_again brought era dated suffix left
  | approvals => exact approvals_again brought era dated suffix left
  | agents => exact agents_again brought era dated suffix left
  | chat => exact chat_again brought suffix left

/-- A board of one task, which is open. -/
def oneOpen : BoardState :=
  { empty "b" with
    tasks := [{ Task.schema.blank with id := "t" }]
    detail := some ⟨"t", []⟩ }

/-- A task that is moved, commented on and moved on. -/
def movedTwice : List BoardAction :=
  [.taskUpserted [("id", .string "t"), ("status", .string "review"),
      ("updated_at", .string "2026-02-28T12:00:00Z")],
    .commentReceived ⟨"c", some "t", none, some "done?", default⟩,
    .taskUpserted [("id", .string "t"), ("status", .string "done")]]

/-- The last comment and move of a task change nothing when they come again. -/
theorem reduceAll_again_movedTwice :
    ((oneOpen.reduceAll movedTwice).reduceAll (movedTwice.drop 1)).withoutFeed =
        (oneOpen.reduceAll movedTwice).withoutFeed ∧
      (oneOpen.reduceAll movedTwice).tasks.map (·.status) = [.done] := by
  have brought : ∀ action ∈ movedTwice, Feed.tasks.brings action := by decide
  have accepted : oneOpen.Accepts movedTwice := ⟨by decide, by decide, by decide, trivial⟩
  have era : oneOpen.InEra := ⟨by decide, by decide, by decide⟩
  have dated : ∀ action ∈ movedTwice, action.InEra := by decide
  exact ⟨(reduceAll_again brought accepted era dated (List.drop_suffix 1 movedTwice)).2,
    by decide⟩

end BoardState

end LiveBoard
