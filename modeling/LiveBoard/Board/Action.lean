import LiveBoard.Board.State

/-! Everything that can happen to a board, and what each happening makes of the local copy. -/

namespace LiveBoard

/-- Something that happened to a board. -/
inductive BoardAction where
  | snapshotLoaded (snapshot : Snapshot)
  | snapshotFailed (message : String)
  /-- A whole or partial task, from a feed or from the answer to a change. -/
  | taskUpserted (patch : Patch)
  | taskRemoved (taskId : String)
  /-- A change of column ahead of the server's answer. -/
  | taskStatusChanged (taskId : String) (status : TaskStatus)
  /-- The task list as it was before a change that failed. -/
  | tasksRestored (tasks : List Task)
  | taskOpened (taskId : String)
  | taskClosed
  | commentsLoaded (taskId : String) (comments : List TaskComment)
  /-- A comment that came over the feed. -/
  | commentReceived (comment : TaskComment)
  /-- A comment that the server confirmed. -/
  | commentPosted (comment : TaskComment)
  | approvalUpserted (approval : Option Patch) (counts : Option TaskCounts)
      (pending : Option UInt32)
  | agentUpserted (patch : Patch)
  | chatReceived (message : ChatMessage)
  | sectionFailed (part : Section) (message : String)
  | sectionCleared (part : Section)
  deriving DecidableEq

/-- The kinds of record that arrive as patches. -/
inductive PatchedKind where
  | task
  | approval
  | agent
  deriving DecidableEq

/-- What a kind of record is called in a message. -/
def PatchedKind.name : PatchedKind → String
  | .task => "task"
  | .approval => "approval"
  | .agent => "agent"

/-- Why an action was refused. -/
inductive Refusal where
  | missingId (kind : PatchedKind)
  | unmergeable (kind : PatchedKind) (id : String) (fault : Fault)
  deriving DecidableEq

/-- The state that an action leaves, and why it was refused, if it was. -/
structure Outcome where
  state : BoardState
  refusal : Option Refusal

namespace BoardState

/-- The largest number of comments in the live feed. -/
def liveFeedLimit : Nat := 50

/-- Replace the first member that satisfies a test. -/
def replaceFirst {α : Type} (holds : α → Bool) (change : α → α) : List α → List α
  | [] => []
  | item :: rest =>
    if holds item then change item :: rest else item :: replaceFirst holds change rest

/-- Messages in order of creation, those of the same instant as they stood. -/
def sortMessages (messages : List ChatMessage) : List ChatMessage :=
  messages.mergeSort fun a b => a.createdAt.le b.createdAt

/-- Merge a patch into the record it names, or put a new record in front. -/
def upsert {ε : Type} (kind : PatchedKind) (schema : Schema ε) (idOf : ε → String)
    (finish : Option ε → ε → ε) (patch : Patch) (items : List ε) : Except Refusal (List ε) :=
  match patch.id? with
  | none => .error (.missingId kind)
  | some id =>
    match items.find? (idOf · = id) with
    | some held =>
      match patch.apply schema held with
      -- A record that is held keeps its place in the list.
      | .ok updated => .ok (replaceFirst (idOf · = id) (fun _ => finish (some held) updated) items)
      | .error fault => .error (.unmergeable kind id fault)
    | none =>
      match patch.build schema with
      -- A record that is new has no counters to keep, and goes in front.
      | .ok created => .ok (finish none created :: items)
      | .error fault => .error (.unmergeable kind id fault)

/--
A task as it is stored after a patch.

Patches do not carry the approval counters, so those of the stored task are kept, and the name of
the assignee is looked up among the agents.
-/
def finishTask (agents : List Agent) (held : Option Task) (task : Task) : Task :=
  { task with
    -- A task of which nothing is held starts without approvals.
    approvalsCount := held.elim 0 (·.approvalsCount)
    approvalsPendingCount := held.elim 0 (·.approvalsPendingCount)
    assignee := assigneeName agents task.assignedAgentId }

/-- The outcome of a step that leaves the state as it was when it is refused. -/
def attempt (state : BoardState) (next : Except Refusal BoardState) : Outcome :=
  match next with
  | .ok state => ⟨state, none⟩
  | .error refusal => ⟨state, some refusal⟩

/-- Merge a patch into the tasks. -/
def upsertTask (state : BoardState) (patch : Patch) : Outcome :=
  -- The list is put in place only when the merge is done, so nothing is left half merged.
  attempt state <|
    (upsert .task Task.schema (·.id) (finishTask state.agents) patch state.tasks).map
      fun tasks => { state with tasks := tasks }

/-- Merge a patch into the approvals. -/
def upsertApproval (state : BoardState) (patch : Patch) : Outcome :=
  attempt state <|
    (upsert .approval Approval.schema (·.id) (fun _ approval => approval) patch
      state.approvals).map fun approvals => { state with approvals := approvals }

/-- Merge a patch into the agents. -/
def upsertAgent (state : BoardState) (patch : Patch) : Outcome :=
  attempt state <|
    (upsert .agent Agent.schema (·.id) (fun _ agent => agent) patch state.agents).map
      fun agents => { state with agents := agents }

/-- A step that is refused leaves the state as it was. -/
theorem state_attempt {state : BoardState} {next : Except Refusal BoardState}
    (refused : (attempt state next).refusal ≠ none) : (attempt state next).state = state := by
  cases next with
  | error refusal => rfl
  | ok later => exact absurd rfl refused

/-- Take over the counters that a frame gives for a task. -/
def applyCounts (state : BoardState) (counts : TaskCounts) : BoardState :=
  match counts.taskId with
  | none => state
  | some taskId =>
    { state with
      tasks := replaceFirst (·.id = taskId)
        (fun task => { task with
          approvalsCount := counts.approvalsCount.getD task.approvalsCount
          approvalsPendingCount := counts.approvalsPendingCount.getD task.approvalsPendingCount })
        state.tasks }

/-- The sections that a snapshot fills. -/
def snapshotSections : List Section := [.board, .approvals, .chat]

/-- Take over a snapshot. -/
def loadSnapshot (state : BoardState) (snapshot : Snapshot) : BoardState :=
  snapshotSections.foldl (fun state part => state.setError part none)
    { state with
      board := some snapshot.board
      tasks := snapshot.tasks
      agents := snapshot.agents
      approvals := snapshot.approvals
      chatMessages := sortMessages snapshot.chatMessages
      pendingApprovalsCount := snapshot.pendingApprovalsCount }

/-- Note that a snapshot could not be had. -/
def failSnapshot (state : BoardState) (message : String) : BoardState :=
  snapshotSections.foldl (fun state part => state.setError part (some message)) state

/-- Drop a task, and close it if it is open. -/
def removeTask (state : BoardState) (taskId : String) : BoardState :=
  { state with
    tasks := state.tasks.filter (·.id ≠ taskId)
    detail := state.detail.filter (·.taskId ≠ taskId) }

/-- A task moved to a column; a task in the inbox is assigned to nobody. -/
def moveTask (status : TaskStatus) (task : Task) : Task :=
  -- The assignment and its name go together, so neither outlives the other.
  if status = .inbox then { task with status := status, assignedAgentId := none, assignee := none }
  else { task with status := status }

/-- Change the thread of a task, if it is the one that is open. -/
def changeThread (state : BoardState) (taskId : String)
    (change : List TaskComment → List TaskComment) : BoardState :=
  { state with
    detail := state.detail.map fun detail =>
      if detail.taskId = taskId then { detail with comments := change detail.comments }
      else detail }

/-- Put a comment into a list unless it is there already. -/
def addComment (place : List TaskComment → List TaskComment) (comment : TaskComment)
    (comments : List TaskComment) : List TaskComment :=
  -- A comment may come over the feed and in the answer to its own posting.
  if comments.any (·.id = comment.id) then comments else place comments

/-- The live feed with a comment in front, cut to its limit. -/
def feedComment (comment : TaskComment) (feed : List TaskComment) : List TaskComment :=
  addComment (fun feed => (comment :: feed).take liveFeedLimit) comment feed

/-- Take in a comment from the feed; one that names no task is dropped. -/
def receiveComment (state : BoardState) (comment : TaskComment) : BoardState :=
  match comment.taskId with
  | none => state
  | some taskId =>
    -- Threads read downwards, so the latest comment goes last.
    let state := state.changeThread taskId (addComment (· ++ [comment]) comment)
    { state with liveFeed := feedComment comment state.liveFeed }

/-- Take in a comment that the server confirmed; it goes to the front of its thread. -/
def postComment (state : BoardState) (comment : TaskComment) : BoardState :=
  match comment.taskId with
  | none => state
  | some taskId => state.changeThread taskId (addComment (comment :: ·) comment)

/-- Take in a message; one that is not chat, or is held already, is dropped. -/
def receiveChat (state : BoardState) (message : ChatMessage) : BoardState :=
  if !message.isChatTagged || state.chatMessages.any (·.id = message.id) then state
  else { state with chatMessages := sortMessages (state.chatMessages ++ [message]) }

/-- Open a task of the board with an empty thread. -/
def openTask (state : BoardState) (taskId : String) : BoardState :=
  if (state.task? taskId).isSome then
    -- What failed in the thread that was open before does not concern this one.
    ({ state with detail := some ⟨taskId, []⟩ }.setError .comments none).setError .postComment none
  else state

/-- Close the open task. -/
def closeTask (state : BoardState) : BoardState :=
  ({ state with detail := none }.setError .comments none).setError .postComment none

/-- Take in the parts of an approval frame, each if it is there, up to one that is refused. -/
def receiveApproval (state : BoardState) (approval : Option Patch) (counts : Option TaskCounts)
    (pending : Option UInt32) : Outcome :=
  -- A frame may carry counters alone, and then there is no approval to merge.
  let merged := approval.elim ⟨state, none⟩ state.upsertApproval
  match merged.refusal with
  -- A refused approval takes the counters of its frame with it.
  | some refusal => ⟨merged.state, some refusal⟩
  | none =>
    let counted := counts.elim merged.state merged.state.applyCounts
    ⟨pending.elim counted fun count => { counted with pendingApprovalsCount := count }, none⟩

/-- What an action makes of the local copy. -/
def reduce (state : BoardState) : BoardAction → Outcome
  | .snapshotLoaded snapshot => ⟨state.loadSnapshot snapshot, none⟩
  | .snapshotFailed message => ⟨state.failSnapshot message, none⟩
  | .taskUpserted patch => state.upsertTask patch
  | .taskRemoved taskId => ⟨state.removeTask taskId, none⟩
  | .taskStatusChanged taskId status =>
    ⟨{ state with tasks := replaceFirst (·.id = taskId) (moveTask status) state.tasks }, none⟩
  | .tasksRestored tasks => ⟨{ state with tasks := tasks }, none⟩
  | .taskOpened taskId => ⟨state.openTask taskId, none⟩
  | .taskClosed => ⟨state.closeTask, none⟩
  | .commentsLoaded taskId comments => ⟨state.changeThread taskId fun _ => comments, none⟩
  | .commentReceived comment => ⟨state.receiveComment comment, none⟩
  | .commentPosted comment => ⟨state.postComment comment, none⟩
  | .approvalUpserted approval counts pending => state.receiveApproval approval counts pending
  | .agentUpserted patch => state.upsertAgent patch
  | .chatReceived message => ⟨state.receiveChat message, none⟩
  | .sectionFailed part message => ⟨state.setError part (some message), none⟩
  | .sectionCleared part => ⟨state.setError part none, none⟩

end BoardState

end LiveBoard
