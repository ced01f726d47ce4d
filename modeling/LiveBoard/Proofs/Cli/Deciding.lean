import LiveBoard.Cli.Execution
import LiveBoard.Proofs.Sync.Deciding

/-!
A command that decides an approval prints the number of pending approvals that it loaded.

The decision leaves that number alone, so it is one too many for an approval that had waited.
-/

namespace LiveBoard

/-! ## Dialogues -/

/-- What goes on from a dialogue gets the replies that the dialogue left. -/
theorem Dialogue.run_bind {α β : Type} (next : α → Dialogue β) (dialogue : Dialogue α)
    (replies : List Reply) :
    (dialogue.bind next).run replies =
      let (asked, result) := dialogue.run replies
      let (later, last) := (next result).run (replies.drop asked.length)
      (asked ++ later, last) := by
  induction dialogue generalizing replies with
  | done result => rfl
  | ask request resume ih =>
    simp only [Dialogue.bind, run, ih]
    simp

/-- What a client is answered from prepared replies, before anything else happens to the board. -/
def Client.answering (client : Client) (replies : List Reply) {β : Type} (call : Call β)
    (store : BoardStore) : BoardStore × Except ApiError β :=
  (store, ((client.call call).run replies).2)

/-- A change that is carried out through a client is run with what the client is answered. -/
theorem Mutation.run_carryOut {α : Type} (client : Client) (mutation : Mutation α)
    (replies : List Reply) :
    ((mutation.carryOut client).run replies).2 = mutation.run (client.answering replies) := by
  cases mutation with
  -- A change that asks nothing is over before a reply is looked at.
  | finished store result => rfl
  | asking store call resume => rw [carryOut, Dialogue.run_bind]; rfl

namespace Cli

namespace Work

variable {α β : Type}

/-- Work that succeeds does so in its first part, and then with the replies that are left. -/
theorem run_bind_ok {work : Work α} {next : α → Work β} {replies : List Reply} {value : β}
    (done : ((work >>= next).run.run replies).2 = .ok value) :
    ∃ result, (work.run.run replies).2 = .ok result ∧
      ((next result).run.run (replies.drop (work.run.run replies).1.length)).2 = .ok value := by
  -- Work is a dialogue that ends in a failure or a value, so its second part comes after a value.
  have parts : (work >>= next).run = work.run.bind (ExceptT.bindCont next) := rfl
  rw [parts, Dialogue.run_bind] at done
  dsimp only at done
  cases first : (work.run.run replies).2 with
  | error failure =>
    rw [first] at done
    cases done
  | ok result =>
    rw [first] at done
    exact ⟨result, rfl, done⟩

/-- A dialogue that cannot fail gives its result. -/
theorem run_lift (dialogue : Dialogue α) (replies : List Reply) :
    ((liftM dialogue : Work α).run.run replies).2 = .ok (dialogue.run replies).2 := by
  have parts : (liftM dialogue : Work α).run = dialogue.bind fun result => .done (.ok result) := rfl
  rw [parts, Dialogue.run_bind]
  rfl

end Work

/-- A change that succeeds is run with what the client of the board is answered. -/
theorem OpenBoard.run_change {α : Type} {board next : OpenBoard}
    {mutation : BoardStore → Mutation α} {replies : List Reply} {value : α}
    (done : ((board.change mutation).run.run replies).2 = .ok (next, value)) :
    (mutation board.store).run (board.client.answering replies) = (next.store, .ok value) := by
  -- Carrying out the change cannot fail as work; what fails is what it returns.
  obtain ⟨⟨store, result⟩, carried, rest⟩ := Work.run_bind_ok done
  rw [Work.run_lift, Mutation.run_carryOut] at carried
  rw [Except.ok.inj carried]
  cases result with
  | error error => cases rest
  | ok made =>
    cases rest
    rfl

/-- A command that decides an approval prints the number that the decision leaves. -/
theorem Context.run_decideApproval {context : Context} {board approvalId : String}
    {status : ApprovalStatus} {replies : List Reply} {text : String}
    (done : ((context.decideApproval board approvalId status).run.run replies).2 = .ok text) :
    ∃ (loaded : OpenBoard) (left : List Reply) (after : BoardStore) (value : Approval)
      (line : String),
      ((context.openBoard board).run.run replies).2 = .ok loaded ∧
      (Mutation.decideApproval board approvalId status loaded.store).run
        (loaded.client.answering left) = (after, .ok value) ∧
      text = line ++ "  " ++ toString after.state.pendingApprovalsCount.toNat ++
        " still pending\n" := by
  -- The command opens the board, has the approval decided, and prints the number then held.
  obtain ⟨loaded, opened, rest⟩ := Work.run_bind_ok done
  obtain ⟨⟨next, value⟩, changed, printed⟩ := Work.run_bind_ok rest
  exact ⟨loaded, _, next.store, value, _, opened, OpenBoard.run_change changed,
    (Except.ok.inj printed).symm⟩

/--
A command that decides an approval prints the number of pending approvals that it loaded.

This is so whatever had been decided before, and whatever the server replies.
-/
theorem Context.run_decideApproval_loaded {context : Context} {board approvalId : String}
    {status : ApprovalStatus} {replies : List Reply} {text : String}
    (done : ((context.decideApproval board approvalId status).run.run replies).2 = .ok text) :
    ∃ (loaded : OpenBoard) (left : List Reply) (after : BoardStore) (value : Approval)
      (line : String),
      ((context.openBoard board).run.run replies).2 = .ok loaded ∧
      (Mutation.decideApproval board approvalId status loaded.store).run
        (loaded.client.answering left) = (after, .ok value) ∧
      text = line ++ "  " ++ toString loaded.store.state.pendingApprovalsCount.toNat ++
        " still pending\n" := by
  obtain ⟨loaded, left, after, value, line, opened, changed, shown⟩ :=
    Context.run_decideApproval done
  obtain ⟨heard, decided, answered⟩ := Mutation.answered_decideApproval changed
  -- Nothing else happens to a board while a command waits for its answer.
  obtain rfl : loaded.store = heard := congrArg Prod.fst answered
  -- A decision does not touch the number, so the one that is printed is the one that was loaded.
  have kept := (Mutation.run_decideApproval answered changed).1
  exact ⟨loaded, left, after, value, line, opened, changed, kept ▸ shown⟩

/--
A decision leaves the number of pending approvals that is held as it was.

Of the approvals that wait there is one fewer if the one that was decided had waited, so a number
that was right stays right just for an approval that had been decided before. The command prints the
number that it loaded.
-/
theorem decision_keeps_count {boardId approvalId : String} {status : ApprovalStatus}
    {decided : Patch} {answer : {β : Type} → Call β → BoardStore → BoardStore × Except ApiError β}
    {store heard after : BoardStore} {held value : Approval} (decides : status ≠ .pending)
    (answered : answer (.decideApproval boardId approvalId status) store = (heard, .ok decided))
    (found : heard.state.approvals.find? (·.id = approvalId) = some held)
    (named : decided.id? = some approvalId)
    (given : (decided.get? "status").bind Codec.approvalStatus.decode? = some status)
    (done : (Mutation.decideApproval boardId approvalId status store).run answer =
      (after, .ok value)) :
    after.state.pendingApprovalsCount = heard.state.pendingApprovalsCount ∧
    heard.state.waiting = after.state.waiting + (if held.status = .pending then 1 else 0) ∧
    (heard.state.CountsWaiting → (after.state.CountsWaiting ↔ held.status ≠ .pending)) ∧
    ∀ (context : Context) (replies : List Reply) (text : String),
      ((context.decideApproval boardId approvalId status).run.run replies).2 = .ok text →
      ∃ (loaded : OpenBoard) (left : List Reply) (after : BoardStore) (value : Approval)
        (line : String),
        ((context.openBoard boardId).run.run replies).2 = .ok loaded ∧
        (Mutation.decideApproval boardId approvalId status loaded.store).run
          (loaded.client.answering left) = (after, .ok value) ∧
        text = line ++ "  " ++ toString loaded.store.state.pendingApprovalsCount.toNat ++
          " still pending\n" := by
  obtain ⟨kept, -⟩ := Mutation.run_decideApproval answered done
  -- The decided approval waits no longer, and no other one is touched.
  have waiting := Mutation.waiting_decideApproval decides answered found named given done
  refine ⟨kept, waiting, fun right => ?_, fun _ _ _ => Context.run_decideApproval_loaded⟩
  -- The number stays, so it is right just if as many approvals wait as before.
  simp only [BoardState.CountsWaiting, kept] at right ⊢
  split at waiting
  · -- It had waited, so that one fewer waits now.
    rename_i pending
    simp only [pending, ne_eq, not_true_eq_false, iff_false]
    omega
  · rename_i other
    -- It had been decided before, so that as many wait.
    simp only [ne_eq, other, not_false_eq_true, iff_true]
    omega

/-- A board with one approval, which waits, and the number one. -/
def oneWaiting : BoardStore :=
  ⟨{ BoardState.empty "b" with
    approvals := [{ Approval.schema.blank with id := "p" }]
    pendingApprovalsCount := 1 }, 0⟩

/-- The answer to the approval of that board. -/
def approved : Patch := [("id", .string "p"), ("status", .string "approved")]

/-- A server that gives that answer. -/
def approving {β : Type} : Call β → Except ApiError β
  | .decideApproval .. => .ok approved
  | _ => .error .notSignedIn

/-- A number that was right is one too many once the one approval that waited is decided. -/
theorem not_forall_counts_kept :
    ¬ ∀ (boardId approvalId : String) (status : ApprovalStatus) (decided : Patch)
      (answer : {β : Type} → Call β → BoardStore → BoardStore × Except ApiError β)
      (store heard after : BoardStore) (held value : Approval),
      heard.state.CountsWaiting → status ≠ .pending →
      answer (.decideApproval boardId approvalId status) store = (heard, .ok decided) →
      heard.state.approvals.find? (·.id = approvalId) = some held →
      decided.id? = some approvalId →
      (decided.get? "status").bind Codec.approvalStatus.decode? = some status →
      (Mutation.decideApproval boardId approvalId status store).run answer = (after, .ok value) →
      after.state.CountsWaiting := by
  intro kept
  -- One approval waits and is counted, and after the decision it is counted still.
  have right := kept "b" "p" .approved _ (Mutation.promptly approving) oneWaiting oneWaiting _ _ _
    (by decide) (by decide) rfl rfl rfl (by decide) rfl
  exact absurd right (by decide)

/-- A user who is signed in, at a plain terminal. -/
def signedIn : Context :=
  ⟨⟨false, false⟩, { Settings.standard with token := some "token" }, .none none, {}⟩

/-- The snapshot of such a board. -/
def waitingSnapshot : Json :=
  .object [("board", .object [("id", .string "b"), ("name", .string "Ops")]),
    ("approvals", .array [.object [("id", .string "p"), ("action_type", .string "deploy"),
      ("confidence", .ofNat 1), ("created_at", .string "2024-01-01T00:00:00Z")]]),
    ("pending_approvals_count", .ofNat 1)]

/-- The replies of a server that has such a board and gives that answer. -/
def waitingReplies : List Reply :=
  [.answered 200 waitingSnapshot.compact true, .answered 200 (Json.object approved).compact true]

/-- The one approval that waited is decided, and the command says that there is one still. -/
theorem decision_keeps_count_oneWaiting :
    (∃ after value,
      (Mutation.decideApproval "b" "p" .approved oneWaiting).run (Mutation.promptly approving) =
        (after, .ok value) ∧
      after.state.pendingApprovalsCount = 1 ∧ after.state.waiting = 0 ∧
      ¬ after.state.CountsWaiting) ∧
    ∃ (loaded : OpenBoard) (line : String),
      ((signedIn.openBoard "b").run.run waitingReplies).2 = .ok loaded ∧
      "[OK]Deploy approved (p)\n  1 still pending\n" =
        line ++ "  " ++ toString loaded.store.state.pendingApprovalsCount.toNat ++
          " still pending\n" := by
  obtain ⟨kept, waiting, right, command⟩ := @decision_keeps_count "b" "p" .approved _
    (Mutation.promptly approving) oneWaiting oneWaiting _ _ _ (by decide) rfl rfl rfl (by decide)
    rfl
  constructor
  · -- One waited before, so that none does now.
    have whole : 1 = _ + 1 := waiting
    exact ⟨_, _, rfl, kept, by omega, fun counted => (right (by decide)).mp counted rfl⟩
  · have printed : ((signedIn.decideApproval "b" "p" .approved).run.run waitingReplies).2 =
        .ok "[OK]Deploy approved (p)\n  1 still pending\n" := by decide +kernel
    obtain ⟨loaded, _, _, _, line, opened, -, text⟩ := command signedIn waitingReplies _ printed
    exact ⟨loaded, line, opened, text⟩

end Cli

end LiveBoard
