import LiveBoard.Proofs.Stream.Following

/-! A subscriber that is stopped has done what it would have done anyway, up to a look it took. -/

namespace LiveBoard

open EventStream

namespace Subscription

/-! ## One thing at a time -/

/-- What a subscriber does next. -/
inductive Step where
  /-- It looks at its token, and goes on only if that has not fired. -/
  | look
  | attempt (made : Attempt)
  | apply (action : BoardAction)
  deriving DecidableEq

/-- The attempt that a step starts, if it starts one. -/
def Step.attempt? : Step → Option Attempt
  | .attempt made => some made
  | _ => none

/-- The action that a step applies, if it applies one. -/
def Step.action? : Step → Option BoardAction
  | .apply action => some action
  | _ => none

/-- The actions that steps apply. -/
def actionsOf (steps : List Step) : List BoardAction := steps.filterMap Step.action?

/-- The attempts that steps start. -/
def attemptsOf (steps : List Step) : List Attempt := steps.filterMap Step.attempt?

/-- Actions are applied one by one, with a look before each. -/
def guarded (actions : List BoardAction) : List Step :=
  actions.flatMap fun action => [.look, .apply action]

/-- The steps that a body asks for until it ends, or falls silent. -/
def bodySteps (feed : Feed) (decoder : Decoder) : List Delivery → List Step
  | [] | .failure :: _ => [.look]
  | .silence :: _ => []
  | .chunk bytes :: rest =>
    -- The look before a chunk comes before the decoder sees it.
    let (decoder, report) := decoder.push bytes
    .look :: (guarded (report.frames.flatMap feed.actionsOf) ++ bodySteps feed decoder rest)

/-- The steps up to an attempt. -/
def opening (subscription : Subscription) (time : Nat) (progress : Progress) : List Step :=
  [.look, .look, .attempt (subscription.attempt time progress.store.state)]

/-- The steps from an attempt to the end of the connection. -/
def inside (subscription : Subscription) : Connection → List Step
  | .refused => [.look]
  | .opened body => .look :: bodySteps subscription.feed (.new subscription.frameLimit) body

end Subscription

/-- Progress after one step more. -/
def Progress.carry (progress : Progress) : Subscription.Step → Progress
  | .look => progress
  | .attempt made => progress.note made
  | .apply action => progress.take [action]

namespace Subscription

/--
The steps of a subscriber whose token never fires.

A connection that falls silent is the last one: nothing ends the wait for it.
-/
def course (subscription : Subscription) (time : Nat) (progress : Progress) :
    List Connection → List Step
  | [] => subscription.opening time progress
  | connection :: rest =>
    let round := subscription.opening time progress ++ subscription.inside connection
    if Ends connection.body then
      -- The delay ends with a look, and the next attempt goes by what the round has left.
      round ++ .look :: course subscription (time + subscription.reconnectDelay)
        (round.foldl Progress.carry progress) rest
    else round

/-! ## No step goes unwatched -/

/-- Every attempt and every action comes right after a look. -/
inductive Watched : List Step → Prop where
  | nil : Watched []
  | look {steps : List Step} : Watched steps → Watched (.look :: steps)
  | done (step : Step) {steps : List Step} : Watched steps → Watched (.look :: step :: steps)

/-- Watched steps may follow each other. -/
theorem Watched.append {steps more : List Step} (first : Watched steps) (second : Watched more) :
    Watched (steps ++ more) := by
  -- No step of the first ones is left open, so the others may begin with anything that is watched.
  induction first with
  | nil => exact second
  | look _ ih => exact .look ih
  | done step _ ih => exact .done step ih

/-- Guarded actions are watched. -/
theorem watched_guarded (actions : List BoardAction) : Watched (guarded actions) := by
  induction actions with
  | nil => exact .nil
  | cons action actions ih => exact .done (.apply action) ih

/-- All that a body brings is watched. -/
theorem watched_bodySteps (feed : Feed) (decoder : Decoder) (body : List Delivery) :
    Watched (bodySteps feed decoder body) := by
  -- Along the deliveries, whatever the decoder has taken in by then.
  induction body generalizing decoder with
  | nil => exact .look .nil
  | cons delivery body ih =>
    cases delivery with
    | failure => exact .look .nil
    | silence => exact .nil
    | chunk bytes => exact .look ((watched_guarded _).append (ih _))

/-- Every step of a subscriber is watched. -/
theorem watched_course (subscription : Subscription) (time : Nat) (progress : Progress)
    (script : List Connection) : Watched (subscription.course time progress script) := by
  have opened : ∀ (time : Nat) (progress : Progress),
      Watched (subscription.opening time progress) := fun time progress => .look (.done _ .nil)
  have followed : ∀ connection, Watched (subscription.inside connection) := by
    intro connection
    cases connection with
    | refused => exact .look .nil
    | opened body => exact .look (watched_bodySteps subscription.feed _ body)
  -- Every round is an opening, what is inside, and a look if there is another round.
  induction script generalizing time progress with
  | nil => exact opened time progress
  | cons connection script ih =>
    rw [course]
    split
    · exact ((opened time progress).append (followed connection)).append (.look (ih _ _))
    · exact (opened time progress).append (followed connection)

/-! ## What steps leave -/

/-- Steps start the attempts that are in them. -/
theorem attempts_foldl_carry (progress : Progress) (steps : List Step) :
    (steps.foldl Progress.carry progress).attempts = progress.attempts ++ attemptsOf steps := by
  -- One step adds its attempt at the end, if it starts one.
  induction steps generalizing progress with
  | nil => simp [attemptsOf]
  | cons step steps ih =>
    rw [List.foldl_cons, ih]
    cases step <;>
      simp [attemptsOf, Progress.carry, Progress.note, Progress.take, Step.attempt?,
        List.filterMap_cons]

/-- Steps apply the actions that are in them, and change the store by nothing else. -/
theorem applied_foldl_carry (progress : Progress) (steps : List Step) :
    (steps.foldl Progress.carry progress).applied = progress.applied ++ actionsOf steps ∧
      (steps.foldl Progress.carry progress).store =
        progress.store.applyAll (actionsOf steps) := by
  -- What was applied and what is stored change by the same steps, so they are followed together.
  induction steps generalizing progress with
  | nil => simp [actionsOf, BoardStore.applyAll]
  | cons step steps ih =>
    obtain ⟨applied, store⟩ := ih (progress.carry step)
    rw [List.foldl_cons, applied, store]
    cases step <;>
      simp [actionsOf, Progress.carry, Progress.note, Progress.take, Step.action?,
        BoardStore.applyAll, List.filterMap_cons]

/-! ## A subscriber takes the steps of its course -/

/-- Take steps up to a look that sees the token as fired. -/
def carryOut (token : Token) (progress : Progress) : List Step → Option Token × Progress
  | [] => (some token, progress)
  | .look :: rest =>
    match token.look? with
    | none => (none, progress)
    | some token => carryOut token progress rest
  | .attempt made :: rest => carryOut token (progress.note made) rest
  | .apply action :: rest => carryOut token (progress.take [action]) rest

/-- Steps may be taken in two goes, of which a token that fires in the first one is the last. -/
theorem carryOut_append (token : Token) (progress : Progress) (steps more : List Step) :
    carryOut token progress (steps ++ more) =
      match carryOut token progress steps with
      | (none, progress) => (none, progress)
      | (some token, progress) => carryOut token progress more := by
  induction steps generalizing token progress with
  | nil => rfl
  | cons step steps ih =>
    cases step with
    | look =>
      -- A look that sees the token as fired ends both goes.
      simp only [List.cons_append, carryOut]
      cases token.look? with
      | none => rfl
      | some token => exact ih token progress
    | attempt made => exact ih token _
    | apply action => exact ih token _

/-- Steps that no look has stopped were all taken. -/
theorem left_of_carryOut {token rest : Token} {progress left : Progress} {steps : List Step}
    (taken : carryOut token progress steps = (some rest, left)) :
    left = steps.foldl Progress.carry progress := by
  -- Along the steps, each of which was taken because the token let it.
  induction steps generalizing token progress with
  | nil => exact (congrArg Prod.snd taken).symm
  | cons step steps ih =>
    cases step with
    | look =>
      simp only [carryOut] at taken
      cases seen : token.look? with
      -- A look that sees the token as fired would have left no token.
      | none => simp [seen] at taken
      | some token =>
        rw [seen] at taken
        exact ih taken
    | attempt made => exact ih taken
    | apply action => exact ih taken

/-- A token that never fires lets all steps be taken. -/
theorem carryOut_never (progress : Progress) (steps : List Step) :
    carryOut .never progress steps = (some .never, steps.foldl Progress.carry progress) := by
  -- Such a token is the same after every look.
  induction steps generalizing progress with
  | nil => rfl
  | cons step steps ih =>
    cases step <;> exact ih _

/-- A token that fires after so many looks stops the steps at the next one, if there is one. -/
theorem carryOut_afterLooks (looks : Nat) (progress : Progress) (steps : List Step) :
    ∃ before after, steps = before ++ after ∧
      (carryOut (.afterLooks looks) progress steps).2 = before.foldl Progress.carry progress ∧
      before.count .look ≤ looks ∧
      (after ≠ [] → after.head? = some .look ∧ before.count .look = looks) := by
  -- Along the steps, with as many looks left as the token still lets pass.
  induction steps generalizing looks progress with
  | nil => exact ⟨[], [], rfl, rfl, Nat.zero_le looks, fun more => absurd rfl more⟩
  | cons step steps ih =>
    -- A step that is no look is taken whatever the token.
    have other : step ≠ .look → carryOut (.afterLooks looks) progress (step :: steps) =
        carryOut (.afterLooks looks) (progress.carry step) steps := by
      cases step <;> simp [carryOut, Progress.carry]
    by_cases looked : step = .look
    · subst looked
      cases looks with
      -- This is the look that sees the token as fired, so the first part ends before it.
      | zero => exact ⟨[], .look :: steps, rfl, rfl, le_rfl, fun _ => ⟨rfl, rfl⟩⟩
      | succ looks =>
        obtain ⟨before, after, split, left, few, stopped⟩ := ih looks progress
        have counted : (Step.look :: before).count .look = before.count .look + 1 :=
          List.count_cons_self
        refine ⟨.look :: before, after, by rw [split]; rfl, left, ?_, fun more => ?_⟩
        · rw [counted]
          exact Nat.succ_le_succ few
        · obtain ⟨next, all⟩ := stopped more
          exact ⟨next, by rw [counted, all]⟩
    · obtain ⟨before, after, split, left, few, stopped⟩ := ih looks (progress.carry step)
      have counted : (step :: before).count .look = before.count .look :=
        List.count_cons_of_ne looked
      refine ⟨step :: before, after, by rw [split]; rfl, ?_, ?_⟩
      · rw [other looked, left]
        rfl
      · rw [counted]
        exact ⟨few, stopped⟩

variable {subscription : Subscription}

/-- A look is a step of its own. -/
theorem look_eq_carryOut (token : Token) (progress : Progress) :
    (token.look?, progress) = carryOut token progress [.look] := by
  simp only [carryOut]
  cases token.look? <;> rfl

/-- To apply actions one by one is to take the guarded steps. -/
theorem applyEach_eq_carryOut (token : Token) (progress : Progress) (actions : List BoardAction) :
    applyEach token progress actions = carryOut token progress (guarded actions) := by
  -- Each action is a look and then the action itself.
  induction actions generalizing token progress with
  | nil => rfl
  | cons action actions ih =>
    simp only [applyEach, guarded, List.flatMap_cons, List.cons_append, List.nil_append, carryOut]
    cases token.look? with
    | none => rfl
    | some token => exact ih token _

/-- To receive a body is to take its steps, though one that falls silent goes on to nothing else. -/
theorem receive_eq_carryOut (feed : Feed) (token : Token) (decoder : Decoder)
    (progress : Progress) (body : List Delivery) :
    receive feed token decoder progress body =
      if Ends body then carryOut token progress (bodySteps feed decoder body)
      else (none, (carryOut token progress (bodySteps feed decoder body)).2) := by
  -- Along the deliveries; the two sides part at a silence, which only the token can end.
  induction body generalizing token decoder progress with
  | nil => exact look_eq_carryOut token progress
  | cons delivery body ih =>
    cases delivery with
    | failure => exact look_eq_carryOut token progress
    -- A silent body is no step: nothing but the token ends the wait for it.
    | silence => rfl
    | chunk bytes =>
      have same : Ends (.chunk bytes :: body) ↔ Ends body := Iff.rfl
      simp only [receive, bodySteps, carryOut, same]
      cases token.look? with
      | none => simp
      | some token =>
        -- The token may fire between the actions of the chunk, and then the rest is not received.
        simp only [carryOut_append, applyEach_eq_carryOut]
        rcases carryOut token progress _ with ⟨_ | token, progress⟩
        · simp
        · exact ih token _ progress

/-- To make an attempt is to take the steps up to it. -/
theorem connect_eq_carryOut (token : Token) (time : Nat) (progress : Progress) :
    subscription.connect token time progress =
      carryOut token progress (subscription.opening time progress) := by
  simp only [connect, opening, carryOut]
  cases token.look? with
  | none => rfl
  | some token =>
    simp only [Option.bind_some]
    cases token.look? <;> rfl

/-- To follow a connection is to take its steps, and to look once more when it has ended. -/
theorem follow_eq_carryOut (token : Token) (progress : Progress) (connection : Connection) :
    subscription.follow token progress connection =
      if Ends connection.body then
        carryOut token progress (subscription.inside connection ++ [.look])
      else (none, (carryOut token progress (subscription.inside connection)).2) := by
  unfold follow
  cases connection with
  | refused =>
    simp only [inside, Connection.body, Ends, if_true, List.cons_append, List.nil_append, carryOut]
    cases token.look? with
    | none => rfl
    | some token => exact look_eq_carryOut token progress
  | opened body =>
    simp only [inside, Connection.body, List.cons_append, carryOut]
    cases token.look? with
    | none => simp
    | some token =>
      simp only [receive_eq_carryOut]
      by_cases ends : Ends body
      · -- The look that comes after the body is the one in the delay.
        simp only [if_pos ends, carryOut_append]
        rcases carryOut token progress _ with ⟨_ | token, progress⟩
        · rfl
        · exact look_eq_carryOut token progress
      · simp only [if_neg ends]

/-- To run is to take the steps of the course. -/
theorem run_eq_carryOut (token : Token) (time : Nat) (progress : Progress)
    (script : List Connection) :
    subscription.run token time progress script =
      (carryOut token progress (subscription.course time progress script)).2 := by
  -- Round by round: making an attempt, following the connection, waiting for the delay.
  induction script generalizing token time progress with
  | nil => rw [run, connect_eq_carryOut, course]
  | cons connection script ih =>
    simp only [run, connect_eq_carryOut, follow_eq_carryOut, course]
    by_cases ends : Ends connection.body
    · -- The look that ends the delay belongs to the connection before it.
      have apart : ∀ more, subscription.opening time progress ++ subscription.inside connection ++
          .look :: more = subscription.opening time progress ++
            (subscription.inside connection ++ [.look] ++ more) := by simp
      simp only [if_pos ends, apart, carryOut_append token progress]
      rcases opened : carryOut token progress _ with ⟨_ | token, made⟩
      · rfl
      · dsimp only
        rw [carryOut_append token made (subscription.inside connection ++ [Step.look])]
        rcases followed : carryOut token made _ with ⟨_ | token, left⟩
        · rfl
        · -- What the next attempt starts from does not depend on the token.
          have same : left = (subscription.opening time progress ++
              subscription.inside connection).foldl Progress.carry progress := by
            rw [left_of_carryOut followed, left_of_carryOut opened]
            simp [List.foldl_append, Progress.carry]
          simp only [ih, same]
    · -- A connection that does not end is the last one, whatever comes after it in the script.
      simp only [if_neg ends, carryOut_append token progress]
      rcases carryOut token progress _ with ⟨_ | token, made⟩ <;> rfl

/--
A subscriber that is stopped has done the first part of what it would have done anyway.

The first part ends where a look sees that the token has fired: nothing comes after that look,
neither an action nor an attempt, and the store is what the actions before it left. As every attempt
and every action comes right after a look, none slips through, whenever the token fires: before an
attempt or while it is under way, before a chunk, between two actions of one chunk, or in the delay
after a connection.
-/
theorem run_afterLooks_prefix (subscription : Subscription) (looks time : Nat)
    (progress : Progress) (script : List Connection) :
    let whole := subscription.run .never time progress script
    let stopped := subscription.run (.afterLooks looks) time progress script
    stopped.applied <+: whole.applied ∧ stopped.attempts <+: whole.attempts ∧
      (∃ actions, stopped.applied = progress.applied ++ actions ∧
        stopped.store = progress.store.applyAll actions) ∧
      ∃ before after, subscription.course time progress script = before ++ after ∧
        stopped = before.foldl .carry progress ∧
        whole = (before ++ after).foldl .carry progress ∧
        Watched (before ++ after) ∧ before.count .look ≤ looks ∧
        (after ≠ [] → after.head? = some .look ∧ before.count .look = looks) := by
  intro whole stopped
  -- Both runs take steps of one course, the stopped one as far as the look that sees the token.
  obtain ⟨before, after, split, left, few, fired⟩ :=
    carryOut_afterLooks looks progress (subscription.course time progress script)
  have first : stopped = before.foldl .carry progress := by
    rw [← left]
    exact run_eq_carryOut (.afterLooks looks) time progress script
  have all : whole = (before ++ after).foldl .carry progress := by
    rw [← split]
    exact (run_eq_carryOut .never time progress script).trans
      (congrArg Prod.snd (carryOut_never progress _))
  obtain ⟨applied, store⟩ := applied_foldl_carry progress before
  refine ⟨?_, ?_, ⟨actionsOf before, by rw [first, applied], by rw [first, store]⟩,
    before, after, split, first, all, ?_, few, fired⟩
  · -- What the rest of the course applies comes after what the first part has applied.
    rw [all, first, List.foldl_append, (applied_foldl_carry _ after).1]
    exact List.prefix_append _ _
  · rw [all, first, List.foldl_append, attempts_foldl_carry _ after]
    exact List.prefix_append _ _
  · rw [← split]
    exact subscription.watched_course time progress script

/-- A token that fires between two actions of one chunk keeps the second one from being applied. -/
example :
    let script := [.opened [.chunk (changedFrame ++ changedFrame)]]
    (((followed .tasks).run (.afterLooks 5) 0 fresh script).applied.length,
      (cameTo .tasks script).applied.length) = (1, 2) := by
  decide +kernel

end Subscription

end LiveBoard
