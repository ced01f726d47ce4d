import LiveBoard.Board.Action

/-! The holder of the local copy, which counts the actions it has applied. -/

namespace LiveBoard

/--
The local copy with the number of actions applied to it.

The number is one of 64 bits. It starts at zero and grows by one at a time, so that it takes
`2 ^ 64` actions to pass the last of those, and no run that can be made does.
-/
structure BoardStore where
  state : BoardState
  revision : Nat
  deriving DecidableEq

namespace BoardStore

/-- A store of a board of which nothing is known yet. -/
def empty (boardId : String) : BoardStore := ⟨.empty boardId, 0⟩

/-- Apply an action; the revision grows unless the action is refused. -/
def dispatch (store : BoardStore) (action : BoardAction) : BoardStore × Except Refusal Unit :=
  let outcome := store.state.reduce action
  match outcome.refusal with
  -- Observers go by the revision, so an action that changed nothing is not counted.
  | none => (⟨outcome.state, store.revision + 1⟩, .ok ())
  | some refusal => (⟨outcome.state, store.revision⟩, .error refusal)

/-- Apply an action and let go of why it was refused, if it was. -/
def apply (store : BoardStore) (action : BoardAction) : BoardStore :=
  (store.dispatch action).1

/-- Apply actions one after the other, refused ones changing nothing that follows. -/
def applyAll (store : BoardStore) (actions : List BoardAction) : BoardStore :=
  actions.foldl apply store

end BoardStore

end LiveBoard
