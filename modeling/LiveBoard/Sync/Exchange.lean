import LiveBoard.Api.Client
import LiveBoard.Sync.Mutation

/-! Changes to the board that are carried out through a client. -/

namespace LiveBoard

/-- Carry out a change through a client while nothing else happens to the board. -/
def Mutation.carryOut {α : Type} (client : Client) :
    Mutation α → Dialogue (BoardStore × Except SyncError α)
  | .finished store result => .done (store, result)
  -- Nothing else happens to the store, so the change finds it as it left it.
  | .asking store call resume => (client.call call).bind fun reply => .done (resume store reply)

end LiveBoard
