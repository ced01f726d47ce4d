import LiveBoard.Cli.Execution
import LiveBoard.Stream.Subscriber
import LiveBoard.Sync.Session

/-! A board that is followed live, and drawn anew after every change. -/

namespace LiveBoard

/-- The stores with a new revision that come about while actions are applied. -/
def BoardStore.changes (store : BoardStore) : List BoardAction → List BoardStore
  | [] => []
  | action :: rest =>
    let next := store.apply action
    -- A refused action leaves the revision as it is, and is not drawn.
    (if next.revision = store.revision then [] else [next]) ++ next.changes rest

namespace Cli

/-- The control characters that clear a terminal. -/
def clearScreen : String := "\r\x1b[2J\r\x1b[H"

/-- The screen that shows a store. -/
def Context.screen (context : Context) (store : BoardStore) : String :=
  let terminal := context.terminal
  let status := "Live · revision " ++ toString store.revision ++ " · Ctrl-C to stop"
  clearScreen ++ terminal.board store.state none context.platform.zone ++ "\n" ++
    terminal.icon .live ++ terminal.paint .dim status ++ "\n"

/-- A board that is followed, with the client of its server. -/
structure Watch where
  context : Context
  client : Client
  sync : BoardSync

namespace Watch

/--
Load a board and start its feeds.

Without a token there is nothing to follow. A board that cannot be loaded for another reason is
followed all the same, and shows why it is empty.
-/
def start (context : Context) (board : String) : Work Watch := do
  let client ← context.client
  let sync := BoardSync.new board client.isSignedIn
  let (store, result) ← (Mutation.loadSnapshot board sync.store).carryOut client
  if let .error (.api .notSignedIn) := result then throw (.ofApi .notSignedIn)
  match { sync with store := store }.startStreams with
  | (sync, .ok ()) => return ⟨context, client, sync⟩
  | (_, .error error) => throw (.ofApi error)

/-- Follow one feed over one connection, and list the screens that are drawn meanwhile. -/
def follow (watch : Watch) (feed : Feed) : Dialogue (Watch × List String) := do
  let sync := watch.sync
  let settings := watch.context.settings
  let subscription : Subscription :=
    ⟨feed, sync.boardId, settings.reconnectDelay.toNat, settings.frameLimit.toNat⟩
  let state := sync.store.state
  match ← watch.client.openFeed (feed.request sync.boardId) (feed.cursor state) with
  | .error _ => return (watch, [])
  | .ok body =>
    -- A body arrives as a whole, so it is one chunk, which the failure of the body comes after.
    let failed := if body.failure.isSome then [Delivery.failure] else []
    let (_, progress) := subscription.follow .never ⟨sync.store, [], []⟩
      (.opened (.chunk (Text.toUtf8 body.text) :: failed))
    let drawn := (sync.store.changes progress.applied).map watch.context.screen
    return ({ watch with sync := { sync with store := progress.store } }, drawn)

/-- Follow feeds one after the other, each over one connection. -/
def followAll (watch : Watch) : List Feed → Dialogue (Watch × List String)
  | [] => return (watch, [])
  | feed :: rest => do
    let (watch, drawn) ← watch.follow feed
    let (watch, later) ← watch.followAll rest
    return (watch, drawn ++ later)

/-- Let every feed connect once, and list the screens that are drawn meanwhile. -/
def round (watch : Watch) : Dialogue (Watch × List String) := watch.followAll watch.sync.running

/-- Let every feed connect so many times. -/
def rounds (watch : Watch) : Nat → Dialogue (List String)
  | 0 => return []
  | count + 1 => do
    let (watch, drawn) ← watch.round
    return drawn ++ (← watch.rounds count)

/-- The rounds in which the feeds make a number of requests between them. -/
def roundsFor (watch : Watch) (requests : Nat) : Nat :=
  let feeds := watch.sync.running.length
  (requests + feeds - 1) / feeds

end Watch

/-- Follow a board until so many requests have been made, and say what is printed. -/
def Context.watch (context : Context) (board : String) (requests : Nat) : Work String := do
  let watch ← Watch.start context board
  -- One request has already loaded the board.
  let drawn ← watch.rounds (watch.roundsFor (requests - 1))
  return String.join (context.screen watch.sync.store :: drawn)

end Cli

end LiveBoard
