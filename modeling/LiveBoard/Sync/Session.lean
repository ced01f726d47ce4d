import LiveBoard.Api.Error
import LiveBoard.Stream.Subscriber

/-! One board kept in sync: the feeds that follow it, and when they may start. -/

namespace LiveBoard

/-- The feeds of one board, over one local copy. -/
structure BoardSync where
  boardId : String
  signedIn : Bool
  store : BoardStore
  /-- The feeds that were started, in the order of their start. -/
  running : List Feed
  /-- Whether the token that all feeds share has fired. -/
  cancelled : Bool

namespace BoardSync

/-- A board of which nothing is known yet. -/
def new (boardId : String) (signedIn : Bool) : BoardSync :=
  ⟨boardId, signedIn, .empty boardId, [], false⟩

/-- The feeds that may run: without a loaded board only the one of the agents. -/
def allowedFeeds (sync : BoardSync) : List Feed :=
  -- The agents are listed even where the board itself cannot be loaded.
  if sync.store.state.board.isSome then Feed.all else [.agents]

/-- The feeds that run once one of them is started; one that runs already is not started again. -/
def spawn (running : List Feed) (feed : Feed) : List Feed :=
  if running.contains feed then running else running ++ [feed]

/-- Start the feeds that may run and do not run yet. -/
def startStreams (sync : BoardSync) : BoardSync × Except ApiError Unit :=
  if sync.signedIn then
    ({ sync with running := sync.allowedFeeds.foldl spawn sync.running }, .ok ())
  else (sync, .error .notSignedIn)

/-- Whether feeds run that are not cancelled. -/
def isStreaming (sync : BoardSync) : Bool :=
  !sync.running.isEmpty && !sync.cancelled

/-- Cancel all feeds and wait for them to stop; no later start runs any step. -/
def shutdown (sync : BoardSync) : BoardSync :=
  { sync with running := [], cancelled := true }

/-- A feed with the connections that its next attempts will find. -/
structure Follower where
  subscription : Subscription
  connections : List Connection

/-- Let one feed make an attempt and follow it, and say what is left for it to find. -/
def Follower.advance (follower : Follower) (time : Nat) (progress : Progress) :
    Progress × Option Follower :=
  match follower.subscription.connect .never time progress, follower.connections with
  | (none, progress), _ | (_, progress), [] => (progress, none)
  | (some token, progress), connection :: rest =>
    match follower.subscription.follow token progress connection with
    | (none, progress) => (progress, none)
    | (some _, progress) => (progress, some { follower with connections := rest })

/-- Let each feed make one attempt, in the order of their start. -/
def advanceAll (time : Nat) (progress : Progress) : List Follower → Progress × List Follower
  | [] => (progress, [])
  | follower :: rest =>
    let (progress, left) := follower.advance time progress
    let (progress, others) := advanceAll time progress rest
    (progress, left.toList ++ others)

/-- Let feeds with the same delay run side by side for so many rounds of attempts. -/
def runRounds (rounds delay time : Nat) (progress : Progress) (followers : List Follower) :
    Progress :=
  match rounds, followers with
  | 0, _ | _, [] => progress
  | rounds + 1, followers =>
    let (progress, followers) := advanceAll time progress followers
    runRounds rounds delay (time + delay) progress followers

/-- Let feeds with the same delay run side by side until none of them has anything left to find. -/
def runTogether (delay : Nat) (progress : Progress) (followers : List Follower) : Progress :=
  -- Each round uses up one connection of every feed, and the attempt after the last one waits.
  let rounds := (followers.map fun follower => follower.connections.length + 1).foldl max 0
  runRounds rounds delay 0 progress followers

end BoardSync

end LiveBoard
