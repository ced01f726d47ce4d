import LiveBoard.Board.Store
import LiveBoard.Stream.Feed

/-! Following a feed over any number of connections until it is cancelled. -/

namespace LiveBoard

open EventStream

/--
The token that stops a subscriber.

The subscriber looks at it before every step. A token that fires after so many looks is seen as
fired by every later one.
-/
inductive Token where
  | never
  | afterLooks (looks : Nat)
  deriving DecidableEq

/-- Look at a token: nothing once it has fired, else what it is for the next look. -/
def Token.look? : Token → Option Token
  | .never => some .never
  | .afterLooks 0 => none
  | .afterLooks (looks + 1) => some (.afterLooks looks)

/-- What the body of a connection delivers next. -/
inductive Delivery where
  | chunk (bytes : List UInt8)
  /-- The body cannot be read, and whatever comes after is not asked for. -/
  | failure
  /-- The connection stays open and silent until the subscriber is cancelled. -/
  | silence
  deriving DecidableEq

/-- What comes of one attempt to connect; a body that has delivered everything is closed. -/
inductive Connection where
  | refused
  | opened (body : List Delivery)
  deriving DecidableEq

/-- One attempt to connect: what was asked for, and when, in milliseconds from the start. -/
structure Attempt where
  path : String
  query : List (String × String)
  time : Nat
  deriving DecidableEq

/-- What a subscriber has done so far. -/
structure Progress where
  store : BoardStore
  attempts : List Attempt
  applied : List BoardAction

/-- How a feed is followed. -/
structure Subscription where
  feed : Feed
  boardId : String
  reconnectDelay : Nat
  frameLimit : Nat

namespace Subscription

/-- The delay before the next attempt unless another is given, in milliseconds. -/
def defaultDelay : Nat := 3000

/-- Apply actions one by one, looking at the token before each. -/
def applyEach (token : Token) (progress : Progress) : List BoardAction → Option Token × Progress
  | [] => (some token, progress)
  | action :: rest =>
    match token.look? with
    | none => (none, progress)
    | some token =>
      applyEach token
        { progress with
          store := progress.store.apply action
          applied := progress.applied ++ [action] } rest

/--
Deliver a body to a decoder, looking at the token before each delivery and once more at the end.

A failure ends the connection like the end of the body does; a silent one waits for the token.
-/
def receive (feed : Feed) (token : Token) (decoder : Decoder) (progress : Progress) :
    List Delivery → Option Token × Progress
  | [] | .failure :: _ => (token.look?, progress)
  | .silence :: _ => (none, progress)
  | .chunk bytes :: rest =>
    match token.look? with
    | none => (none, progress)
    | some token =>
      -- An overflow is reported, but does not end the connection.
      let (decoder, report) := decoder.push bytes
      match applyEach token progress (report.frames.flatMap feed.actionsOf) with
      | (none, progress) => (none, progress)
      | (some token, progress) => receive feed token decoder progress rest

/-- The attempt that is made with the local copy as it stands. -/
def attempt (subscription : Subscription) (time : Nat) (state : BoardState) : Attempt :=
  let request := subscription.feed.request subscription.boardId
  -- The cursor is taken anew for each attempt, from what the last connection brought.
  ⟨request.path, request.queryFrom (subscription.feed.cursor state), time⟩

/-- Start an attempt: one look opens the round, and one more stands before the attempt itself. -/
def connect (subscription : Subscription) (token : Token) (time : Nat) (progress : Progress) :
    Option Token × Progress :=
  match token.look?.bind Token.look? with
  | none => (none, progress)
  | some token =>
    (some token,
      { progress with
        attempts := progress.attempts ++ [subscription.attempt time progress.store.state] })

/-- Follow a connection to its end, and wait out the delay that comes after it. -/
def follow (subscription : Subscription) (token : Token) (progress : Progress)
    (connection : Connection) : Option Token × Progress :=
  -- The token may fire while the attempt is under way.
  match token.look? with
  | none => (none, progress)
  | some token =>
    match connection with
    | .refused => (token.look?, progress)
    | .opened body =>
      -- Bytes that a connection left unfinished are not carried over to the next one.
      match receive subscription.feed token (.new subscription.frameLimit) progress body with
      | (none, progress) => (none, progress)
      | (some token, progress) => (token.look?, progress)

/--
Connect again and again, waiting after each connection that was refused or came to an end.

A subscriber whose last attempt gets no answer waits for its token.
-/
def run (subscription : Subscription) (token : Token) (time : Nat) (progress : Progress) :
    List Connection → Progress
  | [] => (subscription.connect token time progress).2
  | connection :: rest =>
    match subscription.connect token time progress with
    | (none, progress) => progress
    | (some token, progress) =>
      match subscription.follow token progress connection with
      | (none, progress) => progress
      | (some token, progress) =>
        run subscription token (time + subscription.reconnectDelay) progress rest

end Subscription

end LiveBoard
