import LiveBoard.Api.Call
import LiveBoard.Url.Basic

/-! Requests, their replies, and dialogues in which each request waits for the reply before it. -/

namespace LiveBoard

/-- The kinds of body that a request asks for. -/
inductive Accepted where
  | anything
  | events
  deriving DecidableEq

/-- The name of a kind of body on the wire. -/
def Accepted.name : Accepted → String
  | .anything => "*/*"
  | .events => "text/event-stream"

/-- A request of a user who has signed in. -/
structure Request where
  method : Method
  url : Url
  accepted : Accepted
  token : String
  body : Option Json
  deriving DecidableEq

namespace Request

/-- Who asks, as a header names them. -/
def authorization (request : Request) : String := "Bearer " ++ request.token

/-- The kind of the body, if there is one. -/
def contentType (request : Request) : Option String :=
  request.body.map fun _ => "application/json"

end Request

/-- What comes back for a request. -/
inductive Reply where
  /-- The connection was closed without an answer. -/
  | dropped
  /-- An answer, whose body may break off before its end. -/
  | answered (status : Nat) (body : String) (complete : Bool)
  deriving DecidableEq

/-- A course of requests, in which what comes next may depend on every reply. -/
inductive Dialogue (α : Type) where
  | done (result : α)
  | ask (request : Request) (resume : Reply → Dialogue α)

namespace Dialogue

/-- Go on from the end of a dialogue. -/
def bind {α β : Type} (next : α → Dialogue β) : Dialogue α → Dialogue β
  | .done result => next result
  | .ask request resume => .ask request fun reply => (resume reply).bind next

instance : Monad Dialogue where
  pure := .done
  bind dialogue next := dialogue.bind next

/-- Make one request. -/
def send (request : Request) : Dialogue Reply := .ask request .done

/-- The reply of a server that has run out of prepared ones. -/
def exhausted : Reply := .answered 500 "" true

/-- Answer the requests of a dialogue with prepared replies, and list the requests. -/
def run {α : Type} (replies : List Reply) : Dialogue α → List Request × α
  | .done result => ([], result)
  | .ask request resume =>
    -- Each request uses up one reply, even one that is not the reply to it.
    let (requests, result) := (resume (replies.headD exhausted)).run replies.tail
    (request :: requests, result)

end Dialogue

end LiveBoard
