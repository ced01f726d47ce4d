import LiveBoard.Api.Error
import LiveBoard.Api.Request
import LiveBoard.Stream.Feed
import LiveBoard.Text.Blank

/-! The client of one server: its requests, and what it makes of the replies. -/

namespace LiveBoard

/-- A page of comments. -/
structure CommentPage where
  items : List TaskComment

/-- The fields of a page of comments. -/
def CommentPage.schema : Schema CommentPage where
  name := "Page"
  blank := ⟨[]⟩
  fields := [
    .given "items" (.list TaskComment.schema.codec) (·.items)
      fun value page => { page with items := value }]

/-- What the body of an answer to a call says. -/
def Call.decode {α : Type} (body : String) : Call α → Except ReadFault α
  | .snapshot _ => Snapshot.schema.codec.parse body
  | .createTask .. | .updateTask .. | .decideApproval .. => Codec.map.parse body
  -- The answer to a deletion says nothing beyond its status.
  | .deleteTask .. => .ok ()
  | .listComments .. => (CommentPage.schema.codec.parse body).map (·.items)
  | .createComment .. => TaskComment.schema.codec.parse body
  | .sendChat .. => ChatMessage.schema.codec.parse body

/-- Whether the body of an answer to a call is read at all. -/
def Call.readsBody {α : Type} : Call α → Bool
  | .deleteTask .. => false
  | _ => true

/-- The client of one server; without a token every call of it fails. -/
structure Client where
  baseUrl : String
  token : Option String
  /-- How the names of hosts are read when an address is made for a request. -/
  hosts : Url.HostMapping

namespace Client

/-- An address without blanks around it or slashes at its end. -/
def trimAddress (address : String) : String :=
  -- Paths start with a slash, so one at the end of the address would be doubled.
  String.ofList ((Text.trim address).toList.reverse.dropWhile (· = '/')).reverse

/-- The client of the server at an address; a blank token is none. -/
def new (address : String) (token : Option String) (hosts : Url.HostMapping := .letters) :
    Except ApiError Client :=
  let baseUrl := trimAddress address
  match Url.parse? hosts baseUrl with
  -- The address is read only to refuse a bad one early: requests are made from its text.
  | none => .error (.invalidBaseUrl baseUrl)
  | some _ => .ok ⟨baseUrl, token.filter fun token => (Text.nonBlank token).isSome, hosts⟩

/-- Whether calls can succeed at all. -/
def isSignedIn (client : Client) : Bool := client.token.isSome

/-- The address of a path on the server. -/
def url? (client : Client) (path : String) : Option Url :=
  Url.parse? client.hosts (client.baseUrl ++ path)

/-- Whether a text can stand in a header. -/
def isHeaderText (text : String) : Bool :=
  text.toList.all fun c => c = '\t' || (0x20 ≤ c.toNat && c.toNat != 0x7F)

/-- A request for what a path names. -/
def request (client : Client) (topic : String) (method : Method) (path : String)
    (accepted : Accepted) (body : Option Json) : Except ApiError Request :=
  match client.token, client.url? path with
  -- The want of a token is told before anything that may be wrong with the address.
  | none, _ => .error .notSignedIn
  | some _, none => .error (.transport topic (.unbuildable "invalid address"))
  | some token, some url =>
    -- A token with a line end in it would make headers of its own.
    if isHeaderText token then .ok ⟨method, url, accepted, token, body⟩
    else .error (.transport topic (.unbuildable "failed to parse header value"))

/-- The request of a call. -/
def requestOf {α : Type} (client : Client) (call : Call α) : Except ApiError Request :=
  client.request call.topic call.method call.path .anything call.body

/-- The request of a feed. -/
def requestOfFeed (client : Client) (stream : StreamRequest) (since : Option String) :
    Except ApiError Request :=
  (client.request stream.path .get stream.path .events none).map fun request =>
    { request with url := request.url.addPairs (stream.queryFrom since) }

/-- The text of the address that answered. -/
def answeredFrom (url : Url) : String := Url.render { url with fragment := none }

/-- The body of an answer and whether all of it came; only one status stands for success. -/
def accept (topic : String) (url : Url) : Reply → Except ApiError (String × Bool)
  | .dropped => .error (.transport topic (.unanswered url.render))
  | .answered status body complete =>
    -- An answer that only announces another one is passed over, and no other one comes.
    if status < 100 || (100 ≤ status && status < 200 && status != 101) then
      .error (.transport topic (.unanswered url.render))
    else if status = 200 then .ok (body, complete)
    else .error (.unexpectedStatus topic status)

/-- What a reply to a call says. -/
def receive {α : Type} (call : Call α) (url : Url) (reply : Reply) : Except ApiError α := do
  let (body, complete) ← accept call.topic url reply
  -- A body that is not looked at may break off unnoticed.
  if call.readsBody && !complete then
    throw (.decode call.topic (answeredFrom url) .cutShort)
  else
    match call.decode body with
    | .ok value => return value
    | .error fault => throw (.decode call.topic (answeredFrom url) (.unreadable fault))

/-- Make a call. -/
def call {α : Type} (client : Client) (call : Call α) : Dialogue (Except ApiError α) :=
  match client.requestOf call with
  | .error error => .done (.error error)
  | .ok request => .ask request fun reply => .done (receive call request.url reply)

/-- The body of an open feed, and why it ended early, if it did. -/
structure FeedBody where
  text : String
  failure : Option ApiError
  deriving DecidableEq

/-- What a reply to the opening of a feed says. -/
def receiveFeed (topic : String) (url : Url) (reply : Reply) : Except ApiError FeedBody := do
  let (body, complete) ← accept topic url reply
  return ⟨body, if complete then none else some (.transport topic (.brokenOff (answeredFrom url)))⟩

/-- Open a feed. -/
def openFeed (client : Client) (stream : StreamRequest) (since : Option String) :
    Dialogue (Except ApiError FeedBody) :=
  match client.requestOfFeed stream since with
  | .error error => .done (.error error)
  | .ok request => .ask request fun reply => .done (receiveFeed stream.path request.url reply)

end Client

end LiveBoard
