import LiveBoard.Api.Request
import LiveBoard.Text.Blank
import LiveBoard.Text.Utf8

/-! Requests and replies as they travel between the client and the server. -/

namespace LiveBoard

namespace Wire

/-- The end of a line. -/
def lineEnd : String := "\r\n"

/-- A header as a line. -/
def header (name value : String) : String := name ++ ": " ++ value ++ lineEnd

/-- The bytes between which the head and the body of a reply stand. -/
def gap : List UInt8 := [13, 10, 13, 10]

/-- The bytes before the first gap, and those behind it. -/
def splitAtGap (head : List UInt8) : List UInt8 → Option (List UInt8 × List UInt8)
  | [] => none
  | byte :: rest =>
    -- The first gap ends the head; any later one belongs to the body.
    if gap.isPrefixOf (byte :: rest) then some (head.reverse, rest.drop 3)
    else splitAtGap (byte :: head) rest

/-- The value of a header among lines. -/
def headerValue? (name : String) (lines : List (List Char)) : Option String :=
  lines.findSome? fun line =>
    match line.span (· != ':') with
    | (key, ':' :: value) =>
      -- The names of headers have no case.
      if String.ofList (key.map Char.toLower) = name then
        some (String.ofList (Text.trimChars value))
      else none
    | _ => none

/-- The status that the first line of a reply announces, behind the protocol. -/
def status? (line : List Char) : Option Nat :=
  ((line.dropWhile (· != ' ')).drop 1 |>.takeWhile (· != ' ') |> String.ofList).toNat?

end Wire

namespace Request

/-- The host of a request with the port that does not go without saying. -/
def authority (request : Request) : String :=
  String.ofList request.url.host.render ++
    request.url.port.elim "" fun port => ":" ++ toString port

/-- A request as text; the server is asked to end its reply by closing the connection. -/
def toWire (request : Request) : String :=
  let body := request.body.elim "" Json.compact
  let length :=
    -- The length is told in bytes.
    if request.body.isSome then Wire.header "content-length" (toString body.utf8ByteSize) else ""
  request.method.name ++ " " ++ request.url.target ++ " HTTP/1.0" ++ Wire.lineEnd ++
    Wire.header "host" request.authority ++
    Wire.header "authorization" request.authorization ++
    Wire.header "accept" request.accepted.name ++
    request.contentType.elim "" (Wire.header "content-type") ++ length ++
    Wire.lineEnd ++ body

end Request

/-- The reply that bytes hold once no more come; it is whole if its length is as announced. -/
def Reply.ofWire (bytes : List UInt8) : Reply :=
  match Wire.splitAtGap [] bytes with
  | none => .dropped
  | some (head, body) =>
    let lines := (Text.ofUtf8 head).splitOn '\n'
    match Wire.status? (lines.headD []) with
    | none => .dropped
    | some status =>
      let announced := (Wire.headerValue? "content-length" lines).bind String.toNat?
      -- Without an announcement, the end of the connection is the end of the body.
      let complete := announced.all (· = body.length)
      .answered status (String.ofList (Text.ofUtf8 body)) complete

end LiveBoard
