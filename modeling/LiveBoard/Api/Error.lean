import LiveBoard.Json.Reader

/-! Why a call or a connection failed. -/

namespace LiveBoard

/-- Why a request got no usable answer. -/
inductive TransportFault where
  /-- The request could not be put together. -/
  | unbuildable (cause : String)
  /-- The connection to an address broke before the answer. -/
  | unanswered (url : String)
  /-- The answer from an address broke off. -/
  | brokenOff (url : String)
  deriving DecidableEq

/-- Why the body of an answer does not hold what the call asks for. -/
inductive BodyFault where
  | cutShort
  | unreadable (fault : ReadFault)
  deriving DecidableEq

/-- Why a call or a connection failed. -/
inductive ApiError where
  | notSignedIn
  | invalidBaseUrl (url : String)
  | transport (topic : String) (fault : TransportFault)
  | unexpectedStatus (topic : String) (status : Nat)
  | decode (topic url : String) (fault : BodyFault)
  deriving DecidableEq

/-- A fault at an address. -/
def atUrl (fault url : String) : String := fault ++ " for url (" ++ url ++ ")"

/-- What a broken transport says of itself, and what lies beneath it. -/
def TransportFault.chain : TransportFault → List String
  | .unbuildable cause => ["builder error", cause]
  | .unanswered url =>
    [atUrl "error sending request" url, "client error (SendRequest)",
      "connection closed before message completed"]
  | .brokenOff url =>
    [atUrl "request or response body error" url, "error reading a body from connection",
      "end of file before message length reached"]

/-- What an unusable body says of itself, and what lies beneath it. -/
def BodyFault.chain (url : String) : BodyFault → List String
  | .cutShort =>
    [atUrl "error decoding response body" url, "request or response body error",
      "error reading a body from connection", "end of file before message length reached"]
  | .unreadable fault => [atUrl "error decoding response body" url, fault.message]

namespace ApiError

/-- What lies beneath a failure, from the outermost cause. -/
def causes : ApiError → List String
  | .transport _ fault => fault.chain
  | .decode _ url fault => fault.chain url
  | .notSignedIn | .invalidBaseUrl _ | .unexpectedStatus .. => []

/-- The message of a failure. -/
def message (error : ApiError) : String :=
  let beneath := error.causes.headD ""
  -- Only the outermost cause is part of the message; the others are listed below a report.
  match error with
  | .notSignedIn => "Not signed in: configure an API token to access boards"
  | .invalidBaseUrl url => "Invalid API base URL '" ++ url ++ "'"
  | .transport topic _ => "Request for " ++ topic ++ " failed: " ++ beneath
  | .unexpectedStatus topic status => "Unexpected HTTP " ++ toString status ++ " from " ++ topic
  | .decode topic _ _ => "Failed to decode " ++ topic ++ ": " ++ beneath

end ApiError

end LiveBoard
