import LiveBoard.Url.Host

/-! The addresses that requests go to: reading them, and writing them out in full. -/

namespace LiveBoard

/-- How a server is spoken to. -/
inductive Scheme where
  | http
  | https
  deriving DecidableEq

namespace Scheme

/-- The name of a scheme. -/
def name : Scheme → String
  | .http => "http"
  | .https => "https"

/-- The port that goes without saying. -/
def defaultPort : Scheme → Nat
  | .http => 80
  | .https => 443

/-- The scheme of a name, in letters of either case. -/
def ofChars? (chars : List Char) : Option Scheme :=
  [http, https].find? fun scheme => scheme.name.toList = chars.map Char.toLower

end Scheme

/-- An address. Who is asking is no part of it: the name and password of a user are dropped. -/
structure Url where
  scheme : Scheme
  host : Url.Host
  /-- The port, unless it is the one that goes without saying. -/
  port : Option Nat
  /-- The segments of the path, encoded. -/
  path : List (List Char)
  query : Option (List Char)
  fragment : Option (List Char)
  deriving DecidableEq

namespace Url

/-- Characters that are dropped wherever they stand. -/
def isDropped (c : Char) : Bool := c = '\t' || c = '\n' || c = '\r'

/-- Control characters and spaces, which are dropped at both ends. -/
def isMargin (c : Char) : Bool := c.toNat ≤ 0x20

/-- The characters of an address that count. -/
def meaningful (chars : List Char) : List Char :=
  let trimmed := ((chars.dropWhile isMargin).reverse.dropWhile isMargin).reverse
  trimmed.filter (!isDropped ·)

/-- Slashes of either direction. -/
def isSlash (c : Char) : Bool := c = '/' || c = '\\'

/-- Segments that stand for where they are. -/
def isSingleDot (segment : List Char) : Bool :=
  let lowered := segment.map Char.toLower
  lowered = ['.'] || lowered = ['%', '2', 'e']

/-- Segments that stand for the segment above. -/
def isDoubleDot (segment : List Char) : Bool :=
  ["..", ".%2e", "%2e.", "%2e%2e"].any fun dots => dots.toList = segment.map Char.toLower

/-- The path after one more segment, which is the last one or has a slash behind it. -/
def appendSegment (path : List (List Char)) (isLast : Bool) (segment : List Char) :
    List (List Char) :=
  -- Leaving the root is no fault: there is nothing above it to go to.
  if isDoubleDot segment then path.dropLast ++ if isLast then [[]] else []
  else if isSingleDot segment then path ++ if isLast then [[]] else []
  else path ++ [percentEncode encodesInPath segment]

/-- The path after more segments. -/
def appendSegments (path : List (List Char)) : List (List Char) → List (List Char)
  | [] => path
  | [segment] => appendSegment path true segment
  | segment :: rest => appendSegments (appendSegment path false segment) rest

/-- The segments between the slashes of a path. -/
def splitAtSlashes (chars : List Char) : List (List Char) :=
  (chars.map fun c => if c = '\\' then '/' else c).splitOn '/'

/-- The path that characters write, which starts with a slash even if they do not. -/
def parsePath (chars : List Char) : List (List Char) :=
  match chars with
  | [] => [[]]
  | c :: rest => appendSegments [] (splitAtSlashes (if isSlash c then rest else c :: rest))

/-- The port that characters write; none if it is left out or goes without saying. -/
def parsePort (scheme : Scheme) (digits : List Char) : Option (Option Nat) :=
  -- A colon without a port is as good as none.
  if digits.isEmpty then some none
  else if !digits.all Char.isDigit then none
  else do
    let port ← numeral? 10 digits
    if 65535 < port then none
    else return if port = scheme.defaultPort then none else some port

/-- The characters of a host, and those of a port behind a colon outside of brackets. -/
def splitPort (inBrackets : Bool) : List Char → List Char × List Char
  | [] => ([], [])
  | c :: rest =>
    if c = ':' && !inBrackets then ([], rest)
    else
      let (host, port) := splitPort (c = '[' || (inBrackets && c != ']')) rest
      (c :: host, port)

/-- What stands behind the last at sign. -/
def afterUser (chars : List Char) : List Char :=
  (chars.reverse.takeWhile (· != '@')).reverse

/-- Characters up to one of a class, and what follows it; nothing follows if there is none. -/
def cutAt (mark : Char) (chars : List Char) : List Char × Option (List Char) :=
  match chars.span (· != mark) with
  | (before, []) => (before, none)
  | (before, _ :: after) => (before, some after)

/-- The address that a text writes in full. -/
def parse? (hosts : HostMapping) (text : String) : Option Url := do
  match cutAt ':' (meaningful text.toList) with
  | (_, none) => none
  | (name, some rest) =>
    let scheme ← Scheme.ofChars? name
    -- Any number of slashes counts as the two that belong there.
    let rest := rest.dropWhile isSlash
    let (authority, rest) := rest.span fun c => !isSlash c && c != '?' && c != '#'
    let (host, port) := splitPort false (afterUser authority)
    let host ← Host.parse? hosts host
    let port ← parsePort scheme port
    let (rest, fragment) := cutAt '#' rest
    let (path, query) := cutAt '?' rest
    return {
      scheme, host, port
      path := parsePath path
      query := query.map (percentEncode encodesInQuery)
      fragment := fragment.map (percentEncode encodesInFragment) }

/-- An address with pairs added to its query; a query that stays empty is dropped. -/
def addPairs (url : Url) (pairs : List (String × String)) : Url :=
  let before := url.query.getD []
  let added := encodePairs pairs
  let query :=
    -- No pair is added to a query without an ampersand, unless it is the first.
    if before.isEmpty then added
    else if pairs.isEmpty then before
    else before ++ '&' :: added
  { url with query := if query.isEmpty then none else some query }

/-- The path and the query of an address, by which its server is asked. -/
def target (url : Url) : String :=
  String.ofList (url.path.flatMap ('/' :: ·) ++ url.query.elim [] ('?' :: ·))

/-- The text of an address. -/
def render (url : Url) : String :=
  url.scheme.name ++ "://" ++ String.ofList url.host.render ++
    url.port.elim "" (fun port => ":" ++ toString port) ++ url.target ++
    url.fragment.elim "" fun fragment => "#" ++ String.ofList fragment

end Url

end LiveBoard
