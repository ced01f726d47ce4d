import LiveBoard.Url.HostMapping
import LiveBoard.Url.Percent

/-! The hosts that a URL can name: domains, and addresses in either of two formats. -/

namespace LiveBoard.Url

/-- A host. -/
inductive Host where
  | domain (name : List Char)
  /-- An address of 32 bits. -/
  | v4 (address : Nat)
  /-- An address of eight pieces of 16 bits. -/
  | v6 (pieces : List Nat)
  deriving DecidableEq

/-- The number that digits write to a base, if they are digits to that base. -/
def numeral? (base : Nat) (digits : List Char) : Option Nat :=
  digits.foldlM (fun value c => do
    let digit ← hexValue? c
    if digit < base then return base * value + digit else none) 0

/-- A part of an address of 32 bits: hexadecimal behind `0x`, octal behind `0`, else decimal. -/
def addressPart? : List Char → Option Nat
  | [] => none
  | '0' :: 'x' :: digits | '0' :: 'X' :: digits => numeral? 16 digits
  | '0' :: c :: digits => numeral? 8 (c :: digits)
  | digits => numeral? 10 digits

/-- The parts of a domain, without the empty one behind a dot at the end. -/
def domainParts (name : List Char) : List (List Char) :=
  let parts := name.splitOn '.'
  if 1 < parts.length && parts.getLast? = some [] then parts.dropLast else parts

/-- Whether a domain has to be read as an address because it ends in a number. -/
def endsInNumber (name : List Char) : Bool :=
  match (domainParts name).getLast? with
  | none | some [] => false
  | some last => last.all Char.isDigit || (addressPart? last).isSome

/-- An address of 32 bits in up to four parts, the last of which fills what the others leave. -/
def v4Address? (name : List Char) : Option Nat := do
  let parts ← (domainParts name).mapM addressPart?
  let count := parts.length
  if 4 < count then none
  else
    -- The last part stands for all the bytes that the others leave over.
    let last ← parts.getLast?
    let first := parts.dropLast
    if first.any (255 < ·) || Nat.pow 256 (5 - count) ≤ last then none
    else
      let high := first.foldl (fun value part => 256 * value + part) 0
      return high * Nat.pow 256 (5 - count) + last

/-- A piece of an address of 128 bits. -/
def v6Piece? (digits : List Char) : Option Nat :=
  if digits.isEmpty || 4 < digits.length then none else numeral? 16 digits

/-- The four bytes that may end an address of 128 bits, as its last two pieces. -/
def v6Tail? (chars : List Char) : Option (List Nat) := do
  let bytes ← (chars.splitOn '.').mapM fun digits =>
    match digits with
    | ['0'] => some 0
    -- A byte is not written with zeros in front.
    | '0' :: _ => none
    | digits =>
      if digits.isEmpty || !digits.all Char.isDigit then none
      else (numeral? 10 digits).filter (· ≤ 255)
  match bytes with
  | [a, b, c, d] => return [256 * a + b, 256 * c + d]
  | _ => none

/-- The pieces on one side of the gap of an address; four bytes may stand at the end of it. -/
def v6Side? (mayEndInBytes : Bool) (chars : List Char) : Option (List Nat) :=
  if chars.isEmpty then some []
  else
    let parts := chars.splitOn ':'
    let last := parts.getLast?.getD []
    if mayEndInBytes && last.contains '.' then do
      let pieces ← parts.dropLast.mapM v6Piece?
      return pieces ++ (← v6Tail? last)
    else parts.mapM v6Piece?

/-- The characters before and after the first pair of colons. -/
def splitAtGap : List Char → Option (List Char × List Char)
  | ':' :: ':' :: rest => some ([], rest)
  | c :: rest => (splitAtGap rest).map fun (before, after) => (c :: before, after)
  | [] => none

/-- An address of 128 bits; a gap stands for one or more pieces of zero. -/
def v6Address? (chars : List Char) : Option (List Nat) := do
  match splitAtGap chars with
  | none =>
    let pieces ← v6Side? true chars
    if pieces.length = 8 then return pieces else none
  | some (before, after) =>
    let before ← v6Side? false before
    let after ← v6Side? true after
    let count := before.length + after.length
    -- A gap that leaves no room for a piece would stand for nothing.
    if 8 ≤ count then none
    else return before ++ List.replicate (8 - count) 0 ++ after

namespace Host

/-- The host that characters of a URL name. -/
def parse? (hosts : HostMapping) (chars : List Char) : Option Host := do
  match chars with
  | '[' :: rest =>
    if rest.getLast? = some ']' then return .v6 (← v6Address? rest.dropLast) else none
  | chars =>
    -- A name is decoded before it is told apart from an address.
    let name ← hosts.toAscii? (Text.ofUtf8 (percentDecode chars))
    if name.isEmpty then none
    else if endsInNumber name then return .v4 (← v4Address? name)
    else return .domain name

/-- The four bytes of an address with dots between them. -/
def renderV4 (address : Nat) : List Char :=
  let byte (shift : Nat) : List Char := Nat.toDigits 10 (address / Nat.pow 256 shift % 256)
  ['.'].intercalate [byte 3, byte 2, byte 1, byte 0]

/-- The place and length of the longest run of two or more zeros, the first of equal ones. -/
def longestGap (pieces : List Nat) : Option (Nat × Nat) :=
  let runs := (List.range pieces.length).map fun start =>
    (start, ((pieces.drop start).takeWhile (· = 0)).length)
  runs.foldl (fun best run =>
    -- A single zero is written out, and of runs of one length the first is left out.
    if 1 < run.2 && best.all (·.2 < run.2) then some run else best) none

/-- Pieces in hexadecimal with colons between them. -/
def renderPieces (pieces : List Nat) : List Char :=
  [':'].intercalate (pieces.map (Nat.toDigits 16))

/-- The text of a host. -/
def render : Host → List Char
  | .domain name => name
  | .v4 address => renderV4 address
  | .v6 pieces =>
    let inner :=
      match longestGap pieces with
      | none => renderPieces pieces
      | some (start, length) =>
        renderPieces (pieces.take start) ++ [':', ':'] ++
          renderPieces (pieces.drop (start + length))
    '[' :: inner ++ [']']

end Host

end LiveBoard.Url
