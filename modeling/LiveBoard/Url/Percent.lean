import LiveBoard.Text.Utf8

/-! Bytes that a URL cannot hold as themselves, written as a percent sign and two digits. -/

namespace LiveBoard.Url

/-- A hexadecimal digit as a capital. -/
def hexCapital (n : Nat) : Char := (Nat.digitChar n).toUpper

/-- A byte as a percent sign and two digits. -/
def percentByte (byte : UInt8) : List Char :=
  ['%', hexCapital (byte.toNat / 16), hexCapital (byte.toNat % 16)]

/-- The bytes of a character. -/
def charBytes (c : Char) : List UInt8 := Text.toUtf8 (String.singleton c)

/-- Characters with the bytes of those that must not stand as themselves written out. -/
def percentEncode (mustEncode : Char → Bool) (chars : List Char) : List Char :=
  chars.flatMap fun c => if mustEncode c then (charBytes c).flatMap percentByte else [c]

/-- The value of a hexadecimal digit of either case. -/
def hexValue? (c : Char) : Option Nat :=
  if c.isDigit then some (c.toNat - '0'.toNat)
  else if 'a' ≤ c && c ≤ 'f' then some (c.toNat - 'a'.toNat + 10)
  else if 'A' ≤ c && c ≤ 'F' then some (c.toNat - 'A'.toNat + 10)
  else none

/-- The bytes that characters stand for; a percent sign without two digits stands for itself. -/
def percentDecode : List Char → List UInt8
  | [] => []
  | '%' :: a :: b :: rest =>
    match hexValue? a, hexValue? b with
    | some high, some low => UInt8.ofNat (16 * high + low) :: percentDecode rest
    -- The two characters are read again, as they may start a byte of their own.
    | _, _ => charBytes '%' ++ percentDecode (a :: b :: rest)
  | c :: rest => charBytes c ++ percentDecode rest

/-- Control characters, and all that is not ASCII. -/
def isControlOrWide (c : Char) : Bool := c.toNat < 0x20 || 0x7E < c.toNat

/-- What is encoded in a fragment. -/
def encodesInFragment (c : Char) : Bool :=
  isControlOrWide c || c = ' ' || c = '"' || c = '<' || c = '>' || c = '`'

/-- What is encoded in a path. -/
def encodesInPath (c : Char) : Bool :=
  encodesInFragment c || c = '#' || c = '?' || c = '\x7b' || c = '\x7d'

/-- What is encoded in a query. -/
def encodesInQuery (c : Char) : Bool :=
  isControlOrWide c || c = ' ' || c = '"' || c = '#' || c = '<' || c = '>' || c = '\''

/-- What is encoded in the names and values of a query that is put together from pairs. -/
def encodesInPair (c : Char) : Bool :=
  !(c.isAlphanum || c = '*' || c = '-' || c = '.' || c = '_' || c = ' ')

/-- A name or value in a query; a space is written as a plus sign. -/
def encodePairPart (text : String) : List Char :=
  (percentEncode encodesInPair text.toList).map fun c => if c = ' ' then '+' else c

/-- Pairs as a query. -/
def encodePairs (pairs : List (String × String)) : List Char :=
  ['&'].intercalate (pairs.map fun (name, value) =>
    encodePairPart name ++ '=' :: encodePairPart value)

end LiveBoard.Url
