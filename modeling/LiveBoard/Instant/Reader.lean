import LiveBoard.Instant.Calendar
import LiveBoard.Text.Blank

/-! Reading instants, with an offset or in universal time. -/

namespace LiveBoard.Instant

open Text (isBlank trimChars)

/-- The value of decimal digits. -/
def digitsValue (digits : List Char) : Nat :=
  digits.foldl (fun value c => 10 * value + (c.toNat - '0'.toNat)) 0

/-- Take a given character off the front. -/
def literal (expected : Char) : List Char → Option (List Char)
  | [] => none
  | c :: rest => if c = expected then some rest else none

/-- Take a number of exactly so many digits off the front. -/
def fixedDigits (width : Nat) (chars : List Char) : Option (Nat × List Char) :=
  let digits := chars.take width
  -- A text that ends too early has fewer characters to take.
  if digits.length = width ∧ digits.all Char.isDigit then
    some (digitsValue digits, chars.drop width)
  else none

/-- Take a number of one to `width` digits off the front. -/
def upToDigits (width : Nat) (chars : List Char) : Option (Nat × List Char) :=
  let digits := (chars.take width).takeWhile Char.isDigit
  if digits.isEmpty then none else some (digitsValue digits, chars.drop digits.length)

/-- The nanoseconds of the digits after a point; those past the ninth are dropped. -/
def nanosOfDigits (digits : List Char) : Nat :=
  -- More than nine digits would say less than a nanosecond.
  let kept := digits.take 9
  digitsValue kept * Nat.pow 10 (9 - kept.length)

/-- Take an optional fraction of a second off the front; a point needs a digit. -/
def fraction : List Char → Option (Nat × List Char)
  | '.' :: chars =>
    let digits := chars.takeWhile Char.isDigit
    if digits.isEmpty then none
    else some (nanosOfDigits digits, chars.dropWhile Char.isDigit)
  | chars => some (0, chars)

/-- Take an offset from universal time off the front, in seconds. -/
def offset : List Char → Option (Int × List Char)
  | [] => none
  | sign :: rest => do
    if sign = 'Z' ∨ sign = 'z' then return (0, rest)
    -- The minus sign of typography counts as a hyphen.
    let negative ←
      if sign = '+' then some false
      else if sign = '-' ∨ sign = '\u2212' then some true
      else none
    let (hours, rest) ← fixedDigits 2 rest
    let rest ← literal ':' rest
    let (minutes, rest) ← fixedDigits 2 rest
    if 23 < hours ∨ 59 < minutes then none
    let ahead : Int := (hours * 3600 + minutes * 60 : Nat)
    return (if negative then -ahead else ahead, rest)

/-- A year, month, day, hour, minute and second, and what follows them. -/
structure Fields where
  civil : CivilTime
  rest : List Char

/-- Take a date and time of fixed widths, with an optional fraction, off the front. -/
def fixedFields (chars : List Char) : Option Fields := do
  let (year, rest) ← fixedDigits 4 chars
  let rest ← literal '-' rest
  let (month, rest) ← fixedDigits 2 rest
  let rest ← literal '-' rest
  let (day, rest) ← fixedDigits 2 rest
  let rest ←
    match rest with
    | [] => none
    | c :: rest => if c = 'T' ∨ c = 't' ∨ c = ' ' then some rest else none
  let (hour, rest) ← fixedDigits 2 rest
  let rest ← literal ':' rest
  let (minute, rest) ← fixedDigits 2 rest
  let rest ← literal ':' rest
  let (second, rest) ← fixedDigits 2 rest
  let (nanos, rest) ← fraction rest
  return ⟨⟨⟨year, month, day⟩, ⟨hour, minute, second, nanos⟩⟩, rest⟩

/-- Read a date and time of fixed widths with an offset. -/
def withOffset? (chars : List Char) : Option Instant := do
  let fields ← fixedFields chars
  let (ahead, rest) ← offset fields.rest
  -- Nothing may follow the offset.
  if fields.civil.isValid && rest.isEmpty then fields.civil.toInstant? ahead
  else none

/-- Take a year off the front: up to four digits, or a sign and any number of them. -/
def freeYear (chars : List Char) : Option (Int × List Char) :=
  let signed (rest : List Char) : Option (Nat × List Char) := upToDigits rest.length rest
  match chars.dropWhile isBlank with
  -- A sign takes away the limit on the number of digits.
  | '-' :: rest => (signed rest).map fun (year, rest) => (-(year : Int), rest)
  | '+' :: rest => (signed rest).map fun (year, rest) => ((year : Int), rest)
  | rest => (upToDigits 4 rest).map fun (year, rest) => ((year : Int), rest)

/-- Take a number of one or two digits off the front, after any white space. -/
def freePair (chars : List Char) : Option (Nat × List Char) :=
  upToDigits 2 (chars.dropWhile isBlank)

/-- Take a date and time of free widths, with an optional fraction, off the front. -/
def freeFields (chars : List Char) : Option Fields := do
  let (year, rest) ← freeYear chars
  let rest ← literal '-' rest
  let (month, rest) ← freePair rest
  let rest ← literal '-' rest
  let (day, rest) ← freePair rest
  let rest ← literal 'T' rest
  let (hour, rest) ← freePair rest
  let rest ← literal ':' rest
  let (minute, rest) ← freePair rest
  let rest ← literal ':' rest
  let (second, rest) ← freePair rest
  let (nanos, rest) ← fraction rest
  return ⟨⟨⟨year, month, day⟩, ⟨hour, minute, second, nanos⟩⟩, rest⟩

/-- Read a date and time of free widths in universal time. -/
def naive? (chars : List Char) : Option Instant := do
  let fields ← freeFields chars
  if fields.civil.isValid && fields.rest.isEmpty then fields.civil.toInstant? 0
  else none

/-- Read an instant, surrounded by any white space; without an offset it is universal time. -/
def parse? (text : String) : Option Instant :=
  let chars := trimChars text.toList
  -- The server writes instants without an offset as well, and means universal time.
  (withOffset? chars).or (naive? chars)

end LiveBoard.Instant
