import LiveBoard.Instant.Reader
import LiveBoard.Toml.Basic

/-! The values of TOML that are written without brackets: texts, numbers, flags and dates. -/

namespace LiveBoard.Toml

/-- Blanks within a line. -/
def isBlank (c : Char) : Bool := c = ' ' || c = '\t'

/-- Characters that may stand in comments and in texts as themselves. -/
def isPlain (c : Char) : Bool := c = '\t' || (0x20 ≤ c.toNat && c.toNat != 0x7F)

/-- Characters of keys without quotes. -/
def isKeyChar (c : Char) : Bool := c.isAlphanum || c = '_' || c = '-'

/-- Drop the blanks before something on the same line. -/
def skipBlanks (chars : List Char) : List Char := chars.dropWhile isBlank

/-- The value of a hexadecimal digit. -/
def hexDigit? (c : Char) : Option Nat :=
  if c.isDigit then some (c.toNat - '0'.toNat)
  else if 'a' ≤ c && c ≤ 'f' then some (c.toNat - 'a'.toNat + 10)
  else if 'A' ≤ c && c ≤ 'F' then some (c.toNat - 'A'.toNat + 10)
  else none

/-- The number that digits write to a base, each digit having a value below the base. -/
def numeral? (base : Nat) (digits : List Char) : Option Nat :=
  digits.foldlM (fun value c => do
    let digit ← hexDigit? c
    if digit < base then return base * value + digit else none) 0

/-- A character written as a fixed count of hexadecimal digits. -/
def codedChar (count : Nat) (chars : List Char) : Option (Char × List Char) := do
  let digits := chars.take count
  if digits.length < count then none
  else
    let code ← numeral? 16 digits
    if code.isValidChar then some (Char.ofNat code, chars.drop count) else none

/-- A character written behind a backslash. -/
def escapedChar : List Char → Option (Char × List Char)
  | 'b' :: rest => some ('\x08', rest)
  | 't' :: rest => some ('\t', rest)
  | 'n' :: rest => some ('\n', rest)
  | 'f' :: rest => some ('\x0c', rest)
  | 'r' :: rest => some ('\r', rest)
  | 'e' :: rest => some ('\x1b', rest)
  | '"' :: rest => some ('"', rest)
  | '\\' :: rest => some ('\\', rest)
  | 'x' :: rest => codedChar 2 rest
  | 'u' :: rest => codedChar 4 rest
  | 'U' :: rest => codedChar 8 rest
  | _ => none

/-- Drop the blanks and line ends after a backslash that ends its line. -/
def joinedLine? (chars : List Char) : Option (List Char) :=
  match skipBlanks chars with
  | '\n' :: rest | '\r' :: '\n' :: rest =>
    some (rest.dropWhile fun c => isBlank c || c = '\n' || c = '\r')
  | _ => none

/-- How a text is quoted. -/
structure Quotes where
  mark : Char
  /-- Whether backslashes stand for other characters. -/
  escapes : Bool
  /-- Whether the text may hold line ends, and is quoted three times on each side. -/
  multiline : Bool

/-- The quotes that a mark opens. -/
def Quotes.ofMark? : Char → Option (Bool → Quotes)
  | '"' => some (⟨'"', true, ·⟩)
  | '\'' => some (⟨'\'', false, ·⟩)
  | _ => none

/-- The rest of a text after its opening quotes, and what follows its closing quotes. -/
def textBody (quotes : Quotes) :
    (fuel : Nat) → (before : List Char) → List Char → Option (String × List Char)
  | 0, _, _ => none
  | _, _, [] => none
  | fuel + 1, before, c :: rest =>
    if c = quotes.mark then
      if !quotes.multiline then some (String.ofList before.reverse, rest)
      else
        let (marks, after) := (c :: rest).span (· = quotes.mark)
        -- Fewer than three marks are part of the text.
        if marks.length < 3 then textBody quotes fuel (marks ++ before) after
        else
          -- Up to two marks may stand right before the closing ones.
          let kept := min (marks.length - 3) 2
          some (String.ofList (before.reverse ++ List.replicate kept c), rest.drop (kept + 2))
    else if c = '\\' && quotes.escapes then
      match if quotes.multiline then joinedLine? rest else none with
      | some rest => textBody quotes fuel before rest
      | none =>
        match escapedChar rest with
        | some (escaped, rest) => textBody quotes fuel (escaped :: before) rest
        | none => none
    else if c = '\n' && quotes.multiline then textBody quotes fuel (c :: before) rest
    else if c = '\r' && quotes.multiline && rest.head? = some '\n' then
      textBody quotes fuel (c :: before) rest
    else if isPlain c then textBody quotes fuel (c :: before) rest
    else none

/-- A quoted text on one line. -/
def lineText : List Char → Option (String × List Char)
  | [] => none
  | c :: rest => do
    let quotes ← Quotes.ofMark? c
    textBody (quotes false) (rest.length + 1) [] rest

/-- A quoted text, on one line or on many; a line end right after the opening quotes is dropped. -/
def quotedText (chars : List Char) : Option (String × List Char) :=
  match chars with
  | a :: b :: c :: rest =>
    if a = b && b = c then do
      let quotes ← Quotes.ofMark? a
      let rest :=
        match rest with
        | '\n' :: rest | '\r' :: '\n' :: rest => rest
        | rest => rest
      textBody (quotes true) (rest.length + 1) [] rest
    else lineText chars
  | _ => lineText chars

/-- Digits, where a single underscore may stand between two of them. -/
def digitGroups? (isDigit : Char → Bool) : List Char → Option (List Char)
  | [] => none
  | [c] => if isDigit c then some [c] else none
  | c :: '_' :: rest => if isDigit c then (digitGroups? isDigit rest).map (c :: ·) else none
  | c :: rest => if isDigit c then (digitGroups? isDigit rest).map (c :: ·) else none

/-- Decimal digits that do not start with a needless zero. -/
def wholeDigits? (chars : List Char) : Option (List Char) := do
  match ← digitGroups? Char.isDigit chars with
  | '0' :: _ :: _ => none
  | digits => some digits

/-- The number that decimal digits and a power of ten write; nothing if it is too large. -/
def decimalReal (digits : List Char) (exponent : Int) : Option Binary64 :=
  let whole := Instant.digitsValue digits
  let size : Int := digits.length + exponent
  -- No number so small or so large can be held, and its powers of ten are not worked out.
  if whole = 0 || size < -400 then some .zero
  else if 400 < size - (digits.takeWhile (· = '0')).length then none
  else Binary64.ofRatio? (whole * Nat.pow 10 exponent.toNat) (Nat.pow 10 (-exponent).toNat)

/-- An exponent with its sign. -/
def exponent? (chars : List Char) : Option Int := do
  match chars with
  | '-' :: digits => return -(Instant.digitsValue (← digitGroups? Char.isDigit digits) : Int)
  | '+' :: digits => return Instant.digitsValue (← digitGroups? Char.isDigit digits)
  | digits => return Instant.digitsValue (← digitGroups? Char.isDigit digits)

/-- A number with a fraction, an exponent or both. -/
def real? (chars : List Char) : Option (Option Binary64) := do
  let (mantissa, power) := chars.span fun c => c != 'e' && c != 'E'
  let (whole, fraction) := mantissa.span (· != '.')
  let whole ← wholeDigits? whole
  let fraction ←
    match fraction with
    | [] => if power.isEmpty then none else some []
    | _ :: digits => digitGroups? Char.isDigit digits
  let exponent ←
    match power with
    | [] => some 0
    | _ :: digits => exponent? digits
  return decimalReal (whole ++ fraction) (exponent - fraction.length)

/-- A number without a sign. -/
def unsigned? (chars : List Char) : Option Value :=
  match chars with
  | ['i', 'n', 'f'] | ['n', 'a', 'n'] =>
    -- Infinity and the undefined number are not told apart: neither is the value of any setting.
    some (.real (some ⟨.ofNat Binary64.infinityBits⟩))
  | _ =>
    match wholeDigits? chars with
    | some digits => some (.integer (Instant.digitsValue digits))
    | none => (real? chars).map .real

/-- An integer to a base of its own. -/
def based? (base : Nat) (chars : List Char) : Option Value := do
  let digits ← digitGroups? (fun c => (hexDigit? c).any (· < base)) chars
  return .integer (← numeral? base digits)

/-- A number. -/
def number? : List Char → Option Value
  -- Numbers to another base have no sign.
  | '0' :: 'x' :: digits => based? 16 digits
  | '0' :: 'o' :: digits => based? 8 digits
  | '0' :: 'b' :: digits => based? 2 digits
  | '+' :: rest => unsigned? rest
  | '-' :: rest =>
    -- A sign is put on the number that is read, so that the least integer needs no case of its own.
    (unsigned? rest).map fun
      | .integer value => .integer (-value)
      | .real value => .real (value.map Binary64.neg)
      | other => other
  | chars => unsigned? chars

open Instant (literal fixedDigits fraction)

/-- A time of day, whose seconds may be left out. -/
def clock? (chars : List Char) : Option (List Char) := do
  let (hour, chars) ← fixedDigits 2 chars
  let chars ← literal ':' chars
  let (minute, chars) ← fixedDigits 2 chars
  if 23 < hour || 59 < minute then none
  match chars with
  | ':' :: chars =>
    let (second, chars) ← fixedDigits 2 chars
    if 60 < second then none
    match chars with
    | '.' :: _ => return (← fraction chars).2
    | _ => return chars
  | _ => return chars

/-- A distance from universal time, or nothing at all. -/
def zone? : List Char → Option Unit
  | [] | ['Z'] | ['z'] => some ()
  | sign :: chars => do
    if sign != '+' && sign != '-' then none
    let (hour, chars) ← fixedDigits 2 chars
    let chars ← literal ':' chars
    let (minute, chars) ← fixedDigits 2 chars
    if 23 < hour || 59 < minute || !chars.isEmpty then none

/-- A date of the calendar. -/
def date? (chars : List Char) : Option (List Char) := do
  let (year, chars) ← fixedDigits 4 chars
  let chars ← literal '-' chars
  let (month, chars) ← fixedDigits 2 chars
  let chars ← literal '-' chars
  let (day, chars) ← fixedDigits 2 chars
  if Date.isValid ⟨year, month, day⟩ then return chars else none

/-- A date, a time of day or both. -/
def moment? (chars : List Char) : Option Value :=
  let whole : Option Unit :=
    match date? chars with
    | some [] => some ()
    | some (c :: rest) =>
      -- Only a moment with a date says how far it is from universal time.
      if c = 'T' || c = 't' || c = ' ' then (clock? rest).bind zone? else none
    | none => (clock? chars).bind fun rest => if rest.isEmpty then some () else none
  whole.map fun _ => .moment

/-- Characters of flags, numbers and dates. -/
def isBareChar (c : Char) : Bool :=
  c.isAlphanum || c = '_' || c = '+' || c = '-' || c = '.' || c = ':'

/-- A flag, a number or a date, and what follows it. -/
def bareValue (chars : List Char) : Option (Value × List Char) := do
  let (token, rest) := chars.span isBareChar
  -- One blank may part a date from its time of day.
  let (token, rest) :=
    match rest with
    | ' ' :: c :: others =>
      if c.isDigit && date? token = some [] then
        let (time, rest) := (c :: others).span isBareChar
        (token ++ ' ' :: time, rest)
      else (token, rest)
    | _ => (token, rest)
  let value ←
    match token with
    | ['t', 'r', 'u', 'e'] => some (.flag true)
    | ['f', 'a', 'l', 's', 'e'] => some (.flag false)
    | _ => (number? token).or (moment? token)
  return (value, rest)

end LiveBoard.Toml
