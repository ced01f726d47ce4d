import LiveBoard.Json.Shape

/-! Reading JSON text against a shape, with the place of the first fault. -/

namespace LiveBoard

/-- What is wrong with JSON text as text. -/
inductive SyntaxFault where
  | unfinishedList
  | unfinishedObject
  | unfinishedString
  | unfinishedValue
  | expectedColon
  | expectedListEnd
  | expectedObjectEnd
  | expectedWord
  | expectedValue
  | invalidEscape
  | invalidNumber
  | numberOutOfRange
  | controlCharacter
  | keyNotString
  | loneSurrogate
  | unfinishedEscape
  | trailingComma
  | trailingCharacters
  | tooDeep
  deriving DecidableEq

/-- The message of a fault of the text. -/
def SyntaxFault.message : SyntaxFault → String
  | .unfinishedList => "EOF while parsing a list"
  | .unfinishedObject => "EOF while parsing an object"
  | .unfinishedString => "EOF while parsing a string"
  | .unfinishedValue => "EOF while parsing a value"
  | .expectedColon => "expected `:`"
  | .expectedListEnd => "expected `,` or `]`"
  | .expectedObjectEnd => "expected `,` or `" ++ "\x7d" ++ "`"
  | .expectedWord => "expected ident"
  | .expectedValue => "expected value"
  | .invalidEscape => "invalid escape"
  | .invalidNumber => "invalid number"
  | .numberOutOfRange => "number out of range"
  | .controlCharacter => "control character (\\u0000-\\u001F) found while parsing a string"
  | .keyNotString => "key must be a string"
  | .loneSurrogate => "lone leading surrogate in hex escape"
  | .unfinishedEscape => "unexpected end of hex escape"
  | .trailingComma => "trailing comma"
  | .trailingCharacters => "trailing characters"
  | .tooDeep => "recursion limit exceeded"

/-- A line, counted from one, and the number of bytes of it that were read. -/
structure Place where
  line : Nat
  column : Nat
  deriving DecidableEq

/-- The first fault of a text: in its syntax, or in a value it writes. -/
inductive ReadFault where
  | text (cause : SyntaxFault) (place : Place)
  | value (cause : Fault) (place : Place)
  deriving DecidableEq

/-- The message of a fault, with its place. -/
def ReadFault.message (fault : ReadFault) : String :=
  let (cause, place) :=
    match fault with
    | .text cause place => (cause.message, place)
    | .value cause place => (cause.message, place)
  cause ++ " at line " ++ toString place.line ++ " column " ++ toString place.column

namespace Json

/-- The text that is still to be read, and how far the reading has come. -/
structure Cursor where
  rest : List Char
  place : Place

/-- A step of reading. -/
abbrev Reading := StateT Cursor (Except ReadFault)

namespace Reading

/-- The place after a character. -/
def Place.after (place : Place) (c : Char) : Place :=
  if c = '\n' then ⟨place.line + 1, 0⟩ else ⟨place.line, place.column + c.utf8Size⟩

/-- The place after the first byte of what comes next. -/
def ahead (cursor : Cursor) : Place :=
  match cursor.rest with
  | [] => cursor.place
  | c :: _ =>
    if c = '\n' then ⟨cursor.place.line + 1, 0⟩
    else ⟨cursor.place.line, cursor.place.column + 1⟩

/-- Fail at the place reached. -/
def failHere {α : Type} (cause : SyntaxFault) : Reading α := do
  throw (.text cause (← get).place)

/-- Fail just behind the next byte. -/
def failAhead {α : Type} (cause : SyntaxFault) : Reading α := do
  throw (.text cause (ahead (← get)))

/-- Refuse a value that ends at the place reached. -/
def refuse {α : Type} (cause : Fault) : Reading α := do
  throw (.value cause (← get).place)

/-- The next character, which stays unread. -/
def peek? : Reading (Option Char) := do
  return (← get).rest.head?

/-- Pass over the next character. -/
def advance : Reading Unit :=
  modify fun cursor =>
    match cursor.rest with
    | [] => cursor
    | c :: rest => ⟨rest, Place.after cursor.place c⟩

/-- Read the next character. -/
def next? : Reading (Option Char) := do
  let c ← peek?
  advance
  return c

/-- Pass over the characters of a class. -/
def passWhile (holds : Char → Bool) : Reading (List Char) :=
  modifyGet fun cursor =>
    let (passed, rest) := cursor.rest.span holds
    (passed, ⟨rest, passed.foldl Place.after cursor.place⟩)

/-- Pass over white space and look at what follows. -/
def peekToken? : Reading (Option Char) := do
  let _ ← passWhile fun c => c == ' ' || c == '\n' || c == '\t' || c == '\r'
  peek?

/-- Read the rest of a word such as `null`. -/
def word : List Char → Reading Unit
  | [] => return
  | expected :: rest => do
    match ← next? with
    | none => failHere .unfinishedValue
    | some c => if c = expected then word rest else failHere .expectedWord

/-- The value of four hexadecimal digits. -/
def hexValue? (digits : List Char) : Option Nat :=
  digits.foldlM (fun value c =>
    let n := c.toNat
    if c.isDigit then some (16 * value + (n - '0'.toNat))
    else if 'a' ≤ c ∧ c ≤ 'f' then some (16 * value + (n - 'a'.toNat + 10))
    else if 'A' ≤ c ∧ c ≤ 'F' then some (16 * value + (n - 'A'.toNat + 10))
    else none) 0

/-- Read the four digits of an escape. -/
def hexEscape : Reading Nat := do
  let cursor ← get
  let digits := cursor.rest.take 4
  let passed : Cursor := ⟨cursor.rest.drop 4, digits.foldl Place.after cursor.place⟩
  set passed
  -- The characters count as read even where they are too few, as the fault lies behind them.
  if digits.length < 4 then failHere .unfinishedString
  else
    match hexValue? digits with
    | some value => return value
    | none => failHere .invalidEscape

/-- Read the rest of a `\u` escape; a pair of surrogates is one character. -/
def unicodeEscape : Reading Char := do
  let first ← hexEscape
  -- The second half of a pair cannot come first.
  if 0xDC00 ≤ first ∧ first ≤ 0xDFFF then failHere .loneSurrogate
  else if first < 0xD800 ∨ 0xDBFF < first then return Char.ofNat first
  else
    for expected in ['\\', 'u'] do
      match ← peek? with
      | none => failHere .unfinishedString
      | some c => if c = expected then advance else failAhead .unfinishedEscape
    let second ← hexEscape
    if second < 0xDC00 ∨ 0xDFFF < second then failHere .loneSurrogate
    else return Char.ofNat ((first - 0xD800) * 0x400 + (second - 0xDC00) + 0x10000)

/-- The character that a one-letter escape stands for. -/
def shortEscape? : Char → Option Char
  | '"' => some '"'
  | '\\' => some '\\'
  | '/' => some '/'
  | 'b' => some '\x08'
  | 'f' => some '\x0c'
  | 'n' => some '\n'
  | 'r' => some '\r'
  | 't' => some '\t'
  | _ => none

/--
Read a string up to its closing quote.

A string that is passed over may hold surrogates without partners, since no text is made of it.
-/
def stringBody (passedOver : Bool) (steps : Nat) (done : List Char) : Reading (List Char) :=
  match steps with
  | 0 => failHere .unfinishedString
  | steps + 1 => do
    match ← next? with
    | none => failHere .unfinishedString
    | some '"' => return done.reverse
    | some '\\' =>
      match ← peek? with
      | none => failHere .unfinishedString
      | some 'u' =>
        advance
        -- The digits are looked at all the same, so a faulty escape is found either way.
        if passedOver then
          let _ ← hexEscape
          stringBody passedOver steps done
        else
          stringBody passedOver steps ((← unicodeEscape) :: done)
      | some c =>
        match shortEscape? c with
        | some meant =>
          advance
          stringBody passedOver steps (meant :: done)
        | none => failAhead .invalidEscape
    | some c =>
      if c.toNat < 0x20 then failHere .controlCharacter
      else stringBody passedOver steps (c :: done)

/-- Read a string whose opening quote was read. -/
def stringRest (passedOver : Bool) : Reading String := do
  let steps := (← get).rest.length + 1
  return String.ofList (← stringBody passedOver steps [])

/-- The integer part, fraction and exponent of a number, as written. -/
structure Numeral where
  negative : Bool
  whole : List Char
  fraction : Option (List Char)
  exponent : Option (Bool × List Char)

/-- Read a number, which starts with a digit or a minus sign. -/
def numeral : Reading Numeral := do
  let negative := (← peek?) == some '-'
  if negative then advance
  match ← peek? with
  | none => failHere .unfinishedValue
  | some c =>
    if !c.isDigit then
      failAhead .invalidNumber
    else
      -- A zero is a whole part of its own, so that no number starts with one that is needless.
      let whole ← if c = '0' then do advance; pure ['0'] else passWhile Char.isDigit
      -- A zero stands alone before the point.
      if c = '0' ∧ ((← peek?).any Char.isDigit) then failAhead .invalidNumber
      else
        let mut fraction := none
        if (← peek?) == some '.' then
          advance
          let digits ← passWhile Char.isDigit
          if digits.isEmpty then
            match ← peek? with
            | none => failHere .unfinishedValue
            | some _ => failAhead .invalidNumber
          fraction := some digits
        let mut exponent := none
        if (← peek?).any fun c => c == 'e' || c == 'E' then
          advance
          let sign ← peek?
          if sign.any fun c => c == '+' || c == '-' then advance
          let digits ← passWhile Char.isDigit
          if digits.isEmpty then
            match ← next? with
            | none => failHere .unfinishedValue
            | some _ => failHere .invalidNumber
          exponent := some (sign == some '-', digits)
        return ⟨negative, whole, fraction, exponent⟩

/-- The value of decimal digits. -/
def digitsValue (digits : List Char) : Nat :=
  digits.foldl (fun value c => 10 * value + (c.toNat - '0'.toNat)) 0

/-- The limit of an unsigned integer of 64 bits. -/
def limit64 : Nat := Nat.pow 2 64

/-- Append digits to a significand for as long as it keeps to 64 bits, and count those appended. -/
def appendDigits (significand appended : Nat) : List Char → Nat × Nat
  | [] => (significand, appended)
  | c :: rest =>
    let longer := 10 * significand + (c.toNat - '0'.toNat)
    -- The first digit that does not fit ends the significand, even if a later one would fit.
    if longer < limit64 then appendDigits longer (appended + 1) rest else (significand, appended)

/-- The exponent of a numeral, cut to a size at which every outcome is decided. -/
def Numeral.tens (n : Numeral) : Int :=
  match n.exponent with
  | none => 0
  | some (negative, digits) =>
    -- No exponent of this size leaves anything but zero or an overflow.
    let value : Int := min (digitsValue digits) 2147483647
    if negative then -value else value

/--
The number that a numeral stands for.

An integer of 64 bits is exact. Any other numeral is the longest significand of 64 bits, scaled by a
power of ten in floating point. A numeral beyond the largest number stands for nothing.
-/
def Numeral.value? (n : Numeral) : Option JsonNumber :=
  let integer := digitsValue n.whole
  let sign (x : Binary64) : JsonNumber := .real (if n.negative then x.neg else x)
  if n.fraction.isNone ∧ n.exponent.isNone ∧
      (if n.negative then 0 < integer ∧ integer ≤ Nat.pow 2 63 else integer < limit64) then
    some (.integer (if n.negative then -(integer : Int) else integer))
  else
    let (whole, kept) := appendDigits 0 0 n.whole
    -- Digits of the whole part beyond the significand only scale it; a fraction's may still fit.
    let skipped := n.whole.length - kept
    let (significand, places) := appendDigits whole 0 (n.fraction.getD [])
    (Binary64.scaleByTen? (Binary64.ofInt significand) (skipped - places + n.tens)).map sign

/-- Read a number and its value. -/
def number : Reading JsonNumber := do
  match (← numeral).value? with
  | some n => return n
  | none => failHere .numberOutOfRange

/-- Look for the next item of a list; the first one needs no comma. -/
def nextItem (first : Bool) : Reading Bool := do
  match ← peekToken? with
  | none => failAhead .unfinishedList
  | some ']' => return false
  | some c =>
    -- An empty list needs no comma, and neither does the item after the bracket.
    if first then return true
    else if c = ',' then
      advance
      match ← peekToken? with
      | none => failAhead .unfinishedValue
      | some ']' => failAhead .trailingComma
      | some _ => return true
    else failAhead .expectedListEnd

/-- Look for the key of the next member; the first one needs no comma. -/
def nextKey (first : Bool) : Reading Bool := do
  match ← peekToken? with
  | none => failAhead .unfinishedObject
  | some '\x7d' => return false
  | some c =>
    if first then
      if c = '"' then return true else failAhead .keyNotString
    else if c = ',' then
      advance
      match ← peekToken? with
      | none => failAhead .unfinishedValue
      | some '"' => return true
      | some '\x7d' => failAhead .trailingComma
      | some _ => failAhead .keyNotString
    else failAhead .expectedObjectEnd

/-- Read the colon after a key. -/
def colon : Reading Unit := do
  match ← peekToken? with
  | none => failAhead .unfinishedObject
  | some ':' => advance
  | some _ => failAhead .expectedColon

/-- Enter a container, if one more level is allowed. -/
def enter (depth : Nat) : Reading Nat := do
  match depth with
  | 0 => failAhead .tooDeep
  | depth + 1 =>
    advance
    return depth

mutual

/-- Read any value. -/
def anything (steps depth : Nat) : Reading Json :=
  match steps with
  | 0 => failHere .unfinishedValue
  | steps + 1 => do
    match ← peekToken? with
    | none => failAhead .unfinishedValue
    | some 'n' => advance; word ['u', 'l', 'l']; return .null
    | some 't' => advance; word ['r', 'u', 'e']; return .bool true
    | some 'f' => advance; word ['a', 'l', 's', 'e']; return .bool false
    | some '"' => advance; return .string (← stringRest false)
    | some '[' =>
      let depth ← enter depth
      let items ← anyItems steps depth true []
      advance
      return .array items
    | some '\x7b' =>
      let depth ← enter depth
      let members ← anyMembers steps depth true []
      advance
      return .object members
    | some c => if c = '-' ∨ c.isDigit then return .number (← number) else failAhead .expectedValue

/-- Read the items of a list up to its closing bracket. -/
def anyItems (steps depth : Nat) (first : Bool) (done : List Json) : Reading (List Json) :=
  match steps with
  | 0 => failHere .unfinishedList
  | steps + 1 => do
    if ← nextItem first then
      let item ← anything steps depth
      anyItems steps depth false (item :: done)
    else return done.reverse

/-- Read the members of an object up to its closing brace; a later value of a key counts. -/
def anyMembers (steps depth : Nat) (first : Bool) (done : Members) : Reading Members :=
  match steps with
  | 0 => failHere .unfinishedObject
  | steps + 1 => do
    if ← nextKey first then
      advance
      let key ← stringRest false
      colon
      let value ← anything steps depth
      -- A key that comes again takes the place of what was read before.
      anyMembers steps depth false (done.insert key value)
    else return done

end

mutual

/-- Pass over a value of any depth that nothing is made of. -/
def skip (steps : Nat) : Reading Unit :=
  match steps with
  | 0 => failHere .unfinishedValue
  | steps + 1 => do
    match ← peekToken? with
    | none => failAhead .unfinishedValue
    | some 'n' => advance; word ['u', 'l', 'l']
    | some 't' => advance; word ['r', 'u', 'e']
    | some 'f' => advance; word ['a', 'l', 's', 'e']
    | some '"' => advance; let _ ← stringRest true
    | some '[' => advance; skipItems steps true
    | some '\x7b' => advance; skipMembers steps true
    | some c =>
      if c = '-' ∨ c.isDigit then let _ ← numeral else failAhead .expectedValue

/-- Pass over the items of a list and its closing bracket. -/
def skipItems (steps : Nat) (first : Bool) : Reading Unit :=
  match steps with
  | 0 => failHere .unfinishedList
  | steps + 1 => do
    match ← peekToken? with
    | none => failAhead .unfinishedList
    | some ']' => advance
    | some c =>
      if !first && c != ',' then failAhead .expectedListEnd
      else
        if !first then advance
        skip steps
        skipItems steps false

/-- Pass over the members of an object and its closing brace. -/
def skipMembers (steps : Nat) (first : Bool) : Reading Unit :=
  match steps with
  | 0 => failHere .unfinishedObject
  | steps + 1 => do
    match ← peekToken? with
    | none => failAhead .unfinishedObject
    | some '\x7d' => advance
    | some c =>
      if !first && c != ',' then failAhead .expectedObjectEnd
      else
        if !first then advance
        match ← peekToken? with
        | none => failAhead .unfinishedObject
        | some '"' => advance
        | some _ => failAhead .keyNotString
        let _ ← stringRest true
        colon
        skip steps
        skipMembers steps false

end

/-- Refuse the next value for its type; a scalar is read first, a container is not entered. -/
def wrongType {α : Type} (expected : String) : Reading α := do
  match ← peek? with
  | none => failAhead .unfinishedValue
  | some 'n' => advance; word ['u', 'l', 'l']; refuse (.invalidType .null expected)
  | some 't' => advance; word ['r', 'u', 'e']; refuse (.invalidType (.bool true) expected)
  | some 'f' => advance; word ['a', 'l', 's', 'e']; refuse (.invalidType (.bool false) expected)
  | some '"' => advance; refuse (.invalidType (.string (← stringRest false)) expected)
  | some '[' => refuse (.invalidType .sequence expected)
  | some '\x7b' => refuse (.invalidType .map expected)
  | some c =>
    if c = '-' ∨ c.isDigit then refuse (.invalidType (.number (← number)) expected)
    else failAhead .expectedValue

/-- Read the end of a record that turned out to be faulty, then refuse it. -/
def refuseRecord {α : Type} (close : Char) (cause : Fault) : Reading α := do
  match ← peekToken? with
  | some c => if c = close then advance
  | none => pure ()
  -- A list goes on to look past a comma for its end.
  if close = ']' ∧ (← peek?) = some ',' then
    advance
    let _ ← peekToken?
  refuse cause

/-- Read a name that has to be one of a choice. -/
def choiceName (names : List String) : Reading String := do
  match ← peekToken? with
  | some '"' =>
    advance
    let name ← stringRest false
    match Shape.choiceFault names name with
    | some cause => refuse cause
    | none => return name
  | _ => wrongType "variant identifier"

mutual

/-- Read a value of a shape; members that a record does not list are passed over. -/
def shaped (steps depth : Nat) (shape : Shape) : Reading Json :=
  match steps with
  | 0 => failHere .unfinishedValue
  | steps + 1 => do
    let token ← peekToken?
    match shape with
    | .anything => anything (steps + 1) depth
    -- Null is decided on before the shape is looked at, which may accept it too.
    | .nullable inner =>
      if token = some 'n' then
        advance
        word ['u', 'l', 'l']
        return .null
      else shaped steps depth inner
    | .text =>
      if token = some '"' then
        advance
        return .string (← stringRest false)
      else wrongType shape.expectation
    | .checkedText _ =>
      if token = some '"' then
        advance
        return .string (← stringRest false)
      else wrongType shape.expectation
    | .flag =>
      if token = some 't' ∨ token = some 'f' then anything (steps + 1) depth
      else wrongType shape.expectation
    | .real =>
      if token.any fun c => c == '-' || c.isDigit then return .number (← number)
      else wrongType shape.expectation
    | .count =>
      if token.any fun c => c == '-' || c.isDigit then
        let n ← number
        -- A number out of range is refused where it ends, not where the record ends.
        match Shape.countFault n with
        | some cause => refuse cause
        | none => return .number n
      else wrongType shape.expectation
    | .map =>
      if token = some '\x7b' then anything (steps + 1) depth else wrongType shape.expectation
    | .choice names =>
      match token with
      | some '"' => return .string (← choiceName names)
      | some '\x7b' =>
        let _ ← enter depth
        let name ← choiceName names
        colon
        match ← peekToken? with
        | some 'n' => advance; word ['u', 'l', 'l']
        | _ => wrongType "unit"
        match ← peekToken? with
        | some '\x7d' => advance
        | some _ => failHere .expectedValue
        | none => failHere .unfinishedObject
        return .object [(name, .null)]
      | some _ => failAhead .expectedValue
      | none => failAhead .unfinishedValue
    | .list item =>
      if token = some '[' then
        let depth ← enter depth
        let items ← shapedItems steps depth item true []
        advance
        return .array items
      else wrongType shape.expectation
    | .record name fields =>
      match token with
      | some '[' =>
        let depth ← enter depth
        let items ← shapedPositions steps depth name fields.length 0 fields []
        return .array items
      | some '\x7b' =>
        let depth ← enter depth
        let members ← shapedMembers steps depth fields true []
        -- What is missing is known only once all members are read.
        match Shape.missing? fields fun key => members.any (·.1 = key) with
        | some cause => refuseRecord '\x7d' cause
        | none =>
          advance
          return .object members
      | _ => wrongType shape.expectation

/-- Read the items of a list of one shape up to its closing bracket. -/
def shapedItems (steps depth : Nat) (item : Shape) (first : Bool) (done : List Json) :
    Reading (List Json) :=
  match steps with
  | 0 => failHere .unfinishedList
  | steps + 1 => do
    if ← nextItem first then
      let value ← shaped steps depth item
      shapedItems steps depth item false (value :: done)
    else return done.reverse

/-- Read the fields of a record given by position, and its closing bracket. -/
def shapedPositions (steps depth : Nat) (name : String) (size index : Nat)
    (fields : List (String × Bool × Shape)) (done : List Json) : Reading (List Json) :=
  match steps, fields with
  | 0, _ => failHere .unfinishedList
  | _ + 1, [] => do
    match ← peekToken? with
    | none => failAhead .unfinishedList
    | some ']' => advance
    | some ',' =>
      advance
      match ← peekToken? with
      | some ']' => failAhead .trailingComma
      | _ => failAhead .trailingCharacters
    | some _ => failAhead .trailingCharacters
    return done.reverse
  | steps + 1, (key, required, shape) :: rest => do
    if ← nextItem (index == 0) then
      let value ← shaped steps depth shape
      match shape, value with
      | .checkedText refusal, .string text =>
        match refusal text with
        | some cause => refuseRecord ']' cause
        | none => pure ()
      | _, _ => pure ()
      shapedPositions steps depth name size (index + 1) rest (value :: done)
    else
      match Shape.tooShort? name size index ((key, required, shape) :: rest) with
      | some cause => refuseRecord ']' cause
      | none =>
        advance
        return done.reverse

/-- Read the members of a record up to its closing brace; a listed key may come only once. -/
def shapedMembers (steps depth : Nat) (fields : List (String × Bool × Shape)) (first : Bool)
    (done : Members) : Reading Members :=
  match steps with
  | 0 => failHere .unfinishedObject
  | steps + 1 => do
    if ← nextKey first then
      advance
      let key ← stringRest false
      match Shape.field? fields key with
      | none =>
        colon
        skip steps
        shapedMembers steps depth fields false done
      | some shape =>
        if done.any (·.1 = key) then refuseRecord '\x7d' (.duplicateField key)
        else
          colon
          let value ← shaped steps depth shape
          match shape, value with
          | .checkedText refusal, .string text =>
            match refusal text with
            | some cause => refuseRecord '\x7d' cause
            | none => pure ()
          | _, _ => pure ()
          shapedMembers steps depth fields false (done.insert key value)
    else return done

end

end Reading

/-- The number of containers that may stand inside one another. -/
def depthLimit : Nat := 127

/-- Read a text that holds one value of a shape and nothing else. -/
def read (shape : Shape) (text : String) : Except ReadFault Json :=
  let chars := text.toList
  -- Every step of the reading passes at least one character or comes from one that did.
  let steps := 2 * chars.length + 2
  let whole : Reading Json := do
    let value ← Reading.shaped steps depthLimit shape
    match ← Reading.peekToken? with
    | none => return value
    | some _ => Reading.failAhead .trailingCharacters
  (whole.run ⟨chars, 1, 0⟩).map Prod.fst

/-- The value that a text holds, if it holds just one. -/
def parse? (text : String) : Option Json :=
  (read .anything text).toOption

end Json

end LiveBoard
