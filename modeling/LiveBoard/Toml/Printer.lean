/-! Texts as TOML writes them, with as few escapes as the choice of quotes allows. -/

namespace LiveBoard.Toml

/-- What the choice of quotes for a text depends on. -/
structure TextTraits where
  /-- Control characters that are written as escapes wherever they stand. -/
  hasControl : Bool
  hasBackslash : Bool
  hasNewline : Bool
  /-- The longest run of single quotes, and of double quotes. -/
  singleRun : Nat
  doubleRun : Nat

/-- The length of the longest run of a character, given the run that has just been read. -/
def longestRun (mark : Char) (current longest : Nat) : List Char → Nat
  | [] => longest
  | c :: rest =>
    if c = mark then longestRun mark (current + 1) (max longest (current + 1)) rest
    else longestRun mark 0 longest rest

/-- Control characters that cannot stand in a text as themselves. -/
def isControl (c : Char) : Bool :=
  (c.toNat < 0x20 || c.toNat = 0x7F) && c != '\t' && c != '\n'

/-- What the choice of quotes for a text depends on. -/
def TextTraits.ofChars (chars : List Char) : TextTraits where
  hasControl := chars.any isControl
  hasBackslash := chars.contains '\\'
  hasNewline := chars.contains '\n'
  singleRun := longestRun '\'' 0 0 chars
  doubleRun := longestRun '"' 0 0 chars

/-- A form in which a text can be written. -/
inductive TextForm where
  | basic
  | literal
  | basicLines
  | literalLines
  deriving DecidableEq

/-- The form of a text: double quotes before single ones, one line before many. -/
def TextForm.ofTraits (traits : TextTraits) : TextForm :=
  -- Single quotes allow backslashes but no escapes, so no control characters can stand in them.
  let needsEscapes := traits.hasControl || traits.hasBackslash
  if !needsEscapes && traits.doubleRun = 0 && !traits.hasNewline then .basic
  else if !traits.hasControl && traits.singleRun = 0 && !traits.hasNewline then .literal
  else if !needsEscapes && traits.doubleRun ≤ 2 then .basicLines
  else if !traits.hasControl && traits.singleRun ≤ 2 then .literalLines
  else if traits.hasNewline then .basicLines
  else .basic

/-- A code point as four hexadecimal digits behind a backslash. -/
def codeEscape (c : Char) : List Char :=
  let digits := (Nat.toDigits 16 c.toNat).map Char.toUpper
  '\\' :: 'u' :: List.replicate (4 - digits.length) '0' ++ digits

/-- A text between double quotes, of which so many may stand in a row within it. -/
def escaped (multiline : Bool) (allowed run : Nat) : List Char → List Char
  | [] => []
  | c :: rest =>
    match c with
    | '"' =>
      -- Marks stand as themselves as long as they are too few to close the text.
      if run < allowed then c :: escaped multiline allowed (run + 1) rest
      else '\\' :: c :: escaped multiline allowed 0 rest
    | '\\' => '\\' :: c :: escaped multiline allowed 0 rest
    | '\n' =>
      (if multiline then [c] else ['\\', 'n']) ++ escaped multiline allowed 0 rest
    | '\t' => '\\' :: 't' :: escaped multiline allowed 0 rest
    | '\r' => '\\' :: 'r' :: escaped multiline allowed 0 rest
    | '\x08' => '\\' :: 'b' :: escaped multiline allowed 0 rest
    | '\x0c' => '\\' :: 'f' :: escaped multiline allowed 0 rest
    | c =>
      (if isControl c then codeEscape c else [c]) ++ escaped multiline allowed 0 rest

/-- A text as a TOML value. -/
def renderText (text : String) : String :=
  let chars := text.toList
  let traits := TextTraits.ofChars chars
  -- A line end right after the opening quotes is no part of the text.
  let opening := if traits.hasNewline then ['\n'] else []
  let rendered :=
    match TextForm.ofTraits traits with
    | .basic => '"' :: escaped false 0 0 chars ++ ['"']
    | .literal => '\'' :: chars ++ ['\'']
    | .basicLines => ['"', '"', '"'] ++ opening ++ escaped true 2 0 chars ++ ['"', '"', '"']
    | .literalLines => ['\'', '\'', '\''] ++ opening ++ chars ++ ['\'', '\'', '\'']
  String.ofList rendered

end LiveBoard.Toml
