import LiveBoard.Environment.Basic
import LiveBoard.Text.Alphanumeric
import LiveBoard.Text.Blank

/-!
Variables kept in a file, one on a line.

A line that cannot be read ends the file. What was set before it stays set, and a variable that is
set already is left alone.
-/

namespace LiveBoard.Dotenv

/-- Where a line stands with its quotes. -/
inductive Quoting where
  | plain
  /-- A blank was just read, after which a comment may begin. -/
  | blank
  | escape
  | double
  | doubleEscape
  | single
  | singleEscape
  deriving DecidableEq

/-- How a character outside of quotes changes where a line stands. -/
def Quoting.opened (c : Char) : Quoting :=
  if c = '\\' then .escape
  else if c = '"' then .double
  else if c = '\'' then .single
  else .plain

/-- How a character changes where a line stands. -/
def Quoting.next (c : Char) : Quoting → Quoting
  | .blank => .opened c
  | .plain => if Text.isBlank c && c != '\n' && c != '\r' then .blank else .opened c
  | .escape => .plain
  | .double => if c = '\\' then .doubleEscape else if c = '"' then .plain else .double
  | .doubleEscape => .double
  | .single => if c = '\\' then .singleEscape else if c = '\'' then .plain else .single
  | .singleEscape => .single

/-- Read on to the end of a line, or to a comment; what was read is held in reverse. -/
def scan (quoting : Quoting) (read : List Char) : List Char → Quoting × List Char
  | [] => (quoting, read)
  | c :: rest =>
    -- A hash inside a word is part of the word.
    if quoting = .blank ∧ c = '#' then (.plain, read) else scan (quoting.next c) (c :: read) rest

/-- The lines of a text, each with its end. -/
def endedLines (line : List Char) : List Char → List (List Char)
  | [] => if line.isEmpty then [] else [line.reverse]
  | c :: rest =>
    if c = '\n' then (c :: line).reverse :: endedLines [] rest else endedLines (c :: line) rest

/-- A line held in reverse, without its end. -/
def withoutEnd : List Char → List Char
  | '\n' :: '\r' :: line | '\n' :: line | line => line.reverse

/-- Join the lines over which a quote stays open; nothing stands for a line that never ends. -/
def joined (quoting : Quoting) (read : List Char) : List (List Char) → List (Option (List Char))
  | [] => if quoting = .plain then [] else [none]
  | line :: rest =>
    -- A comment is dropped as a line unless a quote is still open over it.
    if read.isEmpty && (line.dropWhile Text.isBlank).head? == some '#' then
      joined .plain [] rest
    else
      match scan quoting read line with
      | (.plain, read) => some (withoutEnd read) :: joined .plain [] rest
      | (quoting, read) => joined quoting read rest

/-- How far the value of a variable is read. -/
inductive Phase where
  | text
  | escape
  /-- The name of another variable, in braces or bare, held in reverse. -/
  | name (braced : Bool) (letters : List Char)
  /-- Only blanks and a comment may follow. -/
  | ended
  deriving DecidableEq

/-- The quote around a part of a value. -/
inductive Quote where
  | none
  | double
  | single
  deriving DecidableEq

/-- The characters that may stand behind a backslash as themselves. -/
def isEscapable (c : Char) : Bool :=
  c = '\\' || c = '\'' || c = '"' || c = '$' || c = ' '

/-- The value of a variable that another one names, held in reverse. -/
def substitute (environment : Environment) (letters : List Char) : List Char :=
  ((environment.get? (String.ofList letters.reverse)).getD "").toList.reverse

/-- Read a value; what is read so far is held in reverse. -/
def readValue (environment : Environment) (phase : Phase) (quote : Quote) (read : List Char) :
    List Char → Option (List Char)
  | [] =>
    match phase, quote with
    -- What was opened has to be closed before the end.
    | .name true _, _ | _, .double | _, .single => none
    | .name false letters, .none => some (substitute environment letters ++ read).reverse
    | .text, .none | .escape, .none | .ended, .none => some read.reverse
  | c :: rest =>
    let go := fun phase quote read => readValue environment phase quote read rest
    match phase with
    | .ended =>
      if c = ' ' || c = '\t' then go .ended quote read
      else if c = '#' then some read.reverse
      else none
    | .escape =>
      if isEscapable c then go .text quote (c :: read)
      else if c = 'n' then go .text quote ('\n' :: read)
      else none
    | .name braced letters =>
      if Text.isAlphanumeric c then go (.name braced (c :: letters)) quote read
      else if braced then
        if c = '\x7d' then go .text quote (substitute environment letters ++ read)
        else go (.name true (c :: letters)) quote read
      else if c = '\x7b' && letters.isEmpty then go (.name true []) quote read
      else
        let read := substitute environment letters ++ read
        -- The character behind a bare name is text, even where it would close a quote.
        if c = '$' then go (.name false []) quote read else go .text quote (c :: read)
    | .text =>
      match quote with
      | .single => if c = '\'' then go .text .none read else go .text .single (c :: read)
      | .double =>
        if c = '$' then go (.name false []) .double read
        else if c = '"' then go .text .none read
        else if c = '\\' then go .escape .double read
        else go .text .double (c :: read)
      | .none =>
        if c = '$' then go (.name false []) .none read
        else if c = '\'' then go .text .single read
        else if c = '"' then go .text .double read
        else if c = '\\' then go .escape .none read
        else if c = ' ' || c = '\t' then go .ended .none read
        else go .text .none (c :: read)

/-- Whether a character can stand in a name. -/
def isNameChar (c : Char) : Bool := c.isAlphanum || c = '_' || c = '.'

/-- The name at the start of a line, and what follows it and the blanks after it. -/
def readName? (line : List Char) : Option (String × List Char) :=
  match line with
  | c :: _ =>
    if c.isAlpha || c = '_' then
      some (String.ofList (line.takeWhile isNameChar),
        (line.dropWhile isNameChar).dropWhile Text.isBlank)
    else none
  | [] => none

/-- What follows an equals sign. -/
def afterEquals? : List Char → Option (List Char)
  | '=' :: rest => some rest
  | _ => none

/-- The name that a line sets, and the text of the value; a word may say that it is exported. -/
def splitLine? (line : List Char) : Option (String × List Char) := do
  let (name, rest) ← readName? line
  match afterEquals? rest with
  | some value => return (name, value)
  | none =>
    if name = "export" then
      let (name, rest) ← readName? rest
      return (name, ← afterEquals? rest)
    else none

/-- Set the variable of a line, if it holds one. -/
def readLine (environment : Environment) (line : List Char) : Option Environment :=
  let line := ((line.reverse.dropWhile Text.isBlank).reverse).dropWhile Text.isBlank
  match line with
  | [] | '#' :: _ => some environment
  | line => do
    let (name, value) ← splitLine? line
    match value.dropWhile Text.isBlank with
    | [] | '#' :: _ => return environment.define name ""
    | value =>
      return environment.define name
        (String.ofList (← readValue environment .text .none [] value))

/-- Set the variables of lines, up to the first one that cannot be read. -/
def readLines (environment : Environment) : List (Option (List Char)) → Environment
  | [] | none :: _ => environment
  | some line :: rest =>
    match readLine environment line with
    | some environment => readLines environment rest
    | none => environment

/-- The variables with those of a file added. -/
def load (environment : Environment) (text : String) : Environment :=
  let chars :=
    match text.toList with
    -- The mark of the byte order is no part of the text.
    | '\ufeff' :: chars => chars
    | chars => chars
  readLines environment (joined .plain [] (endedLines [] chars))

end LiveBoard.Dotenv
