import LiveBoard.Toml.Scalar

/-! Reading a TOML document; a document with any fault is not read at all. -/

namespace LiveBoard.Toml

/-- How deep lists and tables in braces may lie within each other. -/
def maxDepth : Nat := 80

/-- Drop blanks, line ends and comments; `inComment` tells whether a comment has begun. -/
def skipGap (inComment : Bool) : List Char → Option (List Char)
  | [] => some []
  | '\r' :: '\n' :: rest => skipGap false rest
  | c :: rest =>
    if c = '\n' then skipGap false rest
    else if inComment then if isPlain c then skipGap true rest else none
    else if isBlank c then skipGap false rest
    else if c = '#' then skipGap true rest
    else some (c :: rest)

/-- Drop the rest of a line, which holds nothing but blanks and a comment. -/
def endLine (inComment : Bool) : List Char → Option (List Char)
  | [] => some []
  | '\r' :: '\n' :: rest => some rest
  | c :: rest =>
    if c = '\n' then some rest
    else if inComment then if isPlain c then endLine true rest else none
    else if isBlank c then endLine false rest
    else if c = '#' then endLine true rest
    else none

/-- One part of a key. -/
def keyPart (chars : List Char) : Option (String × List Char) :=
  let (bare, rest) := chars.span isKeyChar
  -- A key may be quoted, but only on one line.
  if bare.isEmpty then lineText chars else some (String.ofList bare, rest)

/-- A key with its dots, parted into the path before its last part and that part. -/
def dottedKey : (fuel : Nat) → List Char → Option ((List String × String) × List Char)
  | 0, _ => none
  | fuel + 1, chars => do
    let (part, rest) ← keyPart chars
    match skipBlanks rest with
    | '.' :: rest =>
      let ((path, last), rest) ← dottedKey fuel (skipBlanks rest)
      return ((part :: path, last), rest)
    | rest => return (([], part), rest)

/-- A reader of one value. -/
abbrev ValueReader := List Char → Option (Value × List Char)

/-- A key, its value and what follows. -/
def keyValue (value : ValueReader) (chars : List Char) :
    Option ((List String × String × Value) × List Char) := do
  let ((path, key), rest) ← dottedKey chars.length chars
  match rest with
  | '=' :: rest =>
    let (value, rest) ← value (skipBlanks rest)
    return ((path, key, value), rest)
  | _ => none

/-- The rest of a list after its opening bracket or after a comma. -/
def listRest (value : ValueReader) :
    (fuel : Nat) → (before : List Value) → List Char → Option (Value × List Char)
  | 0, _, _ => none
  | fuel + 1, before, chars => do
    match ← skipGap false chars with
    | ']' :: rest => return (.list false before.reverse, rest)
    | chars =>
      let (item, rest) ← value chars
      match ← skipGap false rest with
      | ',' :: rest => listRest value fuel (item :: before) rest
      | ']' :: rest => return (.list false (item :: before).reverse, rest)
      | _ => none

/-- The rest of a table in braces after its opening brace or after a comma. -/
def tableRest (value : ValueReader) :
    (fuel : Nat) → Entries → List Char → Option (Value × List Char)
  | 0, _, _ => none
  | fuel + 1, entries, chars => do
    match ← skipGap false chars with
    | '\x7d' :: rest => return (.table .inline entries, rest)
    | chars =>
      let ((path, key, value'), rest) ← keyValue value chars
      -- A table in braces is whole when it is closed, so nothing can be added to it later.
      let (_, entries) ← Entries.insert path key value' .inline entries
      match ← skipGap false rest with
      | ',' :: rest => tableRest value fuel entries rest
      | '\x7d' :: rest => return (.table .inline entries, rest)
      | _ => none

/-- A value, given how deep it may go. -/
def readValue : (depth : Nat) → ValueReader
  | 0, chars =>
    match chars with
    | '[' :: _ | '\x7b' :: _ => none
    | '"' :: _ | '\'' :: _ => (quotedText chars).map fun (text, rest) => (.text text, rest)
    | _ => bareValue chars
  | depth + 1, chars =>
    match chars with
    | '[' :: rest => listRest (readValue depth) chars.length [] rest
    | '\x7b' :: rest => tableRest (readValue depth) chars.length [] rest
    | '"' :: _ | '\'' :: _ => (quotedText chars).map fun (text, rest) => (.text text, rest)
    | _ => bareValue chars

/-- A document as it has been read so far. -/
structure Document where
  entries : Entries
  /-- The path of the table that keys belong to. -/
  current : List String

namespace Document

/-- The document with its entries changed. -/
def change (document : Document) (change : Entries.Change) : Option Document := do
  let (_, entries) ← change .header document.entries
  return { document with entries }

/-- Open the table of a header. -/
def openHeader (document : Document) (isList : Bool) (path : List String) (key : String) :
    Option Document := do
  let opened ←
    document.change (if isList then Entries.openListItem path key else Entries.openTable path key)
  -- Keys belong to this table until the next header.
  return { opened with current := path ++ [key] }

/-- Add a value under a key of the current table. -/
def insert (document : Document) (path : List String) (key : String) (value : Value) :
    Option Document :=
  document.change (Entries.changeAt false (Entries.insert path key value) document.current)

/-- Read a header after its opening bracket. -/
def readHeader (document : Document) (chars : List Char) : Option (Document × List Char) := do
  let (isList, chars) :=
    match chars with
    | '[' :: rest => (true, rest)
    | _ => (false, chars)
  let ((path, key), rest) ← dottedKey chars.length (skipBlanks chars)
  let rest ←
    match isList, rest with
    -- A header closes the way it was opened.
    | false, ']' :: rest | true, ']' :: ']' :: rest => some rest
    | _, _ => none
  return (← document.openHeader isList path key, rest)

/-- Read the statements of a document, one a line. -/
def readStatements : (fuel : Nat) → Document → List Char → Option Document
  | 0, _, _ => none
  | fuel + 1, document, chars => do
    match ← skipGap false chars with
    | [] => return document
    | '[' :: rest =>
      let (document, rest) ← document.readHeader rest
      -- Nothing may follow a header or a value on its line but a comment.
      readStatements fuel document (← endLine false rest)
    | chars =>
      let ((path, key, value), rest) ← keyValue (readValue maxDepth) chars
      readStatements fuel (← document.insert path key value) (← endLine false rest)

end Document

/-- The entries of a document, which may start with a byte order mark. -/
def parse? (text : String) : Option Entries := do
  let chars :=
    match text.toList with
    | '\ufeff' :: rest => rest
    | chars => chars
  let document ← Document.readStatements (chars.length + 1) ⟨[], []⟩ chars
  return document.entries

end LiveBoard.Toml
