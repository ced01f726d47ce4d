import LiveBoard.Binary64.Basic

/-! Values of a TOML document, with what decides whether a table can still be added to. -/

namespace LiveBoard.Toml

/-- How a table came about. -/
inductive Origin where
  /-- A header of its own, or the document itself. -/
  | header
  /-- The header of a table inside it. -/
  | implied
  /-- A dotted key. -/
  | dotted
  /-- Braces, which hold all of it. -/
  | inline
  deriving DecidableEq

namespace Origin

/-- Whether a table was only ever named on the way to something inside it. -/
def isImplicit : Origin → Bool
  | .implied | .dotted => true
  | .header | .inline => false

end Origin

/-- A value. -/
inductive Value where
  | text (text : String)
  | integer (value : Int)
  /-- A number that may have a fraction; one too large is absent. -/
  | real (value : Option Binary64)
  | flag (value : Bool)
  /-- A date, a time of day or both. -/
  | moment
  /-- A list in brackets, or one of tables with a header each. -/
  | list (ofHeaders : Bool) (items : List Value)
  | table (origin : Origin) (entries : List (String × Value))

/-- The entries of a table. -/
abbrev Entries := List (String × Value)

namespace Entries

/-- The value of a key. -/
def get? (entries : Entries) (key : String) : Option Value :=
  (entries.find? (·.1 = key)).map (·.2)

/-- The entries with one more, or with another value for a key. -/
def put (entries : Entries) (key : String) (value : Value) : Entries :=
  if (get? entries key).isSome then
    -- A key that is there keeps its place.
    entries.map fun entry => if entry.1 = key then (key, value) else entry
  else entries ++ [(key, value)]

/-- A change of a table, which fails if the table must not be changed so. -/
abbrev Change := Origin → Entries → Option (Origin × Entries)

/--
Change the table at the end of a path, adding tables on the way.

A list of tables leads on to the last of them. Dotted keys lead through no table that has a header.
-/
def changeAt (dotted : Bool) (change : Change) : List String → Change
  | [], origin, entries => change origin entries
  | key :: path, origin, entries => do
    let changeTable (origin : Origin) (inner : Entries) : Option Value := do
      let (origin, inner) ← changeAt dotted change path origin inner
      return .table origin inner
    let changed ←
      match get? entries key with
      | none => changeTable (if dotted then .dotted else .implied) []
      -- Braces hold all of a table, so that nothing is added to it from outside.
      | some (.table .inline _) => none
      | some (.table found inner) =>
        if dotted && !found.isImplicit then none else changeTable found inner
      | some (.list true items) =>
        match items.getLast? with
        | some (.table found inner) =>
          (changeTable found inner).map fun last => .list true (items.dropLast ++ [last])
        | _ => none
      | _ => none
    return (origin, put entries key changed)

/-- Add a value under a key that may be dotted; no key is given twice. -/
def insert (path : List String) (key : String) (value : Value) : Change :=
  changeAt true (fun origin entries =>
    -- Dotted keys add only to tables that dotted keys made.
    if (origin = .dotted) != !path.isEmpty then none
    else if (get? entries key).isSome then none
    else some (origin, entries ++ [(key, value)])) path

/-- Open the table of a header, which may have been implied before. -/
def openTable (path : List String) (key : String) : Change :=
  changeAt false (fun origin entries =>
    match get? entries key with
    | none => some (origin, entries ++ [(key, .table .header [])])
    -- A table that was only named on the way is given its header once; a second header is a fault.
    | some (.table .implied inner) => some (origin, put entries key (.table .header inner))
    | some _ => none) path

/-- Add a table to the list of a header. -/
def openListItem (path : List String) (key : String) : Change :=
  changeAt false (fun origin entries =>
    match get? entries key with
    | none => some (origin, entries ++ [(key, .list true [.table .header []])])
    | some (.list true items) =>
      some (origin, put entries key (.list true (items ++ [.table .header []])))
    | some _ => none) path

end Entries

end LiveBoard.Toml
