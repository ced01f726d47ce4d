import LiveBoard.Board.Entity

/-! Partial records: what a patch names is overwritten, what it does not name is kept. -/

namespace LiveBoard

/-- A partial record as it came over the wire; null clears a field. -/
abbrev Patch := Members

namespace Patch

/-- The identifier of a patch, if it carries one that is a text. -/
def id? (patch : Patch) : Option String :=
  (patch.get? "id").bind Json.text?

/-- A new record of what a patch names, with defaults for the rest. -/
def build {ε : Type} (schema : Schema ε) (patch : Patch) : Except Fault ε :=
  schema.decode (.object patch)

/-- The members of a record with those of a patch laid over them. -/
def onto {ε : Type} (schema : Schema ε) (record : ε) (patch : Patch) : Members :=
  (Members.ofList (schema.members record)).overlay patch

/-- A record changed by a patch. -/
def apply {ε : Type} (schema : Schema ε) (record : ε) (patch : Patch) : Except Fault ε :=
  -- The record is read again as a whole, so a patch is checked field by field like any record.
  schema.decode (.object (onto schema record patch))

end Patch

end LiveBoard
