import LiveBoard.Settings.Basic
import LiveBoard.Toml.Printer
import LiveBoard.Toml.Reader

/-! Settings as a TOML document. -/

namespace LiveBoard

namespace Toml

/-- The numbers that an integer of a document can be, as one of 64 bits with or without a sign. -/
def fitsWord (value : Int) : Bool := -(Nat.pow 2 63 : Int) ≤ value && value < Nat.pow 2 64

mutual

/-- Whether all numbers in a value are in range; what is not asked for must be so too. -/
def Value.isSound : Value → Bool
  | .integer value => fitsWord value
  | .real value => value.isSome
  | .list _ items => areSound items
  | .table _ entries => entriesAreSound entries
  | .text _ | .flag _ | .moment => true

/-- Whether all numbers in some values are in range. -/
def areSound : List Value → Bool
  | [] => true
  | item :: rest => item.isSound && areSound rest

/-- Whether all numbers in some entries are in range. -/
def entriesAreSound : List (String × Value) → Bool
  | [] => true
  | (_, value) :: rest => value.isSound && entriesAreSound rest

end

/-- The text of a value that is one. -/
def Value.text? : Value → Option String
  | .text content => some content
  | _ => none

/-- The count of a value that is one. -/
def Value.count? : Value → Option UInt64
  | .integer value => if 0 ≤ value && value < Nat.pow 2 64 then some (.ofNat value.toNat) else none
  | _ => none

end Toml

namespace Settings

open Toml (Value)

/-- What a value changes in the settings, if it can stand where it does. -/
abbrev Setter := Value → Settings → Option Settings

/-- A value that is a text. -/
def textSetter (put : String → Settings → Settings) : Setter := fun value settings =>
  value.text?.map fun text => put text settings

/-- A value that is a count. -/
def countSetter (put : UInt64 → Settings → Settings) : Setter := fun value settings =>
  value.count?.map fun count => put count settings

/-- A value that names a form of the log, or is a table with nothing but that name in it. -/
def formatSetter : Setter := fun value settings => do
  let name ←
    match value with
    | .text name => some name
    -- What the table holds under the name must be empty, as a form has nothing more to say.
    | .table _ [(name, .list _ [])] | .table _ [(name, .table _ [])] => some name
    | _ => none
  let format ← LogFormat.all.find? (·.name = name)
  return { settings with logFormat := format }

/--
A section: a table of some of its settings, or a list of the first of them.

Entries that are no settings are passed over, and a date is a section without settings.
-/
def sectionSetter (setters : List (String × Setter)) : Setter := fun value settings =>
  match value with
  | .table _ entries =>
    entries.foldlM (fun settings (key, value) =>
      match setters.find? (·.1 = key) with
      | some (_, setter) => setter value settings
      -- A number out of range is a fault of the document, whoever asks for it.
      | none => if value.isSound then some settings else none) settings
  | .list _ items =>
    -- Items go by their place, and those beyond the last setting are passed over.
    (setters.zip items).foldlM (fun settings ((_, setter), value) => setter value settings) settings
  | .moment => some settings
  | _ => none

/-- All settings of a document. -/
def documentSetter : Setter := sectionSetter [
  ("api", sectionSetter [
    ("url", textSetter fun text settings => { settings with apiUrl := text }),
    ("token", textSetter fun text settings => { settings with token := some text })]),
  ("stream", sectionSetter [
    ("reconnect_delay_ms", countSetter fun count settings =>
      { settings with reconnectDelay := count }),
    ("max_frame_bytes", countSetter fun count settings => { settings with frameLimit := count })]),
  ("log", sectionSetter [("format", formatSetter)])]

/-- The settings of a document, the standard ones where it is silent. -/
def parse? (text : String) : Option Settings := do
  let entries ← Toml.parse? text
  -- Each setting that is found is put over the standard one.
  documentSetter (.table .header entries) standard

/-- Settings as a document. -/
def render (settings : Settings) : String :=
  let entry (key value : String) : String := key ++ " = " ++ value ++ "\n"
  "[api]\n" ++ entry "url" (Toml.renderText settings.apiUrl) ++
    settings.token.elim "" (fun token => entry "token" (Toml.renderText token)) ++
    "\n[stream]\n" ++ entry "reconnect_delay_ms" (toString settings.reconnectDelay.toNat) ++
    entry "max_frame_bytes" (toString settings.frameLimit.toNat) ++
    "\n[log]\n" ++ entry "format" (Toml.renderText settings.logFormat.name)

/-- What is shown in place of a token. -/
def mask : String := "********"

/-- Settings as a document that gives no token away. -/
def redacted (settings : Settings) : String :=
  render { settings with token := settings.token.map fun _ => mask }

end Settings

end LiveBoard
