import LiveBoard.Json.Reader
import LiveBoard.Json.Record

/-! Values read straight from JSON text. -/

namespace LiveBoard.Codec

/-- The value that a text holds, or the first fault of the text. -/
def parse {α : Type} (codec : Codec α) (text : String) : Except ReadFault α := do
  let value ← Json.read codec.shape text
  match codec.decode? value with
  | some decoded => return decoded
  -- What was read against a shape has it, so this is the fault of no text.
  | none => throw (.value ((codec.shape.fault value).getD default) ⟨0, 0⟩)

end LiveBoard.Codec
