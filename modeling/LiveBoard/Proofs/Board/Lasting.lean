import LiveBoard.Proofs.Board.Kinds
import LiveBoard.Proofs.Instant.Outside
import LiveBoard.Proofs.Json.Finite

/-!
What a record keeps once it was read, field by field.

A field may lose what it holds when it is written and read again, but it loses nothing the next
time. What it reads from JSON it keeps, unless that is a timestamp outside the years of four digits.
-/

namespace LiveBoard

namespace Codec

/-- A kind of field of which all that is read of a written value is kept. -/
def Steady {α : Type} (codec : Codec α) : Prop :=
  ∀ value read, codec.decode? (codec.encode value) = some read → codec.Keeps read

/-- A kind of field is steady when all its values settle. -/
theorem steady_of_settles {α : Type} {codec : Codec α} (settles : ∀ value, codec.Settles value) :
    codec.Steady := by
  intro value read reread
  -- What is read again is what the value settles to.
  obtain ⟨settled, written, keeps⟩ := settles value
  obtain rfl := Option.some.inj (written.symm.trans reread)
  exact keeps

/-- An instant that may be absent settles: it is lost when its year has not four digits. -/
theorem lenientInstant_settles (value : Option Instant) : lenientInstant.Settles value := by
  -- Within the years of four digits nothing is lost, and outside of them all is lost at once.
  by_cases era : ∀ instant ∈ value, instant.InEra
  · exact (lenientInstant_keeps era).settles
  · -- An instant outside these years is written with a sign, which is read as its absence.
    obtain ⟨instant, rfl, outside⟩ : ∃ instant, value = some instant ∧ ¬ instant.InEra := by
      simpa using era
    refine ⟨none, ?_, rfl⟩
    simp only [lenientInstant, Option.elim_some, Instant.parse?_render_eq_none outside]

/-- An instant that was read again is one that is kept. -/
theorem instant_steady : instant.Steady := by
  intro value read reread
  simp only [instant, Json.text?, Option.bind_some] at reread
  -- Nothing is read from what is written of an instant outside the years of four digits.
  have era : value.InEra := by
    by_contra outside
    simp [Instant.parse?_render_eq_none outside] at reread
  rw [Instant.parse?_render era] at reread
  obtain rfl := Option.some.inj reread
  exact instant_keeps era

end Codec

/-- A field that keeps what it has read, from a value that was written or from one of a patch. -/
structure Field.Lasting {ε : Type} (field : Field ε) (kind : PatchedKind) : Prop where
  steady : field.codec.Steady
  keeps : ∀ {value decoded}, value.isFinite → (field.key ∈ kind.timestamps → value.InEra) →
    field.codec.decode? value = some decoded → field.codec.Keeps decoded

section Lasting

variable {ε α : Type} {kind : PatchedKind} {key : String} {required : Bool}

/-- A field that keeps every value lasts. -/
theorem Field.lasting_of_keeps {codec : Codec α} {get : ε → α} {set : α → ε → ε}
    (keeps : ∀ value, codec.Keeps value) : (Field.mk key required codec get set).Lasting kind where
  steady := Codec.steady_of_settles fun value => (keeps value).settles
  keeps _ _ _ := keeps _

/-- A number lasts, as the numbers of JSON are finite. -/
theorem Field.lasting_real {get : ε → Binary64} {set : Binary64 → ε → ε} :
    (Field.mk key required (.orDefault .real .zero) get set).Lasting kind where
  steady := Codec.steady_of_settles Codec.real_settles
  -- Only a number that is not finite would be written as null.
  keeps finite _ read := Codec.real_keeps (Codec.isFinite_of_real finite read)

/-- An instant that every record gives lasts. -/
theorem Field.lasting_instant {get : ε → Instant} {set : Instant → ε → ε}
    (listed : key ∈ kind.timestamps) : (Field.mk key required .instant get set).Lasting kind where
  steady := Codec.instant_steady
  -- The key is listed as one of a timestamp, so what was read lies in a year of four digits.
  keeps _ era read := Codec.instant_keeps (era listed _ read)

/-- An instant that may be absent lasts. -/
theorem Field.lasting_lenientInstant {get : ε → Option Instant} {set : Option Instant → ε → ε}
    (listed : key ∈ kind.timestamps) :
    (Field.mk key required .lenientInstant get set).Lasting kind where
  steady := Codec.steady_of_settles Codec.lenientInstant_settles
  keeps _ era read := Codec.lenientInstant_keeps_of_read (era listed) read

end Lasting

open Codec LiveBoard.Field

/-- The fields of a task last. -/
theorem Task.lasting : ∀ field ∈ Task.schema.fields, field.Lasting .task := by
  -- Each field is named in the order of the schema, and the timestamps are listed afterwards.
  simp only [Task.schema, List.forall_mem_cons]
  refine ⟨lasting_of_keeps text_keeps, lasting_of_keeps text_exact.optional_keeps,
    lasting_of_keeps text_keeps, lasting_of_keeps text_exact.optional_keeps,
    lasting_of_keeps (taskStatus_exact.orDefault_keeps _),
    lasting_of_keeps (taskPriority_exact.orDefault_keeps _), lasting_lenientInstant ?_,
    lasting_of_keeps text_exact.optional_keeps, lasting_of_keeps text_exact.optional_keeps,
    lasting_lenientInstant ?_, lasting_lenientInstant ?_, lasting_lenientInstant ?_,
    lasting_of_keeps text_exact.optional_keeps, lasting_of_keeps (count_exact.orDefault_keeps _),
    lasting_of_keeps (count_exact.orDefault_keeps _), List.forall_mem_nil _⟩
  all_goals simp [PatchedKind.timestamps]

/-- The fields of an approval last. -/
theorem Approval.lasting : ∀ field ∈ Approval.schema.fields, field.Lasting .approval := by
  simp only [Approval.schema, List.forall_mem_cons]
  refine ⟨lasting_of_keeps text_keeps, lasting_of_keeps text_exact.optional_keeps,
    lasting_of_keeps text_exact.optional_keeps, lasting_of_keeps text_exact.optional_keeps,
    lasting_of_keeps text_keeps, lasting_of_keeps (approvalStatus_exact.orDefault_keeps _),
    lasting_real, lasting_of_keeps map_exact.optional_keeps,
    lasting_of_keeps map_exact.optional_keeps, lasting_instant ?_, lasting_lenientInstant ?_,
    List.forall_mem_nil _⟩
  all_goals simp [PatchedKind.timestamps]

/-- The fields of an agent last. -/
theorem Agent.lasting : ∀ field ∈ Agent.schema.fields, field.Lasting .agent := by
  simp only [Agent.schema, List.forall_mem_cons]
  refine ⟨lasting_of_keeps text_keeps, lasting_of_keeps text_keeps,
    lasting_of_keeps (agentStatus_exact.orDefault_keeps _),
    lasting_of_keeps text_exact.optional_keeps, lasting_of_keeps (flag_exact.orDefault_keeps _),
    lasting_of_keeps (flag_exact.orDefault_keeps _), lasting_of_keeps map_exact.optional_keeps,
    lasting_lenientInstant ?_, lasting_lenientInstant ?_, lasting_lenientInstant ?_,
    List.forall_mem_nil _⟩
  all_goals simp [PatchedKind.timestamps]

/-- The kinds of record that patches change, each with its schema. -/
inductive PatchedKind.Describes : PatchedKind → {ε : Type} → Schema ε → Prop where
  | task : Describes .task Task.schema
  | approval : Describes .approval Approval.schema
  | agent : Describes .agent Agent.schema

section Describes

variable {ε : Type} {kind : PatchedKind} {schema : Schema ε}

/-- The fields of a kind of record that patches change are independent of each other. -/
theorem PatchedKind.Describes.lawful (describes : kind.Describes schema) : schema.Lawful := by
  cases describes with
  | task => exact Task.schema_lawful
  | approval => exact Approval.schema_lawful
  | agent => exact Agent.schema_lawful

/-- The fields of a kind of record that patches change last. -/
theorem PatchedKind.Describes.lasting (describes : kind.Describes schema) :
    ∀ field ∈ schema.fields, field.Lasting kind := by
  cases describes with
  | task => exact Task.lasting
  | approval => exact Approval.lasting
  | agent => exact Agent.lasting

end Describes

end LiveBoard
