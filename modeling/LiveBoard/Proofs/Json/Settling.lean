import LiveBoard.Json.Codec
import LiveBoard.Proofs.Instant.RoundTrip

/-! What becomes of a value that is written as JSON and read again. -/

namespace LiveBoard.Codec

section General

variable {α : Type} {codec : Codec α} {value : α}

/-- A value is read again as it was written. -/
def Keeps (codec : Codec α) (value : α) : Prop :=
  codec.decode? (codec.encode value) = some value

/-- A value is read again as one that is read again as it was written. -/
def Settles (codec : Codec α) (value : α) : Prop :=
  ∃ settled, codec.decode? (codec.encode value) = some settled ∧ codec.Keeps settled

/-- What a value becomes when it is written and read again. -/
def settle (codec : Codec α) (value : α) : α :=
  (codec.decode? (codec.encode value)).getD value

/-- A value that is kept settles. -/
theorem Keeps.settles (keeps : codec.Keeps value) : codec.Settles value := ⟨value, keeps, keeps⟩

/-- A value that is kept is settled. -/
theorem Keeps.settle_eq (keeps : codec.Keeps value) : codec.settle value = value := by
  rw [settle, keeps]
  rfl

/-- A value that settles is read again as what it settles to. -/
theorem Settles.decode?_encode (settles : codec.Settles value) :
    codec.decode? (codec.encode value) = some (codec.settle value) := by
  obtain ⟨settled, read, _⟩ := settles
  rw [settle, read]
  rfl

/-- A value settles to one that is kept. -/
theorem Settles.keeps (settles : codec.Settles value) : codec.Keeps (codec.settle value) := by
  obtain ⟨settled, read, keeps⟩ := settles
  rw [settle, read]
  exact keeps

end General

/-! ## Each kind of field -/

/-- Texts are kept. -/
theorem text_keeps (value : String) : text.Keeps value := rfl

/-- Truth values are kept. -/
theorem flag_keeps (value : Bool) : flag.Keeps value := rfl

/-- Counts are kept. -/
theorem count_keeps (value : UInt32) : count.Keeps value := by
  -- A count of 32 bits is within the range that a count is read from.
  have small : (value.toNat : Int) ≤ Shape.maxCount := by
    have := value.toNat_lt
    simp only [Shape.maxCount]
    omega
  simp [Keeps, count, Json.ofNat, small]

/-- Objects are kept. -/
theorem map_keeps (value : Members) : map.Keeps value := rfl

/-- Names of a choice are kept when they tell its members apart. -/
theorem choice_keeps {α : Type} {all : List α} {name : α → String} {value : α}
    (found : all.find? (name · = name value) = some value) : (choice all name).Keeps value := found

/-- An instant of a year of four digits is kept. -/
theorem instant_keeps {value : Instant} (era : value.InEra) : instant.Keeps value := by
  -- It is written as a text, which is read as that instant.
  simp only [Keeps, instant, Json.text?, Option.bind_some]
  exact Instant.parse?_render era

/-- An instant that may be absent is kept when it is one of a year of four digits. -/
theorem lenientInstant_keeps {value : Option Instant} (era : ∀ instant ∈ value, instant.InEra) :
    lenientInstant.Keeps value := by
  cases value with
  | none => rfl
  | some instant =>
    -- What is written is an instant, so it is not read as absent.
    simp only [Keeps, lenientInstant, Option.elim_some]
    rw [Instant.parse?_render (era instant rfl)]

section Null

variable {α : Type} {codec : Codec α}

/-- What is not null is read as the value that may be absent. -/
theorem optional_decode? {value : Json} (filled : value ≠ .null) :
    codec.optional.decode? value = (codec.decode? value).map some := by
  cases value with
  | null => contradiction
  | _ => rfl

/-- What is not null is read as the value that has a default. -/
theorem orDefault_decode? {default : α} {value : Json} (filled : value ≠ .null) :
    (codec.orDefault default).decode? value = codec.decode? value := by
  cases value with
  | null => contradiction
  | _ => rfl

/-- A field that may be absent is kept when no value of it is written as null. -/
theorem optional_keeps {value : Option α}
    (keeps : ∀ held ∈ value, codec.Keeps held ∧ codec.encode held ≠ .null) :
    codec.optional.Keeps value := by
  cases value with
  | none => rfl
  | some held =>
    -- Null is read as absent, so a value that is written as null would be lost.
    obtain ⟨same, filled⟩ := keeps held rfl
    exact (optional_decode? filled).trans (congrArg (Option.map some) same)

/-- A field with a default is kept when its value is not written as null. -/
theorem orDefault_keeps {default value : α} (keeps : codec.Keeps value)
    (filled : codec.encode value ≠ .null) : (codec.orDefault default).Keeps value :=
  (orDefault_decode? filled).trans keeps

end Null

/-- A kind of field of which every value is kept, none being written as null. -/
def Exact {α : Type} (codec : Codec α) : Prop :=
  ∀ value, codec.Keeps value ∧ codec.encode value ≠ .null

section Exact

variable {α : Type} {codec : Codec α}

/-- Values that may be absent are kept when those that are there are. -/
theorem Exact.optional_keeps (exact : codec.Exact) (value : Option α) :
    codec.optional.Keeps value :=
  Codec.optional_keeps fun held _ => exact held

/-- Values with a default are kept when they are without one. -/
theorem Exact.orDefault_keeps (exact : codec.Exact) (default value : α) :
    (codec.orDefault default).Keeps value :=
  Codec.orDefault_keeps (exact value).1 (exact value).2

end Exact

/-- Texts are exact. -/
theorem text_exact : text.Exact := fun value => ⟨text_keeps value, by simp [text]⟩

/-- Objects are exact. -/
theorem map_exact : map.Exact := fun value => ⟨map_keeps value, by simp [map]⟩

/-- Truth values are exact. -/
theorem flag_exact : flag.Exact := fun value => ⟨flag_keeps value, by simp [flag]⟩

/-- Counts are exact. -/
theorem count_exact : count.Exact := fun value => ⟨count_keeps value, by simp [count, Json.ofNat]⟩

/-- A choice is exact when its names tell its members apart. -/
theorem choice_exact {α : Type} {all : List α} {name : α → String}
    (found : ∀ value, all.find? (name · = name value) = some value) : (choice all name).Exact :=
  fun value => ⟨choice_keeps (found value), by simp [choice]⟩

/-- A finite number is kept. -/
theorem real_keeps {value : Binary64} (finite : value.isFinite) :
    (real.orDefault .zero).Keeps value :=
  orDefault_keeps (by simp [Keeps, real, finite]) (by simp [real, finite])

/-- A number settles to zero when it is not finite. -/
theorem real_settles (value : Binary64) : (real.orDefault .zero).Settles value := by
  cases finite : value.isFinite with
  | true => exact (real_keeps finite).settles
  -- What is not finite is written as null, which is read as the default.
  | false => exact ⟨.zero, by simp [orDefault, real, finite], real_keeps (by decide)⟩

end LiveBoard.Codec
