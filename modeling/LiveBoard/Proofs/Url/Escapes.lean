import LiveBoard.Proofs.Text.Utf8
import LiveBoard.Url.Percent
import Mathlib.Data.List.Infix

/-!
What is written of a segment is decoded to its bytes again, but for escapes that stood in it.

Characters that must not stand as themselves come back byte for byte. The percent sign is not one of
them, so one that had two digits behind it comes back with them as a single byte.
-/

namespace LiveBoard.Url

/-- The bytes of characters. -/
def bytes (chars : List Char) : List UInt8 := chars.flatMap charBytes

/-- A character in a path, written out if it must not stand as itself. -/
def written (chars : List Char) : List Char := percentEncode encodesInPath chars

/-- Whether characters start with a percent sign and two digits. -/
def startsEscape : List Char → Bool
  | '%' :: a :: b :: _ => (hexValue? a).isSome && (hexValue? b).isSome
  | _ => false

/-- Whether a percent sign and two digits stand anywhere among characters. -/
def hasEscape (chars : List Char) : Bool := chars.tails.any startsEscape

section Bytes

/-- The bytes of one character are those that the library encodes it as. -/
theorem charBytes_eq (c : Char) : charBytes c = String.utf8EncodeChar c := by
  -- A text of one character is encoded as that character is.
  rw [charBytes, Text.toUtf8_eq_flatMap]
  simp

/-- The bytes of a text are those of its characters. -/
theorem bytes_toList (text : String) : bytes text.toList = Text.toUtf8 text := by
  -- Neither side knows of texts any more once both encode one character after the other.
  rw [bytes, Text.toUtf8_eq_flatMap, funext charBytes_eq]

/-- The bytes of characters follow each other. -/
theorem bytes_cons (c : Char) (chars : List Char) :
    bytes (c :: chars) = charBytes c ++ bytes chars :=
  List.flatMap_cons

/-- The bytes of characters in two parts are those of both. -/
theorem bytes_append (chars others : List Char) :
    bytes (chars ++ others) = bytes chars ++ bytes others :=
  List.flatMap_append

/-- Characters of the same bytes are the same. -/
theorem bytes_inj {chars others : List Char} (same : bytes chars = bytes others) :
    chars = others := by
  -- Texts are given by their bytes, so the characters are made into texts first.
  rw [← String.toList_ofList (l := chars), ← String.toList_ofList (l := others), bytes_toList,
    bytes_toList] at same
  exact String.ofList_injective (Text.toUtf8_inj same)

/-- A character has a byte. -/
theorem charBytes_ne_nil (c : Char) : charBytes c ≠ [] := by
  rw [charBytes_eq]
  simp

/-- A character of its own takes at least one byte. -/
theorem length_charBytes_pos (c : Char) : 0 < (charBytes c).length :=
  List.length_pos_iff.mpr (charBytes_ne_nil c)

/-- Fewer characters have fewer bytes, so those that have as many are all of them. -/
theorem eq_of_length_bytes {chars others : List Char} (part : chars.Sublist others)
    (full : (bytes others).length ≤ (bytes chars).length) : chars = others := by
  -- What is left out of characters takes no bytes, so a part never has more of them.
  have fewer : ∀ {chars others : List Char}, chars.Sublist others →
      (bytes chars).length ≤ (bytes others).length := by
    intro chars others part
    induction part with
    | slnil => exact Nat.le_refl _
    | cons c part ih => simpa [bytes_cons] using Nat.le_trans ih (Nat.le_add_left _ _)
    | cons_cons c part ih => simpa [bytes_cons] using ih
  induction part with
  | slnil => rfl
  | cons c part ih =>
    -- A character that is left out takes a byte at least, and then there are too few.
    have less := fewer part
    have one := length_charBytes_pos c
    rw [bytes_cons, List.length_append] at full
    omega
  | cons_cons c part ih => rw [ih (by simpa [bytes_cons] using full)]

end Bytes

section Digits

/-- A digit is read as the value that it was written for. -/
theorem hexValue?_hexCapital {value : Nat} (small : value < 16) :
    hexValue? (hexCapital value) = some value := by
  -- There are sixteen digits, which are looked at one by one.
  have each : ∀ value : Fin 16, hexValue? (hexCapital value) = some value.val := by decide
  exact each ⟨value, small⟩

/-- A byte that was written out is read as itself. -/
theorem percentDecode_percentByte (byte : UInt8) (rest : List Char) :
    percentDecode (percentByte byte ++ rest) = byte :: percentDecode rest := by
  have small := byte.toNat_lt
  -- Both halves of a byte are small enough for one digit, and together they are the byte.
  have high : hexValue? (hexCapital (byte.toNat / 16)) = some (byte.toNat / 16) :=
    hexValue?_hexCapital (by omega)
  have low : hexValue? (hexCapital (byte.toNat % 16)) = some (byte.toNat % 16) :=
    hexValue?_hexCapital (by omega)
  simp only [percentByte, List.cons_append, List.nil_append, percentDecode, high, low]
  rw [Nat.div_add_mod, UInt8.ofNat_toNat]

/-- Bytes that were written out are read as themselves. -/
theorem percentDecode_flatMap (all : List UInt8) (rest : List Char) :
    percentDecode (all.flatMap percentByte ++ rest) = all ++ percentDecode rest := by
  -- Bytes are written out and read one at a time, so that nothing of one reaches into the next.
  induction all with
  | nil => rfl
  | cons byte all ih =>
    rw [List.flatMap_cons, List.append_assoc, percentDecode_percentByte, ih, List.cons_append]

/-- A hexadecimal digit is one of three runs of characters. -/
theorem toNat_of_hexValue? {c : Char} (digit : (hexValue? c).isSome) :
    48 ≤ c.toNat ∧ c.toNat ≤ 57 ∨ 65 ≤ c.toNat ∧ c.toNat ≤ 70 ∨ 97 ≤ c.toNat ∧ c.toNat ≤ 102 := by
  unfold hexValue? at digit
  -- The value is looked up in the order decimal, small, capital, and each test is a range.
  simp only [Char.isDigit, Char.le_def, UInt32.le_iff_toNat_le, Bool.and_eq_true,
    decide_eq_true_eq] at digit
  split at digit
  · rename_i decimal
    exact .inl decimal
  · split at digit
    · rename_i small
      exact .inr (.inr small)
    · split at digit
      · rename_i capital
        exact .inr (.inl capital)
      · cases digit

/-- A digit stands in a path as itself. -/
theorem encodesInPath_of_hexValue? {c : Char} (digit : (hexValue? c).isSome) :
    encodesInPath c = false := by
  -- All characters that are written out lie outside of the three runs of digits.
  have range := toNat_of_hexValue? digit
  simp only [encodesInPath, encodesInFragment, isControlOrWide, ← Char.toNat_inj,
    Char.reduceToNat, Bool.or_eq_false_iff, decide_eq_false_iff_not]
  omega

/-- A percent sign is no digit. -/
theorem hexValue?_percent : hexValue? '%' = none := by decide

end Digits

section Decoding

/-- A character that starts no escape is read as itself. -/
theorem percentDecode_cons {c : Char} {rest : List Char} (free : startsEscape (c :: rest) = false) :
    percentDecode (c :: rest) = charBytes c ++ percentDecode rest := by
  rw [percentDecode.eq_def]
  -- The branches are those of the decoder: nothing left, a percent sign with two behind it, others.
  split
  · rename_i nothing
    cases nothing
  · rename_i a b others same
    obtain ⟨rfl, rfl⟩ := List.cons.inj same
    split
    · -- Two digits behind a percent sign would be an escape.
      rename_i high low first second
      simp [startsEscape, first, second] at free
    · rfl
  · -- Any other character is decoded by itself from the start.
    rename_i other others different same
    obtain ⟨rfl, rfl⟩ := List.cons.inj same
    rfl

/-- Characters are written one after the other. -/
theorem written_cons (c : Char) (chars : List Char) :
    written (c :: chars) =
      (if encodesInPath c then (charBytes c).flatMap percentByte else [c]) ++ written chars := by
  rw [written, percentEncode, List.flatMap_cons]
  rfl

/-- A character that stands as itself is written in front of the others. -/
theorem written_plain {c : Char} (plain : encodesInPath c = false) (chars : List Char) :
    written (c :: chars) = c :: written chars := by
  simp [written_cons, plain]

/-- A character that does not stand as itself is written with a percent sign in front. -/
theorem exists_written {c : Char} (encoded : encodesInPath c) (chars : List Char) :
    ∃ rest, written (c :: chars) = '%' :: rest := by
  rw [written_cons, if_pos encoded]
  -- The first byte of a character is written first, and every character has one.
  cases held : charBytes c with
  | nil => exact absurd held (charBytes_ne_nil c)
  | cons byte others => exact ⟨_, rfl⟩

/-- A character that does not stand as itself is no digit. -/
theorem hexValue?_of_encodesInPath {c : Char} (encoded : encodesInPath c) : hexValue? c = none := by
  cases digit : hexValue? c with
  | none => rfl
  | some value =>
    -- A digit would stand as itself.
    have plain := encodesInPath_of_hexValue? (Option.isSome_of_eq_some digit)
    cases encoded.symm.trans plain

/-- In what is written, a percent sign starts an escape only where it did before. -/
theorem startsEscape_written (chars : List Char) :
    startsEscape ('%' :: written chars) = startsEscape ('%' :: chars) := by
  -- The two characters behind the sign are written as themselves if they are digits.
  cases chars with
  | nil => rfl
  | cons a chars =>
    by_cases first : encodesInPath a
    · obtain ⟨rest, shown⟩ := exists_written first chars
      -- A character that is written out puts another percent sign there, which is no digit.
      rw [shown]
      have digit := hexValue?_of_encodesInPath first
      cases rest <;> cases chars <;> simp [startsEscape, hexValue?_percent, digit]
    · rw [written_plain (by simpa using first)]
      cases chars with
      | nil => rfl
      | cons b chars =>
        by_cases second : encodesInPath b
        · -- The same holds of the second place.
          obtain ⟨rest, shown⟩ := exists_written second chars
          simp [shown, startsEscape, hexValue?_percent, hexValue?_of_encodesInPath second]
        · rw [written_plain (by simpa using second)]
          rfl

/-- A character that starts no escape is written and read as its own bytes. -/
theorem percentDecode_written_cons {c : Char} {chars : List Char}
    (free : startsEscape (c :: chars) = false) :
    percentDecode (written (c :: chars)) = charBytes c ++ percentDecode (written chars) := by
  rw [written_cons]
  split
  · -- A character that is written out comes back byte by byte, whatever follows it.
    exact percentDecode_flatMap (charBytes c) (written chars)
  · -- One that stands as itself must not come to start an escape by what is written behind it.
    refine percentDecode_cons ?_
    by_cases percent : c = '%'
    · subst percent
      exact (startsEscape_written chars).trans free
    · simp [startsEscape, percent]

/-- An escape stands at the start of characters or behind the first one. -/
theorem hasEscape_cons (c : Char) (chars : List Char) :
    hasEscape (c :: chars) = (startsEscape (c :: chars) || hasEscape chars) := rfl

/-- What is written of characters without an escape is read as their bytes. -/
theorem percentDecode_written {chars : List Char} (free : hasEscape chars = false) :
    percentDecode (written chars) = bytes chars := by
  induction chars with
  | nil => rfl
  | cons c chars ih =>
    -- Neither the first character starts an escape nor any one behind it.
    obtain ⟨first, others⟩ := Bool.or_eq_false_iff.mp ((hasEscape_cons c chars).symm.trans free)
    rw [percentDecode_written_cons first, ih others]
    rfl

/-- What is written of characters is read as no more bytes, and as less if there is an escape. -/
theorem length_percentDecode_written (chars : List Char) :
    (percentDecode (written chars)).length + (if hasEscape chars then 1 else 0) ≤
      (bytes chars).length := by
  -- Where no escape starts, as many bytes are read as the character has.
  have passed : ∀ {c : Char} {rest : List Char}, startsEscape (c :: rest) = false →
      (percentDecode (written rest)).length + (if hasEscape rest then 1 else 0) ≤
        (bytes rest).length →
      (percentDecode (written (c :: rest))).length + (if hasEscape (c :: rest) then 1 else 0) ≤
        (bytes (c :: rest)).length := by
    intro c rest free ih
    rw [percentDecode_written_cons free, hasEscape_cons, free, Bool.false_or]
    simp only [bytes_cons, List.length_append] at ih ⊢
    omega
  -- Each escape is passed over as a whole, and all else one character at a time.
  induction chars using percentDecode.induct with
  | case1 => rfl
  | case2 a b rest high low second first ih =>
    -- An escape is written as it stands, and is read as one byte where there were three or more.
    have digits : written ('%' :: a :: b :: rest) = '%' :: a :: b :: written rest := by
      rw [written_plain (by decide),
        written_plain (encodesInPath_of_hexValue? (Option.isSome_of_eq_some first)),
        written_plain (encodesInPath_of_hexValue? (Option.isSome_of_eq_some second))]
    have one : percentDecode ('%' :: a :: b :: written rest) =
        UInt8.ofNat (16 * high + low) :: percentDecode (written rest) := by
      simp [percentDecode, first, second]
    have fewer := length_charBytes_pos a
    have percent := length_charBytes_pos '%'
    rw [digits, one]
    simp only [bytes_cons, List.length_append, List.length_cons] at ih ⊢
    split <;> omega
  | case3 a b rest plain ih =>
    have free : startsEscape ('%' :: a :: b :: rest) = false := by
      -- A percent sign with something else than two digits behind it starts no escape.
      cases first : hexValue? a with
      | none => simp [startsEscape, first]
      | some high =>
        cases second : hexValue? b with
        | none => simp [startsEscape, second]
        | some low => exact (plain high low first second).elim
    exact passed free ih
  | case4 c rest short ih =>
    have free : startsEscape (c :: rest) = false := by
      -- Neither does a character that is no percent sign, or has too few behind it.
      unfold startsEscape
      split
      · rename_i a b others same
        obtain ⟨percent, behind⟩ := List.cons.inj same
        exact (short a b others percent behind).elim
      · rfl
    exact passed free ih

end Decoding

end LiveBoard.Url
