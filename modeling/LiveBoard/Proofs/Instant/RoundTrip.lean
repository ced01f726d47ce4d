import LiveBoard.Instant.Printer
import LiveBoard.Proofs.Instant.Stamps

/-!
An instant of a year of four digits is read again from the text that it is written as.

That text is a stamp, with the letter of universal time behind it.
-/

namespace LiveBoard.Instant

/-! ## Digits -/

section Padded

variable {width n : Nat}

/-- A number that fits a width is padded to just that width. -/
theorem length_padded (positive : 0 < width) (small : n < 10 ^ width) :
    (padded width n).length = width := by
  -- Zeros make up for what is missing, and nothing is too long.
  have short := (Nat.length_toDigits_le_iff (by decide : 1 < 10) positive).mpr small
  simp only [padded, List.length_append, List.length_replicate]
  omega

/-- A padded number is written in digits. -/
theorem isDigit_of_mem_padded {c : Char} (member : c ∈ padded width n) : c.isDigit := by
  -- A padded number is zeros with the digits of the number behind them.
  rcases List.mem_append.mp member with zero | digit
  · rw [List.eq_of_mem_replicate zero]
    rfl
  · exact Nat.isDigit_of_mem_toDigits (by decide) (by decide) digit

/-- Padding leaves the value of a number alone. -/
theorem digitsValue_padded : digitsValue (padded width n) = n := by
  -- Digits are folded as the library does, which knows what zeros in front do.
  have value : digitsValue (padded width n) = Nat.ofDigitChars 10 (padded width n) 0 :=
    Nat.ofDigitChars_eq_foldl.symm
  rw [value, padded, Nat.ofDigitChars_append, Nat.ofDigitChars_replicate_zero, Nat.mul_zero,
    Nat.ofDigitChars_ten_toDigits]

/-- The digits of a number, with zeros in front. -/
def Digits.ofNat (n : Nat) (positive : 0 < width) (small : n < 10 ^ width) : Digits width where
  chars := padded width n
  length_chars := length_padded positive small
  isDigit _ := isDigit_of_mem_padded

@[simp] theorem Digits.value_ofNat (positive : 0 < width) (small : n < 10 ^ width) :
    (Digits.ofNat n positive small).value = n :=
  digitsValue_padded

end Padded

/-! ## Fractions of a second -/

/-- The number of digits of a fraction of a second: the more zeros it ends in, the fewer. -/
def fractionWidth (nanos : Nat) : Nat :=
  if nanos = 0 then 0
  else if nanos % 1000000 = 0 then 3
  else if nanos % 1000 = 0 then 6
  else 9

/-- The digits that a fraction of a second is written in. -/
def fractionDigits (nanos : Nat) : List Char :=
  if nanos = 0 then []
  else padded (fractionWidth nanos) (nanos / 10 ^ (9 - fractionWidth nanos))

/-- The digits that are left out are zeros. -/
theorem fractionWidth_spec {nanos : Nat} (some : nanos ≠ 0) :
    (0 < fractionWidth nanos ∧ fractionWidth nanos ≤ 9) ∧
      10 ^ (9 - fractionWidth nanos) ∣ nanos := by
  unfold fractionWidth
  rw [if_neg some]
  split
  · exact ⟨by decide, Nat.dvd_of_mod_eq_zero ‹_›⟩
  · split
    · -- The tests are for whole milliseconds and then for whole microseconds.
      exact ⟨by decide, Nat.dvd_of_mod_eq_zero ‹_›⟩
    · exact ⟨by decide, Nat.one_dvd _⟩

/-- The digits that are not left out have room for what they write. -/
theorem div_lt_of_width {nanos width : Nat} (small : nanos < billion) (short : width ≤ 9) :
    nanos / 10 ^ (9 - width) < 10 ^ width := by
  refine Nat.div_lt_of_lt_mul ?_
  -- Nine digits in all make up the billion.
  rw [← Nat.pow_add, Nat.sub_add_cancel short]
  exact small

/-- A fraction of a second is written in its digits. -/
theorem renderFraction_eq (nanos : Nat) :
    renderFraction nanos = fractionChars (fractionDigits nanos) := by
  -- Padding never comes out empty, so there is a point just where there are digits.
  have some (width n : Nat) : padded width n ≠ [] := by simp [padded, Nat.toDigits_ne_nil]
  unfold renderFraction fractionDigits fractionWidth fractionChars
  split
  · rfl
  · split
    · simp [some]
    · split <;> simp [some]

/-- A fraction of a second is written in digits only. -/
theorem isDigit_of_mem_fractionDigits {nanos : Nat} {c : Char}
    (member : c ∈ fractionDigits nanos) : c.isDigit := by
  unfold fractionDigits at member
  split at member
  · cases member
  · exact isDigit_of_mem_padded member

/-- Padded digits count as many nanoseconds as the ones that are left out make of them. -/
theorem nanosOfDigits_padded {width n : Nat} (positive : 0 < width) (small : n < 10 ^ width)
    (short : width ≤ 9) : nanosOfDigits (padded width n) = n * 10 ^ (9 - width) := by
  have length := length_padded positive small
  -- Nothing past the ninth digit is dropped, as there is none.
  have whole : (padded width n).take 9 = padded width n := List.take_of_length_le (by omega)
  simp [nanosOfDigits, whole, digitsValue_padded, length]

/-- The fraction of a second is that of its digits, whatever the number of them. -/
theorem nanosOfDigits_fractionDigits {nanos : Nat} (small : nanos < billion) :
    nanosOfDigits (fractionDigits nanos) = nanos := by
  unfold fractionDigits
  split
  · rename_i zero
    rw [zero]
    rfl
  · rename_i some
    obtain ⟨⟨positive, short⟩, whole⟩ := fractionWidth_spec some
    -- The zeros that are left out come back with the power of ten.
    rw [nanosOfDigits_padded positive (div_lt_of_width small short) short]
    exact Nat.div_mul_cancel whole

/-! ## Instants -/

/-- An instant of a year that four digits hold. -/
def InEra (instant : Instant) : Prop :=
  0 ≤ (CivilTime.ofInstant instant).date.year ∧ (CivilTime.ofInstant instant).date.year ≤ 9999

instance (instant : Instant) : Decidable instant.InEra := inferInstanceAs (Decidable (_ ∧ _))

/-- A valid civil time of a year of four digits is written as a stamp that says it. -/
theorem exists_stamp {civil : CivilTime} (valid : civil.isValid) (low : 0 ≤ civil.date.year)
    (high : civil.date.year ≤ 9999) :
    ∃ stamp : Stamp, renderCivil civil = stamp.chars ++ ['Z'] ∧ stamp.civil = civil ∧
      stamp.fraction = fractionDigits civil.clock.nanos := by
  obtain ⟨⟨year, month, day⟩, ⟨hour, minute, second, nanos⟩⟩ := civil
  dsimp only at low high
  simp only [CivilTime.isValid, Date.isValid, Clock.isValid, Bool.and_eq_true,
    decide_eq_true_eq] at valid
  -- A valid time keeps each field within its digits.
  obtain ⟨⟨⟨⟨_, monthHigh⟩, _⟩, dayHigh⟩, ⟨⟨hourHigh, minuteHigh⟩, secondHigh⟩, small⟩ := valid
  have short := Date.daysInMonth_le year month
  refine ⟨⟨.ofNat year.toNat (by decide) (by omega), .ofNat month (by decide) (by omega),
    .ofNat day (by decide) (by omega), .ofNat hour (by decide) (by omega),
    .ofNat minute (by decide) (by omega), .ofNat second (by decide) (by omega),
    fractionDigits nanos, fun _ => isDigit_of_mem_fractionDigits⟩, ?_, ?_, rfl⟩
  · simp [renderCivil, renderYear, low, high, renderFraction_eq, Stamp.chars, Digits.ofNat]
  · simp [Stamp.civil, nanosOfDigits_fractionDigits small, Int.toNat_of_nonneg low]

/-- The date of an instant of a year of four digits is valid, and so is its time of day. -/
theorem InEra.isValid_ofInstant {instant : Instant} (era : instant.InEra) :
    (CivilTime.ofInstant instant).isValid := by
  -- A year of four digits is well within those of the calendar.
  have date : (Date.ofDays (instant.seconds / 86400)).isValid :=
    Date.isValid_ofDays (Int.le_trans (by decide) era.1) (Int.le_trans era.2 (by decide))
  simp only [CivilTime.isValid, Bool.and_eq_true]
  exact ⟨date, CivilTime.clock_isValid_ofInstant instant⟩

/-- An instant of a year of four digits is written as a stamp that says its civil time. -/
theorem InEra.exists_stamp {instant : Instant} (era : instant.InEra) :
    ∃ stamp : Stamp, instant.render = stamp.text ++ "Z" ∧
      stamp.civil = CivilTime.ofInstant instant ∧
      stamp.fraction = fractionDigits (CivilTime.ofInstant instant).clock.nanos := by
  obtain ⟨stamp, chars, civil, fraction⟩ := Instant.exists_stamp era.isValid_ofInstant era.1 era.2
  refine ⟨stamp, ?_, civil, fraction⟩
  rw [render, chars, String.ofList_append]
  rfl

/-- An instant of a year of four digits is read again. -/
theorem parse?_render {instant : Instant} (era : instant.InEra) :
    parse? instant.render = some instant := by
  obtain ⟨stamp, text, civil, -⟩ := era.exists_stamp
  -- The letter makes no difference to the stamp, which says the time of the instant.
  rw [text, stamp.parse?_letter, stamp.parse?_text_eq_some_iff, civil]
  exact ⟨era.isValid_ofInstant, rfl⟩

end LiveBoard.Instant
