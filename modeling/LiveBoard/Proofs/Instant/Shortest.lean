import LiveBoard.Proofs.Instant.Outside

/-! Nothing of an instant is lost in its text, which has the fewest digits that lose nothing. -/

namespace LiveBoard.Instant

/-- The numbers of digits that a fraction of a second is written in. -/
def fractionWidths : List Nat := [0, 3, 6, 9]

section Widths

variable {nanos : Nat} {digits : List Char}

/-- A fraction of a second is written in as many digits as it is wide. -/
theorem length_fractionDigits (small : nanos < billion) :
    (fractionDigits nanos).length = fractionWidth nanos := by
  unfold fractionDigits
  split
  · rename_i zero
    rw [zero]
    rfl
  · rename_i some
    -- A number that fits into the digits is padded to their width.
    obtain ⟨⟨positive, short⟩, -⟩ := fractionWidth_spec some
    exact length_padded positive (div_lt_of_width small short)

/-- A fraction of a second is written in one of the numbers of digits. -/
theorem fractionWidth_mem (nanos : Nat) : fractionWidth nanos ∈ fractionWidths := by
  unfold fractionWidth
  -- Each branch gives one of the four numbers.
  split_ifs <;> decide

/-- Digits count as so many of what the last of them counts as. -/
theorem dvd_nanosOfDigits (short : digits.length ≤ 9) :
    10 ^ (9 - digits.length) ∣ nanosOfDigits digits := by
  -- The nanoseconds are made by multiplying with this power.
  simp [nanosOfDigits, List.take_of_length_le short]

/-- A fraction of a second that so many digits hold is no wider. -/
theorem fractionWidth_le (width : digits.length ∈ fractionWidths)
    (same : nanosOfDigits digits = nanos) (small : nanos < billion) :
    fractionWidth nanos ≤ digits.length := by
  have size : billion = 1000000000 := rfl
  simp only [fractionWidths, List.mem_cons, List.not_mem_nil, or_false] at width
  have whole := dvd_nanosOfDigits (show digits.length ≤ 9 by omega)
  rw [same] at whole
  unfold fractionWidth
  -- The fewer digits there are, the more zeros the nanoseconds end in.
  rcases width with width | width | width | width <;> rw [width] at whole ⊢ <;>
    split_ifs <;> omega

end Widths

/--
An instant is read again from its text just when four digits hold its year.

The text is then a date and time in universal time, with the fewest of the numbers of digits for the
fraction of the second that say the instant.
-/
theorem render_lossless (instant : Instant) :
    (parse? instant.render = some instant ↔ instant.InEra) ∧
    (instant.InEra → ∃ stamp : Stamp,
      instant.render = stamp.text ++ "Z" ∧
      stamp.civil = CivilTime.ofInstant instant ∧
      stamp.fraction.length ∈ fractionWidths ∧
      ∀ other : Stamp, other.civil = CivilTime.ofInstant instant →
        other.fraction.length ∈ fractionWidths →
        stamp.fraction.length ≤ other.fraction.length) := by
  refine ⟨⟨fun read => ?_, parse?_render⟩, fun era => ?_⟩
  · by_contra outside
    -- A year beyond four digits is written with a sign, and nothing is read then.
    rw [parse?_render_eq_none outside] at read
    cases read
  · obtain ⟨stamp, text, civil, fraction⟩ := era.exists_stamp
    -- Nanoseconds of a leap second are those within it, so they are below a billion in any case.
    have valid := CivilTime.clock_isValid_ofInstant instant
    have small : (CivilTime.ofInstant instant).clock.nanos < billion := by
      simp only [Clock.isValid, Bool.and_eq_true, decide_eq_true_eq] at valid
      exact valid.2
    refine ⟨stamp, text, civil, ?_, fun other equal width => ?_⟩
    · rw [fraction, length_fractionDigits small]
      exact fractionWidth_mem _
    · -- Any other stamp of that time has digits for the same nanoseconds, so no fewer of them do.
      have same : nanosOfDigits other.fraction = (CivilTime.ofInstant instant).clock.nanos := by
        rw [← equal]
        rfl
      rw [fraction, length_fractionDigits small]
      exact fractionWidth_le width same small

/-- The middle of the leap second at the end of 2016. -/
def leapSecond : Instant := ⟨1483228799, 1500000000, by decide⟩

theorem render_lossless_leapSecond :
    leapSecond.render = "2016-12-31T23:59:60.500Z" ∧ parse? leapSecond.render = some leapSecond ∧
    ∃ stamp : Stamp,
      leapSecond.render = stamp.text ++ "Z" ∧
      stamp.civil = CivilTime.ofInstant leapSecond ∧
      stamp.fraction.length ∈ fractionWidths ∧
      ∀ other : Stamp, other.civil = CivilTime.ofInstant leapSecond →
        other.fraction.length ∈ fractionWidths →
        stamp.fraction.length ≤ other.fraction.length :=
  have era : leapSecond.InEra := by decide
  ⟨by decide, (render_lossless leapSecond).1.mpr era, (render_lossless leapSecond).2 era⟩

end LiveBoard.Instant
