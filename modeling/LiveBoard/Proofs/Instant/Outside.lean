import LiveBoard.Proofs.Instant.RoundTrip

/-!
An instant outside the years of four digits is not read again from the text that it is written as.

Its year is written with a sign, which no reading with an offset takes, and the letter behind its
clock is none that a reading without an offset takes.
-/

namespace LiveBoard.Instant

open Text (isBlank trimChars trimChars_of_ends)

/-! ## What a reading without an offset passes over -/

/-- What is left of characters of which some were read, none of them the letter of an offset. -/
def LeftOf (rest chars : List Char) : Prop := ∃ taken, chars = taken ++ rest ∧ 'Z' ∉ taken

section Passing

variable {chars middle rest : List Char}

/-- Reading on from what is left passes over both parts. -/
theorem LeftOf.trans (last : LeftOf rest middle) (first : LeftOf middle chars) :
    LeftOf rest chars := by
  obtain ⟨former, rfl, lettersFormer⟩ := first
  obtain ⟨latter, rfl, lettersLatter⟩ := last
  exact ⟨former ++ latter, by simp, by simp [lettersFormer, lettersLatter]⟩

/-- A given character other than the letter is passed over. -/
theorem leftOf_literal {expected : Char} (other : expected ≠ 'Z')
    (read : literal expected chars = some rest) : LeftOf rest chars := by
  cases chars with
  | nil => simp [literal] at read
  -- The character that was taken is the one that was expected.
  | cons c tail =>
    simp only [literal, Option.ite_none_right_eq_some, Option.some.injEq] at read
    obtain ⟨rfl, rfl⟩ := read
    exact ⟨[c], rfl, by simpa using other.symm⟩

/-- The letter is not among characters of a class that it is not in. -/
theorem letter_notMem_takeWhile {holds : Char → Bool} (other : holds 'Z' = false) :
    'Z' ∉ chars.takeWhile holds := by
  intro member
  -- All characters that are taken are of the class.
  have inside : holds 'Z' = true := List.all_eq_true.mp List.all_takeWhile _ member
  simp [other] at inside

/-- White space is passed over. -/
theorem leftOf_dropWhile_isBlank : LeftOf (chars.dropWhile isBlank) chars :=
  ⟨chars.takeWhile isBlank, List.takeWhile_append_dropWhile.symm,
    letter_notMem_takeWhile (by decide)⟩

/-- Digits are passed over. -/
theorem leftOf_upToDigits {width n : Nat} (read : upToDigits width chars = some (n, rest)) :
    LeftOf rest chars := by
  simp only [upToDigits, Option.ite_none_left_eq_some, Option.some.injEq, Prod.mk.injEq] at read
  obtain ⟨-, -, rfl⟩ := read
  -- The digits are a beginning of the characters, and no letter is a digit.
  have start : (chars.take width).takeWhile Char.isDigit <+: chars :=
    (List.takeWhile_prefix _).trans (List.take_prefix _ _)
  exact ⟨_, (List.prefix_iff_eq_append.mp start).symm, letter_notMem_takeWhile (by decide)⟩

/-- A number of one or two digits is passed over, with the white space in front of it. -/
theorem leftOf_freePair {n : Nat} (read : freePair chars = some (n, rest)) : LeftOf rest chars :=
  (leftOf_upToDigits read).trans leftOf_dropWhile_isBlank

/-- A year is passed over, with its sign and the white space in front of it. -/
theorem leftOf_freeYear {year : Int} (read : freeYear chars = some (year, rest)) :
    LeftOf rest chars := by
  refine LeftOf.trans ?_ leftOf_dropWhile_isBlank
  unfold freeYear at read
  -- The year is told apart by its sign, behind which only the digits are read.
  split at read
  · rename_i digits start
    obtain ⟨⟨n, left⟩, taken, same⟩ := Option.map_eq_some_iff.mp read
    obtain rfl : left = rest := (Prod.mk.inj same).2
    rw [start]
    exact (leftOf_upToDigits taken).trans ⟨['-'], rfl, by decide⟩
  · rename_i digits start
    obtain ⟨⟨n, left⟩, taken, same⟩ := Option.map_eq_some_iff.mp read
    obtain rfl : left = rest := (Prod.mk.inj same).2
    rw [start]
    exact (leftOf_upToDigits taken).trans ⟨['+'], rfl, by decide⟩
  · obtain ⟨⟨n, left⟩, taken, same⟩ := Option.map_eq_some_iff.mp read
    obtain rfl : left = rest := (Prod.mk.inj same).2
    exact leftOf_upToDigits taken

/-- A fraction of a second is passed over, if there is one. -/
theorem leftOf_fraction {nanos : Nat} (read : fraction chars = some (nanos, rest)) :
    LeftOf rest chars := by
  unfold fraction at read
  split at read
  · rename_i digits
    -- A point is passed over together with the digits behind it.
    simp only [Option.ite_none_left_eq_some, Option.some.injEq, Prod.mk.injEq] at read
    obtain ⟨-, -, rfl⟩ := read
    refine ⟨'.' :: digits.takeWhile Char.isDigit, ?_, ?_⟩
    · rw [List.cons_append, List.takeWhile_append_dropWhile]
    · exact List.not_mem_cons_of_ne_of_not_mem (by decide) (letter_notMem_takeWhile (by decide))
  · -- Without a point nothing is taken.
    obtain ⟨-, rfl⟩ := Prod.mk.inj (Option.some.inj read)
    exact ⟨[], rfl, by simp⟩

/-- No field of a date and time takes the letter. -/
theorem leftOf_freeFields {fields : Fields} (read : freeFields chars = some fields) :
    LeftOf fields.rest chars := by
  simp only [freeFields, Option.bind_eq_bind, Option.bind_eq_some_iff, Prod.exists, Option.pure_def,
    Option.some.injEq] at read
  obtain ⟨_, _, year, _, yearEnd, _, _, month, _, monthEnd, _, _, day, _, dayEnd, _, _, hour, _,
    hourEnd, _, _, minute, _, minuteEnd, _, _, second, _, _, nanos, rfl⟩ := read
  -- The fields follow each other, with a mark between any two.
  have date := (leftOf_freePair day).trans <| (leftOf_literal (by decide) monthEnd).trans <|
    (leftOf_freePair month).trans <| (leftOf_literal (by decide) yearEnd).trans <|
    leftOf_freeYear year
  have time := (leftOf_freePair second).trans <| (leftOf_literal (by decide) minuteEnd).trans <|
    (leftOf_freePair minute).trans <| (leftOf_literal (by decide) hourEnd).trans <|
    leftOf_freePair hour
  exact (leftOf_fraction nanos).trans <| time.trans <|
    (leftOf_literal (by decide) dayEnd).trans date

/-- A text with the letter of an offset is not read without an offset. -/
theorem naive?_eq_none (letter : 'Z' ∈ chars) : naive? chars = none := by
  unfold naive?
  cases read : freeFields chars with
  | none => rfl
  | some fields =>
    -- The letter is among what is left, and there may be nothing left.
    obtain ⟨taken, whole, letters⟩ := leftOf_freeFields read
    have left : 'Z' ∈ fields.rest := by
      rw [whole] at letter
      exact (List.mem_append.mp letter).resolve_left letters
    have nonempty : fields.rest.isEmpty = false :=
      List.isEmpty_eq_false_iff.mpr (List.ne_nil_of_mem left)
    simp only [Option.bind_eq_bind, Option.bind_some, nonempty, Bool.and_false, Bool.false_eq_true,
      if_false]

end Passing

/-! ## Instants -/

/-- A text that does not start with a digit is not read with an offset. -/
theorem withOffset?_eq_none {first : Char} {rest : List Char} (sign : first.isDigit = false) :
    withOffset? (first :: rest) = none := by
  -- The year stands first, in four digits.
  have year : fixedDigits 4 (first :: rest) = none := by
    simp [fixedDigits, sign]
  simp [withOffset?, fixedFields, year]

/-- The text of a civil time of a year beyond four digits has a sign first and a letter last. -/
theorem renderCivil_signed {civil : CivilTime}
    (outside : ¬ (0 ≤ civil.date.year ∧ civil.date.year ≤ 9999)) :
    ∃ sign inner, renderCivil civil = sign :: (inner ++ ['Z']) ∧ (sign = '-' ∨ sign = '+') := by
  -- A sign is written for every year that four digits do not hold.
  simp only [renderCivil, renderYear, if_neg outside]
  refine ⟨if civil.date.year < 0 then '-' else '+', _, rfl, ?_⟩
  by_cases before : civil.date.year < 0 <;> simp [before]

/-- An instant outside the years of four digits is not read again. -/
theorem parse?_render_eq_none {instant : Instant} (outside : ¬ instant.InEra) :
    parse? instant.render = none := by
  obtain ⟨sign, inner, text, signs⟩ := renderCivil_signed outside
  -- Neither end is white space, so nothing is trimmed off.
  have start : isBlank sign = false ∧ sign.isDigit = false := by
    rcases signs with rfl | rfl <;> decide
  have trimmed : trimChars instant.render.toList = sign :: (inner ++ ['Z']) := by
    rw [render, String.toList_ofList, text, trimChars_of_ends start.1 (by decide)]
  have offset : withOffset? (sign :: (inner ++ ['Z'])) = none := withOffset?_eq_none start.2
  have naive : naive? (sign :: (inner ++ ['Z'])) = none := naive?_eq_none (by simp)
  simp only [parse?, trimmed, offset, naive, Option.or_none]

end LiveBoard.Instant
