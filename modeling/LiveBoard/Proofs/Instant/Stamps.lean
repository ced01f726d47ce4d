import LiveBoard.Instant.Reader
import LiveBoard.Proofs.Instant.Days
import Mathlib.Data.List.TakeWhile

/-!
A date and time in digits is read alike with an offset and without one.

The two readings of instants differ in what else they take, but not in what they make of such a
text.
-/

namespace LiveBoard.Instant

open Text (isBlank trimChars isBlank_of_isAlphanum)

/-! ## White space -/

/-- A digit is not white space. -/
theorem isBlank_of_isDigit {c : Char} (digit : c.isDigit) : isBlank c = false :=
  isBlank_of_isAlphanum (by simp [Char.isAlphanum, digit])

/-- Characters none of which is white space have nothing to trim. -/
theorem trimChars_of_sound {chars : List Char} (sound : ∀ c ∈ chars, isBlank c = false) :
    trimChars chars = chars := by
  -- Trimming drops from the front, and from the front of what is turned around.
  have same {chars : List Char} (sound : ∀ c ∈ chars, isBlank c = false) :
      chars.dropWhile isBlank = chars := by
    cases chars with
    | nil => rfl
    | cons c rest => simp [sound c (by simp)]
  rw [trimChars, same sound, same (by simpa using sound), List.reverse_reverse]

/-! ## Digits -/

/-- So many decimal digits. -/
structure Digits (width : Nat) where
  chars : List Char
  length_chars : chars.length = width
  isDigit : ∀ c ∈ chars, c.isDigit

namespace Digits

variable {width : Nat} (digits : Digits width)

/-- The number that digits write. -/
def value : Nat := digitsValue digits.chars

/-- Digits are taken off the front by a reader of just their width. -/
theorem fixedDigits_append (rest : List Char) :
    fixedDigits width (digits.chars ++ rest) = some (digits.value, rest) := by
  have all : digits.chars.all Char.isDigit := List.all_eq_true.mpr digits.isDigit
  -- A reader of a width takes that many characters, whatever stands behind them.
  simp [fixedDigits, List.take_left' digits.length_chars, List.drop_left' digits.length_chars,
    digits.length_chars, all, value]

/-- Digits are taken off the front by a reader of up to their width. -/
theorem upToDigits_append (positive : 0 < width) (rest : List Char) :
    upToDigits width (digits.chars ++ rest) = some (digits.value, rest) := by
  have nonempty : digits.chars.isEmpty = false := by
    rw [List.isEmpty_eq_false_iff, ← List.length_pos_iff, digits.length_chars]
    exact positive
  -- The reader stops at its width even if more digits follow.
  have all : digits.chars.takeWhile Char.isDigit = digits.chars :=
    List.takeWhile_eq_self_iff.mpr digits.isDigit
  simp [upToDigits, List.take_left' digits.length_chars, all, nonempty, value]

/-- Digits hold no white space. -/
theorem sound_chars : ∀ c ∈ digits.chars, isBlank c = false :=
  fun c member => isBlank_of_isDigit (digits.isDigit c member)

/-- In front of digits there is no white space to pass over. -/
theorem dropWhile_isBlank (positive : 0 < width) (rest : List Char) :
    (digits.chars ++ rest).dropWhile isBlank = digits.chars ++ rest := by
  cases whole : digits.chars with
  -- There is a first digit, and it is not white space.
  | nil => simp [← digits.length_chars, whole] at positive
  | cons first others =>
    have sound : isBlank first = false := digits.sound_chars first (by simp [whole])
    simp [sound]

/-- Two digits are taken off the front by a reader of free widths. -/
theorem freePair_append (digits : Digits 2) (rest : List Char) :
    freePair (digits.chars ++ rest) = some (digits.value, rest) := by
  rw [freePair, digits.dropWhile_isBlank (by decide), digits.upToDigits_append (by decide)]

/-- Four digits are taken off the front as a year. -/
theorem freeYear_append (digits : Digits 4) (rest : List Char) :
    freeYear (digits.chars ++ rest) = some ((digits.value : Int), rest) := by
  have read := digits.upToDigits_append (by decide) rest
  rw [freeYear, digits.dropWhile_isBlank (by decide)]
  cases whole : digits.chars with
  | nil => simpa [whole] using digits.length_chars
  | cons first others =>
    -- A digit is no sign.
    have digit := digits.isDigit first (by simp [whole])
    have minus : first ≠ '-' := by rintro rfl; simp at digit
    have plus : first ≠ '+' := by rintro rfl; simp at digit
    rw [whole] at read
    simp only [List.cons_append] at read ⊢
    split
    · simp_all
    · simp_all
    · simp [read]

end Digits

/-! ## Fractions of a second -/

/-- The digits of a fraction of a second behind their point, which is left out if there are none. -/
def fractionChars (digits : List Char) : List Char := if digits = [] then [] else '.' :: digits

/-- What may follow a fraction: neither a digit nor a point. -/
def EndsFraction (rest : List Char) : Prop := ∀ c ∈ rest.head?, c.isDigit = false ∧ c ≠ '.'

/-- A fraction of any number of digits is taken off the front. -/
theorem fraction_append {digits : List Char} (all : ∀ c ∈ digits, c.isDigit) {rest : List Char}
    (ends : EndsFraction rest) :
    fraction (fractionChars digits ++ rest) = some (nanosOfDigits digits, rest) := by
  unfold fractionChars
  split
  · rename_i none
    subst none
    -- Without digits there is no point, and none follows either.
    cases rest with
    | nil => rfl
    | cons c rest =>
      have other := (ends c rfl).2
      simp only [List.nil_append]
      unfold fraction
      split
      · simp_all
      · simp [nanosOfDigits, digitsValue]
  · rename_i some
    -- All digits are taken, and no digit of what follows.
    have stop : rest.takeWhile Char.isDigit = [] ∧ rest.dropWhile Char.isDigit = rest := by
      cases rest with
      | nil => simp
      | cons c rest => simp [(ends c rfl).1]
    simp [fraction, List.takeWhile_append_of_pos all, List.dropWhile_append_of_pos all, stop, some]

/-! ## Stamps -/

/-- The digits of a date and time, with any number of them for the fraction of the second. -/
structure Stamp where
  year : Digits 4
  month : Digits 2
  day : Digits 2
  hour : Digits 2
  minute : Digits 2
  second : Digits 2
  fraction : List Char
  isDigit : ∀ c ∈ fraction, c.isDigit

namespace Stamp

variable (stamp : Stamp)

/-- The characters of a stamp, in which every field has its full width. -/
def chars : List Char :=
  stamp.year.chars ++ '-' :: (stamp.month.chars ++ '-' :: (stamp.day.chars ++ 'T' ::
    (stamp.hour.chars ++ ':' :: (stamp.minute.chars ++ ':' :: (stamp.second.chars ++
      fractionChars stamp.fraction)))))

/-- The text of a stamp. -/
def text : String := String.ofList stamp.chars

/-- The date and time that a stamp says, whether or not there is such a date and time. -/
def civil : CivilTime :=
  ⟨⟨stamp.year.value, stamp.month.value, stamp.day.value⟩,
    ⟨stamp.hour.value, stamp.minute.value, stamp.second.value, nanosOfDigits stamp.fraction⟩⟩

/-- A stamp holds no white space. -/
theorem sound_chars : ∀ c ∈ stamp.chars, isBlank c = false := by
  -- A stamp is digits with marks between them, and none of these is white space.
  have fraction : ∀ c ∈ fractionChars stamp.fraction, isBlank c = false := by
    unfold fractionChars
    split
    · simp
    · exact List.forall_mem_cons.mpr
        ⟨by decide, fun c member => isBlank_of_isDigit (stamp.isDigit c member)⟩
  simp only [chars, List.forall_mem_append, List.forall_mem_cons]
  exact ⟨stamp.year.sound_chars, by decide, stamp.month.sound_chars, by decide,
    stamp.day.sound_chars, by decide, stamp.hour.sound_chars, by decide, stamp.minute.sound_chars,
    by decide, stamp.second.sound_chars, fraction⟩

section Fields

variable {rest : List Char} (ends : EndsFraction rest)

include ends

/-- The fields of a stamp are taken off the front by a reader of their widths. -/
theorem fixedFields_append : fixedFields (stamp.chars ++ rest) = some ⟨stamp.civil, rest⟩ := by
  simp [fixedFields, chars, civil, literal, Digits.fixedDigits_append,
    fraction_append stamp.isDigit ends]

/-- The fields of a stamp are taken off the front by a reader of free widths. -/
theorem freeFields_append : freeFields (stamp.chars ++ rest) = some ⟨stamp.civil, rest⟩ := by
  simp [freeFields, chars, civil, literal, Digits.freeYear_append, Digits.freePair_append,
    fraction_append stamp.isDigit ends]

end Fields

/-- Without an offset a stamp is read in universal time. -/
theorem parse?_text :
    parse? stamp.text = if stamp.civil.isValid then stamp.civil.toInstant? 0 else none := by
  have trimmed : trimChars stamp.text.toList = stamp.chars := by
    rw [text, String.toList_ofList, trimChars_of_sound stamp.sound_chars]
  have ends : EndsFraction [] := by simp [EndsFraction]
  have fixed := stamp.fixedFields_append ends
  have free := stamp.freeFields_append ends
  rw [List.append_nil] at fixed free
  -- The reading with an offset finds none, and leaves the text to the other one.
  simp [parse?, trimmed, withOffset?, naive?, fixed, free, offset]

/-- With an offset a stamp is read so many seconds away from universal time. -/
theorem parse?_append {suffix : List Char} {ahead : Int} (ends : EndsFraction suffix)
    (sound : ∀ c ∈ suffix, isBlank c = false) (read : offset suffix = some (ahead, [])) :
    parse? (stamp.text ++ String.ofList suffix) =
      if stamp.civil.isValid then stamp.civil.toInstant? ahead else none := by
  -- Nothing is trimmed, so that both readings start from the stamp with what follows it.
  have trimmed : trimChars (stamp.text ++ String.ofList suffix).toList = stamp.chars ++ suffix := by
    rw [String.toList_append, text, String.toList_ofList, String.toList_ofList,
      trimChars_of_sound (List.forall_mem_append.mpr ⟨stamp.sound_chars, sound⟩)]
  have more : suffix ≠ [] := by
    rintro rfl
    cases read
  -- The reading without an offset stops at it, so it cannot take what the other one refuses.
  rw [parse?, trimmed]
  simp [withOffset?, naive?, stamp.fixedFields_append ends, stamp.freeFields_append ends, read,
    more]

end Stamp

/-! ## Offsets -/

/-- How far a clock is ahead of universal time, or behind it, by less than a day. -/
structure Offset where
  behind : Bool
  hours : Digits 2
  minutes : Digits 2
  valid : hours.value ≤ 23 ∧ minutes.value ≤ 59

namespace Offset

variable (offset : Offset)

/-- The characters of an offset. -/
def chars : List Char :=
  (if offset.behind then '-' else '+') :: (offset.hours.chars ++ ':' :: offset.minutes.chars)

/-- The text of an offset. -/
def text : String := String.ofList offset.chars

/-- The minutes that a clock is ahead of universal time. -/
def ahead : Int :=
  let minutes : Int := (offset.hours.value * 60 + offset.minutes.value : Nat)
  if offset.behind then -minutes else minutes

/-- A clock is ahead or behind by less than a day. -/
theorem ahead_bounds : -1440 < offset.ahead ∧ offset.ahead < 1440 := by
  have valid := offset.valid
  -- At most twenty-three hours and fifty-nine minutes are taken.
  unfold ahead
  dsimp only
  split <;> omega

/-- An offset holds no white space. -/
theorem sound_chars : ∀ c ∈ offset.chars, isBlank c = false := by
  have sign : isBlank (if offset.behind then '-' else '+') = false := by
    cases offset.behind <;> decide
  simp only [chars, List.forall_mem_append, List.forall_mem_cons]
  exact ⟨sign, offset.hours.sound_chars, by decide, offset.minutes.sound_chars⟩

/-- An offset ends the fraction in front of it. -/
theorem endsFraction_chars : EndsFraction offset.chars := by
  -- The sign of an offset is neither a digit nor a point.
  cases behind : offset.behind <;> simp [EndsFraction, chars, behind]

/-- An offset is read from its text. -/
theorem offset_chars : Instant.offset offset.chars = some (60 * offset.ahead, []) := by
  obtain ⟨behind, hours, minutes, valid⟩ := offset
  have last := minutes.fixedDigits_append []
  rw [List.append_nil] at last
  -- Hours and minutes are in bounds, so that the reader accepts them.
  have fits : ¬ (23 < hours.value ∨ 59 < minutes.value) := by omega
  cases behind
  · simp [Instant.offset, chars, hours.fixedDigits_append, last, fits, literal, ahead]
    omega
  · simp [Instant.offset, chars, hours.fixedDigits_append, last, fits, literal, ahead]
    omega

end Offset

namespace Stamp

variable (stamp : Stamp)

/-- A stamp with the letter of universal time is read as without it. -/
theorem parse?_letter : parse? (stamp.text ++ "Z") = parse? stamp.text := by
  -- The letter is an offset of no minutes.
  have ends : EndsFraction ['Z'] := by simp [EndsFraction]
  have sound : ∀ c ∈ ['Z'], isBlank c = false := List.forall_mem_singleton.mpr (by decide)
  rw [parse?_text]
  exact stamp.parse?_append ends sound rfl

/-- A stamp with an offset is read as without it, and moved back by the offset. -/
theorem parse?_offset (offset : Offset) :
    parse? (stamp.text ++ offset.text) = (parse? stamp.text).map (moved (-offset.ahead)) := by
  rw [parse?_text, Offset.text,
    stamp.parse?_append offset.endsFraction_chars offset.sound_chars offset.offset_chars]
  split
  · -- A valid stamp is read as so many minutes earlier as its clock is ahead.
    exact CivilTime.toInstant?_ahead stamp.civil offset.ahead
  · rfl

/-- A stamp without an offset is read as the instant of which it is the date and time. -/
theorem parse?_text_eq_some_iff {instant : Instant} :
    parse? stamp.text = some instant ↔
      stamp.civil.isValid ∧ CivilTime.ofInstant instant = stamp.civil := by
  rw [parse?_text]
  split
  · rename_i valid
    rw [CivilTime.toInstant?_eq_some_iff valid, and_iff_right valid]
  · rename_i invalid
    -- Nothing is read of an invalid one.
    simp [invalid]

/--
A date and time in digits is read if it is valid, as the instant of which it is the date and time.

The letter of universal time makes no difference to that. An offset moves the instant back by the
minutes that the clock is ahead, in which the civil time carries over to the day before or after,
and the fraction of the second stays what it is.
-/
theorem readings_agree :
    (∀ instant, parse? stamp.text = some instant ↔
      stamp.civil.isValid ∧ CivilTime.ofInstant instant = stamp.civil) ∧
    parse? (stamp.text ++ "Z") = parse? stamp.text ∧
    ∀ offset : Offset,
      parse? (stamp.text ++ offset.text) = (parse? stamp.text).map (moved (-offset.ahead)) ∧
      ∀ instant : Instant,
        (instant.moved (-offset.ahead)).seconds = instant.seconds - 60 * offset.ahead ∧
        (instant.moved (-offset.ahead)).nanos = instant.nanos ∧
        CivilTime.ofInstant (instant.moved (-offset.ahead)) =
          (CivilTime.ofInstant instant).carry (-offset.ahead) := by
  refine ⟨fun instant => stamp.parse?_text_eq_some_iff, stamp.parse?_letter, fun offset =>
    ⟨stamp.parse?_offset offset, fun instant => ⟨?_, rfl, ?_⟩⟩⟩
  · simp only [moved]
    omega
  · -- An offset is less than a day, so that the date is at most one day off.
    have bounds := offset.ahead_bounds
    exact CivilTime.ofInstant_moved instant (by omega) (by omega)

end Stamp

end LiveBoard.Instant
