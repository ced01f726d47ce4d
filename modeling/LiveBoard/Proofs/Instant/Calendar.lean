import LiveBoard.Instant.Calendar
import Mathlib.Tactic.Ring

/-! The calendar loses no day, and no instant is lost in the civil time that it is written as. -/

namespace LiveBoard

namespace Date

/-- Whether a year has this month, and the month this day. -/
def OnCalendar (date : Date) : Prop :=
  (1 ≤ date.month ∧ date.month ≤ 12) ∧ 1 ≤ date.day ∧ date.day ≤ daysInMonth date.year date.month

/-- A date is valid if it is on the calendar, in a year that dates may lie in. -/
theorem isValid_iff (date : Date) :
    date.isValid ↔ (leastYear ≤ date.year ∧ date.year ≤ greatestYear) ∧ date.OnCalendar := by
  simp only [isValid, OnCalendar, Bool.and_eq_true, decide_eq_true_eq]
  tauto

/--
A day of an era is a day of a year, in a cycle of four years, in a century.

Only the last year of a cycle has a leap day at its end, and of the last cycles of a century only
that of the last century.
-/
theorem exists_cycles {day : Int} (low : 0 ≤ day) (high : day < 146097) :
    ∃ century cycle year rest : Int,
      day = 36524 * century + 1461 * cycle + 365 * year + rest ∧
      (0 ≤ century ∧ century ≤ 3) ∧ (0 ≤ cycle ∧ cycle ≤ 24) ∧ (0 ≤ year ∧ year ≤ 3) ∧ 0 ≤ rest ∧
      (rest ≤ 364 ∨ rest = 365 ∧ year = 3 ∧ (cycle < 24 ∨ century = 3)) := by
  -- The leap days at the very end of an era and of a cycle fall outside the even division.
  obtain ⟨century, inCentury, centuries, nonneg, few, start, short⟩ : ∃ century inCentury : Int,
      day = 36524 * century + inCentury ∧ 0 ≤ century ∧ century ≤ 3 ∧ 0 ≤ inCentury ∧
      (inCentury < 36524 ∨ century = 3 ∧ inCentury = 36524) := by
    by_cases last : day = 146096
    · exact ⟨3, 36524, by omega⟩
    · exact ⟨day / 36524, day % 36524, by omega⟩
  -- A cycle that lacks its leap day is the last of its century, so the division stays even.
  obtain ⟨cycle, inCycle, cycles, first, short, fits⟩ : ∃ cycle inCycle : Int,
      inCentury = 1461 * cycle + inCycle ∧ 0 ≤ inCycle ∧ inCycle < 1461 ∧
      (0 ≤ cycle ∧ cycle ≤ 24) :=
    ⟨inCentury / 1461, inCentury % 1461, by omega⟩
  -- The leap day is the last of the cycle, after the days of its fourth year.
  by_cases last : inCycle = 1460
  · exact ⟨century, cycle, 3, 365, by omega, ⟨nonneg, few⟩, fits, by decide, by decide,
      .inr ⟨rfl, rfl, by omega⟩⟩
  · exact ⟨century, cycle, inCycle / 365, inCycle % 365, by omega, ⟨nonneg, few⟩, fits, by omega,
      by omega, .inl (by omega)⟩

/-- Taking out the leap days that have passed gives the year that a day of an era lies in. -/
theorem yearOfEra_eq {day century cycle year rest : Int}
    (parts : day = 36524 * century + 1461 * cycle + 365 * year + rest)
    (centuries : 0 ≤ century ∧ century ≤ 3) (cycles : 0 ≤ cycle ∧ cycle ≤ 24)
    (years : 0 ≤ year ∧ year ≤ 3) (start : 0 ≤ rest)
    (leap : rest ≤ 364 ∨ rest = 365 ∧ year = 3 ∧ (cycle < 24 ∨ century = 3)) :
    (day - day / 1460 + day / 36524 - day / 146096) / 365 = 100 * century + 4 * cycle + year := by
  -- Each quotient counts leap days that have passed, or have been counted too often.
  have ofEra : day / 146096 = if day = 146096 then 1 else 0 := by split <;> omega
  have ofCentury : day / 36524 = century + if day = 146096 then 1 else 0 := by split <;> omega
  have ofCycle : day / 1460 = 25 * century + cycle +
      if 24 * century + cycle + 365 * year + rest < 1460 then 0 else 1 := by split <;> omega
  rw [ofEra, ofCentury, ofCycle]
  split <;> split <;> omega

/-- The date of a day of a year that starts in March. -/
def ofMarchYear (year day : Int) : Date :=
  let monthFromMarch := (5 * day + 2) / 153
  let month := if monthFromMarch < 10 then monthFromMarch + 3 else monthFromMarch - 9
  ⟨year + if month ≤ 2 then 1 else 0, month.toNat,
    (day - (153 * monthFromMarch + 2) / 5 + 1).toNat⟩

/-- The number of days before a year that starts in March, from the start of the year zero. -/
def daysBefore (year : Int) : Int := year * 365 + year / 4 - year / 100 + year / 400

/-- Years come round every four hundred. -/
theorem daysBefore_era (year : Int) :
    year / 400 * 146097 + (year % 400 * 365 + year % 400 / 4 - year % 400 / 100) =
      daysBefore year := by
  rw [daysBefore]
  have whole := Int.mul_ediv_add_emod year 400
  -- With the eras split off, all divisions are of what is left of the year.
  generalize year / 400 = era at *
  generalize year % 400 = rest at *
  subst whole
  have quads : (400 * era + rest) / 4 = 100 * era + rest / 4 := by omega
  have cents : (400 * era + rest) / 100 = 4 * era + rest / 100 := by omega
  omega

section Cycles

variable {century cycle year era : Int}

/-- The number of days before a year is that of the eras, centuries, cycles and years before it. -/
theorem daysBefore_cycles (centuries : 0 ≤ century ∧ century ≤ 3)
    (cycles : 0 ≤ cycle ∧ cycle ≤ 24) (years : 0 ≤ year ∧ year ≤ 3) :
    daysBefore (100 * century + 4 * cycle + year + 400 * era) =
      146097 * era + 36524 * century + 1461 * cycle + 365 * year := by
  -- Years, cycles and centuries stay below what would carry over to the next size.
  have quads : (100 * century + 4 * cycle + year + 400 * era) / 4 =
      25 * century + cycle + 100 * era := by omega
  have cents : (100 * century + 4 * cycle + year + 400 * era) / 100 = century + 4 * era := by omega
  have eras : (100 * century + 4 * cycle + year + 400 * era) / 400 = era := by omega
  rw [daysBefore, quads, cents, eras]
  ring

/-- The last year of a cycle ends in a leap year, but for the last cycles of three centuries. -/
theorem isLeapYear_cycles (cycles : 0 ≤ cycle ∧ cycle ≤ 24) (full : cycle < 24 ∨ century = 3) :
    isLeapYear (100 * century + 4 * cycle + 3 + 400 * era + 1) := by
  -- The year after the third of a cycle is one of every fourth.
  have quads : (100 * century + 4 * cycle + 3 + 400 * era + 1) % 4 = 0 := by omega
  by_cases inner : cycle < 24
  · have cents : (100 * century + 4 * cycle + 3 + 400 * era + 1) % 100 ≠ 0 := by omega
    simp [isLeapYear, quads, cents]
  · -- Of the last cycles of centuries, only that of the fourth century is left.
    have last : cycle = 24 := by omega
    have fourth : century = 3 := by omega
    have eras : (100 * century + 4 * cycle + 3 + 400 * era + 1) % 400 = 0 := by omega
    simp [isLeapYear, quads, eras]

end Cycles

/-- The date of a day is a day of a year that starts in March, and has one more in a leap year. -/
theorem ofDays_eq (days : Int) :
    ∃ year day : Int, ofDays days = ofMarchYear year day ∧ days = daysBefore year + day - 719468 ∧
      0 ≤ day ∧ (day ≤ 364 ∨ day = 365 ∧ isLeapYear (year + 1)) := by
  obtain ⟨century, cycle, year, rest, parts, centuries, cycles, years, start, leap⟩ :=
    exists_cycles (Int.emod_nonneg (days + 719468) (by decide : (146097 : Int) ≠ 0))
      (Int.emod_lt_of_pos _ (by decide))
  -- The day is counted within its era first, from where its year and its place in it are known.
  have yearOfEra := yearOfEra_eq parts centuries cycles years start leap
  have whole := Int.mul_ediv_add_emod (days + 719468) 146097
  refine ⟨100 * century + 4 * cycle + year + 400 * ((days + 719468) / 146097), rest,
    ?_, ?_, start, ?_⟩
  · -- Cycles and centuries of the year of the era are found again by division.
    have quads : (100 * century + 4 * cycle + year) / 4 = 25 * century + cycle := by omega
    have cents : (100 * century + 4 * cycle + year) / 100 = century := by omega
    have dayOfYear : (days + 719468) % 146097 -
        (365 * (100 * century + 4 * cycle + year) + (25 * century + cycle) - century) = rest := by
      rw [parts]
      ring
    simp only [ofDays, ofMarchYear, yearOfEra, quads, cents, dayOfYear]
    ring_nf
  · -- The days before the year are those of its eras, centuries, cycles and years.
    rw [daysBefore_cycles centuries cycles years, ← sub_eq_of_eq_add whole.symm, parts]
    ring
  · -- The leap day, if it is this one, is the last day of the year that starts in March.
    refine leap.imp id fun ⟨last, third, full⟩ => ⟨last, ?_⟩
    rw [third]
    exact isLeapYear_cycles cycles full

section MarchYear

variable {year day : Int}

/-- A month counted from March is counted from January again. -/
theorem ofMarchYear_month {month : Int} (bounds : 0 ≤ month ∧ month ≤ 11) :
    ((if month < 10 then month + 3 else month - 9).toNat + 9 : Int) % 12 = month := by
  -- The two months that are counted last are the first two of the civil year.
  split <;> omega

/-- January and February belong to the year before, counted from March. -/
theorem ofMarchYear_year {month : Int} (bounds : 0 ≤ month ∧ month ≤ 11) :
    let civil := if month < 10 then month + 3 else month - 9
    (if civil.toNat ≤ 2 then (year + if civil ≤ 2 then 1 else 0) - 1
      else year + if civil ≤ 2 then 1 else 0) = year := by
  -- The first ten months are those from March to December.
  by_cases early : month < 10
  · simp only [early, if_true]
    rw [if_neg (by omega), if_neg (by omega)]
    omega
  · simp only [early, if_false]
    -- The last two are January and February, which civil years start with.
    rw [if_pos (by omega), if_pos (by omega)]
    omega

/-- The day of a year that starts in March is found again from its date. -/
theorem toDays_ofMarchYear (low : 0 ≤ day) (high : day ≤ 365) :
    (ofMarchYear year day).toDays = daysBefore year + day - 719468 := by
  -- The month is named, so that its bounds are all that is known of it.
  obtain ⟨month, named⟩ : ∃ month, (5 * day + 2) / 153 = month := ⟨_, rfl⟩
  have bounds : 0 ≤ month ∧ month ≤ 11 := by omega
  have dayOfMonth : ((day - (153 * month + 2) / 5 + 1).toNat : Int) =
      day - (153 * month + 2) / 5 + 1 := Int.toNat_of_nonneg (by omega)
  simp only [ofMarchYear, toDays, named]
  rw [ofMarchYear_year bounds, dayOfMonth, ofMarchYear_month bounds, ← daysBefore_era]
  omega

/-- The calendar has every day of a year that starts in March. -/
theorem onCalendar_ofMarchYear (low : 0 ≤ day)
    (high : day ≤ 364 ∨ day = 365 ∧ isLeapYear (year + 1)) : (ofMarchYear year day).OnCalendar := by
  obtain ⟨month, named⟩ : ∃ month, (5 * day + 2) / 153 = month := ⟨_, rfl⟩
  have bounds : 0 ≤ month ∧ month ≤ 11 := by omega
  -- Either way of counting on from March or back to January stays among the twelve months.
  have monthLow : 1 ≤ (ofMarchYear year day).month ∧ (ofMarchYear year day).month ≤ 12 := by
    simp only [ofMarchYear, named]
    split <;> omega
  -- A month starts on the day after the ones before it end.
  have dayLow : 1 ≤ (ofMarchYear year day).day := by
    simp only [ofMarchYear, named]
    omega
  refine ⟨monthLow, dayLow, ?_⟩
  simp only [ofMarchYear, named]
  by_cases february : month = 11
  · -- Only in February does the length of the month depend on the year.
    subst february
    rcases high with high | ⟨rfl, leap⟩
    · simp [daysInMonth]
      split <;> omega
    · simp [daysInMonth, leap]
  · -- The other months have their lengths whatever the year.
    have others : month = 0 ∨ month = 1 ∨ month = 2 ∨ month = 3 ∨ month = 4 ∨ month = 5 ∨
        month = 6 ∨ month = 7 ∨ month = 8 ∨ month = 9 ∨ month = 10 := by omega
    rcases others with rfl | rfl | rfl | rfl | rfl | rfl | rfl | rfl | rfl | rfl | rfl <;>
      simp [daysInMonth] <;> omega

end MarchYear

/-- The day of a date is found again from the date. -/
theorem toDays_ofDays (days : Int) : (ofDays days).toDays = days := by
  obtain ⟨year, day, same, whole, low, high⟩ := ofDays_eq days
  -- The date is one of a year from March, of which the day is known.
  rw [same, toDays_ofMarchYear low (by omega)]
  exact whole.symm

/-- The calendar has the date of every day. -/
theorem onCalendar_ofDays (days : Int) : (ofDays days).OnCalendar := by
  obtain ⟨year, day, same, _, low, high⟩ := ofDays_eq days
  rw [same]
  exact onCalendar_ofMarchYear low high

/-- The date of every day within the years of dates is valid. -/
theorem isValid_ofDays {days : Int} (least : leastYear ≤ (ofDays days).year)
    (greatest : (ofDays days).year ≤ greatestYear) : (ofDays days).isValid :=
  (isValid_iff _).mpr ⟨⟨least, greatest⟩, onCalendar_ofDays days⟩

/-- No month has more than thirty-one days. -/
theorem daysInMonth_le (year : Int) (month : Nat) : daysInMonth year month ≤ 31 := by
  unfold daysInMonth
  split
  · split <;> omega
  · split <;> omega

end Date

namespace CivilTime

/-- The time of day of an instant is one that a day may have. -/
theorem clock_isValid_ofInstant (instant : Instant) : (ofInstant instant).clock.isValid := by
  have nanos := instant.valid.1
  -- All parts but the second are remainders, which are below what they are divided by.
  have hour : (ofInstant instant).clock.hour ≤ 23 := by
    simp only [ofInstant, ofParts]
    omega
  have minute : (ofInstant instant).clock.minute ≤ 59 := by
    simp only [ofInstant, ofParts]
    omega
  -- A leap second is the sixtieth, with its fraction cut by a second.
  have second : (ofInstant instant).clock.second ≤ 60 := by
    simp only [ofInstant, ofParts]
    split <;> omega
  have fraction : (ofInstant instant).clock.nanos < Instant.billion := by
    have size : Instant.billion = 1000000000 := rfl
    simp only [ofInstant, ofParts]
    split <;> omega
  simp [Clock.isValid, hour, minute, second, fraction]

/-- The parts of an instant make it up. -/
theorem ofParts?_self (instant : Instant) :
    Instant.ofParts? instant.seconds instant.nanos = some instant := by
  rw [Instant.ofParts?, dif_pos instant.valid]

/-- An instant is found again from its civil time. -/
theorem toInstant?_ofInstant (instant : Instant) :
    (ofInstant instant).toInstant? 0 = some instant := by
  have valid := instant.valid
  rw [← ofParts?_self instant]
  simp only [ofInstant, ofParts, toInstant?, Date.toDays_ofDays, Instant.billion]
  by_cases leap : 1000000000 ≤ instant.nanos
  · -- A leap second is held under the fifty-ninth second of its minute.
    have last : (instant.seconds % 86400).toNat % 60 = 59 := by omega
    simp only [leap, last, if_true]
    congr 1 <;> omega
  · -- No second but a leap second is shown as the sixtieth.
    have plain : (instant.seconds % 86400).toNat % 60 ≠ 60 := by omega
    simp only [leap, plain, if_false]
    congr 1
    omega

end CivilTime

end LiveBoard
