import LiveBoard.Proofs.Instant.Calendar
import Mathlib.Tactic.Ring

/-!
Dates follow each other as days do, and a clock that is moved carries over to them.

Every date of the calendar is the date of one day, so a valid civil time is that of one instant.
-/

namespace LiveBoard

namespace Date

/-! ## The day of a date -/

/-- A year that starts in March has a day more when it ends in a leap year. -/
theorem daysBefore_succ (year : Int) :
    daysBefore (year + 1) = daysBefore year + if isLeapYear (year + 1) then 366 else 365 := by
  -- Each quotient grows just in the years that it counts.
  have quads : (year + 1) / 4 = year / 4 + if (year + 1) % 4 = 0 then 1 else 0 := by
    split <;> omega
  have cents : (year + 1) / 100 = year / 100 + if (year + 1) % 100 = 0 then 1 else 0 := by
    split <;> omega
  have eras : (year + 1) / 400 = year / 400 + if (year + 1) % 400 = 0 then 1 else 0 := by
    split <;> omega
  rw [daysBefore, daysBefore, quads, cents, eras]
  simp only [isLeapYear, Bool.and_eq_true, Bool.or_eq_true, beq_iff_eq, bne_iff_ne]
  split <;> split <;> split <;> split <;> omega

/-- Later years have no fewer days before them. -/
theorem daysBefore_mono {year later : Int} (order : year ≤ later) :
    daysBefore year ≤ daysBefore later := by
  -- Every year has days, so that there are more of them before the next one.
  induction later, order using Int.leInduction with
  | base => exact Int.le_refl _
  | succ later _ ih =>
    rw [daysBefore_succ]
    split <;> omega

section MarchYear

variable {year other day same : Int}

/-- A day of a year is not before a year that has no more days before it. -/
theorem le_of_daysBefore (high : day ≤ 364 ∨ day = 365 ∧ isLeapYear (year + 1)) (low : 0 ≤ same)
    (equal : daysBefore year + day = daysBefore other + same) : other ≤ year := by
  -- All days of an earlier year are over before the later one starts.
  by_contra before
  have later := daysBefore_mono (show year + 1 ≤ other by omega)
  rw [daysBefore_succ] at later
  rcases high with high | ⟨last, leap⟩
  · split at later <;> omega
  · rw [if_pos leap] at later
    omega

/-- A day lies in one year that starts in March. -/
theorem marchYear_unique (low : 0 ≤ day) (high : day ≤ 364 ∨ day = 365 ∧ isLeapYear (year + 1))
    (low' : 0 ≤ same) (high' : same ≤ 364 ∨ same = 365 ∧ isLeapYear (other + 1))
    (equal : daysBefore year + day = daysBefore other + same) : year = other ∧ day = same := by
  -- Neither year is before the other, and then the days are the same as well.
  have first := le_of_daysBefore high low' equal
  have second := le_of_daysBefore high' low equal.symm
  obtain rfl : year = other := by omega
  exact ⟨rfl, by omega⟩

end MarchYear

/-- A year has twelve months. -/
theorem months {month : Nat} (low : 1 ≤ month) (high : month ≤ 12) :
    month = 1 ∨ month = 2 ∨ month = 3 ∨ month = 4 ∨ month = 5 ∨ month = 6 ∨
      month = 7 ∨ month = 8 ∨ month = 9 ∨ month = 10 ∨ month = 11 ∨ month = 12 := by
  omega

/-- Four months have thirty days. -/
theorem daysInMonth_short (year : Int) {month : Nat}
    (short : month = 4 ∨ month = 6 ∨ month = 9 ∨ month = 11) : daysInMonth year month = 30 := by
  rw [daysInMonth, if_neg (by omega), if_pos short]

/-- February has twenty-eight days, and one more in a leap year. -/
theorem daysInMonth_february (year : Int) :
    daysInMonth year 2 = if isLeapYear year then 29 else 28 := rfl

/-- Every date of the calendar is a day of a year that starts in March. -/
theorem OnCalendar.exists_marchYear {date : Date} (valid : date.OnCalendar) :
    ∃ year day : Int, date = ofMarchYear year day ∧ 0 ≤ day ∧
      (day ≤ 364 ∨ day = 365 ∧ isLeapYear (year + 1)) := by
  obtain ⟨year, month, day⟩ := date
  obtain ⟨⟨monthLow, monthHigh⟩, dayLow, dayHigh⟩ := valid
  dsimp only at monthLow monthHigh dayLow dayHigh
  have long := dayHigh.trans (daysInMonth_le year month)
  -- The lengths of months are all that is asked of the calendar below.
  have short (month_eq : month = 4 ∨ month = 6 ∨ month = 9 ∨ month = 11) : day ≤ 30 :=
    daysInMonth_short year month_eq ▸ dayHigh
  have february (month_eq : month = 2) : day ≤ 28 ∨ day = 29 ∧ isLeapYear year := by
    rw [month_eq, daysInMonth_february] at dayHigh
    split at dayHigh
    · rename_i leap
      exact (Nat.lt_or_eq_of_le dayHigh).imp Nat.le_of_lt_succ fun last => ⟨last, leap⟩
    · exact .inl dayHigh
  -- The months that January and February follow are of the year before.
  obtain ⟨fromMarch, counted⟩ : ∃ fromMarch : Int,
      month ≤ 2 ∧ fromMarch = month + 9 ∨ 3 ≤ month ∧ fromMarch = month - 3 := by
    by_cases early : month ≤ 2
    · exact ⟨month + 9, .inl ⟨early, rfl⟩⟩
    · exact ⟨month - 3, .inr ⟨by omega, rfl⟩⟩
  -- The months before this one have so many days that the division tells how many they are.
  have found : (5 * ((153 * fromMarch + 2) / 5 + day - 1) + 2) / 153 = fromMarch := by
    rcases months monthLow monthHigh with
      rfl | rfl | rfl | rfl | rfl | rfl | rfl | rfl | rfl | rfl | rfl | rfl <;> omega
  refine ⟨if month ≤ 2 then year - 1 else year, (153 * fromMarch + 2) / 5 + day - 1, ?_,
    by omega, ?_⟩
  · -- Counted from January again, month and year are those of the date.
    simp only [ofMarchYear, found, Date.mk.injEq]
    rcases counted with ⟨early, rfl⟩ | ⟨late, rfl⟩
    · have inner : ¬ (month + 9 : Int) < 10 := by omega
      have civil : (month + 9 - 9 : Int) ≤ 2 := by omega
      simp only [early, inner, civil, if_true, if_false]
      omega
    · have early : ¬ month ≤ 2 := by omega
      have inner : (month - 3 : Int) < 10 := by omega
      have civil : ¬ (month - 3 + 3 : Int) ≤ 2 := by omega
      simp only [early, inner, civil, if_true, if_false]
      omega
  · -- Only the end of February is the last day of such a year.
    by_cases last : month = 2
    · rw [if_pos (by omega), sub_add_cancel]
      exact (february last).imp (fun few => by omega) (And.imp_left fun extra => by omega)
    · exact .inl (by omega)

/-- A date is found again from its day. -/
theorem ofDays_toDays {date : Date} (valid : date.OnCalendar) : ofDays date.toDays = date := by
  obtain ⟨year, day, rfl, low, high⟩ := valid.exists_marchYear
  -- The date of that day is of a year from March as well, and these hold no day twice.
  obtain ⟨other, same, found, whole, low', high'⟩ := ofDays_eq (ofMarchYear year day).toDays
  rw [toDays_ofMarchYear low (by omega)] at whole
  obtain ⟨rfl, rfl⟩ := marchYear_unique low high low' high' (by omega)
  exact found

/-! ## From day to day -/

/-- The date after another one. -/
def next (date : Date) : Date :=
  if date.day < daysInMonth date.year date.month then ⟨date.year, date.month, date.day + 1⟩
  else if date.month < 12 then ⟨date.year, date.month + 1, 1⟩
  else ⟨date.year + 1, 1, 1⟩

/-- The date before another one. -/
def previous (date : Date) : Date :=
  if 1 < date.day then ⟨date.year, date.month, date.day - 1⟩
  else if 1 < date.month then
    ⟨date.year, date.month - 1, daysInMonth date.year (date.month - 1)⟩
  else ⟨date.year - 1, 12, 31⟩

/-- Every month has a first day. -/
theorem one_le_daysInMonth (year : Int) (month : Nat) : 1 ≤ daysInMonth year month := by
  unfold daysInMonth
  split
  · split <;> omega
  · split <;> omega

/-- The date after one of the calendar is on the calendar. -/
theorem OnCalendar.next {date : Date} (valid : date.OnCalendar) : date.next.OnCalendar := by
  obtain ⟨⟨low, high⟩, first, last⟩ := valid
  unfold Date.next
  split
  · -- There is a day left in the month.
    exact ⟨⟨low, high⟩, by simp, by simpa⟩
  · split
    · rename_i more
      -- A month that is over is followed by the first of the next one.
      exact ⟨⟨by simp, more⟩, Nat.le_refl 1, one_le_daysInMonth _ _⟩
    · -- So is a year.
      exact ⟨⟨Nat.le_refl 1, by simp⟩, Nat.le_refl 1, one_le_daysInMonth _ _⟩

/-- The date before the one after a date is that date. -/
theorem OnCalendar.previous_next {date : Date} (valid : date.OnCalendar) :
    date.next.previous = date := by
  obtain ⟨year, month, day⟩ := date
  obtain ⟨⟨low, high⟩, first, last⟩ := valid
  dsimp only at low high first last
  simp only [Date.next]
  split
  · -- Within a month a day goes on and back.
    simp [previous, show 0 < day by omega]
  · rename_i whole
    obtain rfl : day = daysInMonth year month := by omega
    -- On the last day of a month, going back from the next one comes to its length again.
    split
    · simp [previous, show 0 < month by omega]
    · obtain rfl : month = 12 := by omega
      -- The year before ends in December.
      simp [previous, daysInMonth]

/-- The days of a date are those before its year and those before it in the year. -/
theorem toDays_eq (date : Date) :
    date.toDays = daysBefore (if date.month ≤ 2 then date.year - 1 else date.year) +
      ((153 * ((date.month + 9) % 12 : Int) + 2) / 5 + date.day - 1) - 719468 := by
  rw [← daysBefore_era, toDays]
  -- Days are counted by eras there, and by years here.
  omega

/-- From one date to the next the number of days grows by one. -/
theorem OnCalendar.toDays_next {date : Date} (valid : date.OnCalendar) :
    date.next.toDays = date.toDays + 1 := by
  obtain ⟨year, month, day⟩ := date
  obtain ⟨⟨low, high⟩, first, last⟩ := valid
  dsimp only at low high first last
  simp only [Date.next, toDays_eq]
  split
  · push_cast
    omega
  · rename_i whole
    obtain rfl : day = daysInMonth year month := by omega
    have leap := daysBefore_succ (year - 1)
    rw [sub_add_cancel] at leap
    -- Only what follows February goes by the year, which starts behind it.
    rcases months low high with
      rfl | rfl | rfl | rfl | rfl | rfl | rfl | rfl | rfl | rfl | rfl | rfl <;>
      simp [daysInMonth, leap] <;> first | omega | (split <;> omega)

/-- The date of the day after is the date after. -/
theorem ofDays_succ (days : Int) : ofDays (days + 1) = (ofDays days).next := by
  have valid := onCalendar_ofDays days
  -- Dates and days are in one-to-one correspondence, and the day of the next date is the next day.
  have grown := valid.toDays_next
  rw [toDays_ofDays] at grown
  rw [← grown, ofDays_toDays valid.next]

/-- The date of the day before is the date before. -/
theorem ofDays_pred (days : Int) : ofDays (days - 1) = (ofDays days).previous := by
  -- The date of the day before is the one that this date comes after.
  have after := ofDays_succ (days - 1)
  rw [sub_add_cancel] at after
  rw [after, (onCalendar_ofDays (days - 1)).previous_next]

end Date

/-! ## Moving a clock -/

namespace Instant

/-- The instant so many minutes later, or earlier if they are negative. -/
def moved (minutes : Int) (instant : Instant) : Instant where
  seconds := instant.seconds + 60 * minutes
  nanos := instant.nanos
  -- Whole minutes leave a leap second at the end of its minute.
  valid := by
    have valid := instant.valid
    omega

/-- Seconds that are moved by whole minutes have the instant that is moved. -/
theorem ofParts?_moved (seconds minutes : Int) (nanos : Nat) :
    ofParts? (seconds + 60 * minutes) nanos = (ofParts? seconds nanos).map (moved minutes) := by
  unfold ofParts?
  by_cases valid : nanos < 2000000000 ∧ (1000000000 ≤ nanos → seconds % 60 = 59)
  · -- Whole minutes leave the second within its minute, on which alone it depends what is valid.
    rw [dif_pos valid, dif_pos (by omega)]
    rfl
  · rw [dif_neg valid, dif_neg (by omega)]
    rfl

end Instant

namespace CivilTime

/-- The civil time so many minutes later or earlier, less than a day away. -/
def carry (minutes : Int) (civil : CivilTime) : CivilTime :=
  let inDay : Int := civil.clock.hour * 60 + civil.clock.minute + minutes
  ⟨if inDay < 0 then civil.date.previous
    else if inDay < 1440 then civil.date
    else civil.date.next,
    { civil.clock with hour := (inDay % 1440 / 60).toNat, minute := (inDay % 60).toNat }⟩

/-- An instant that is moved has the civil time that is carried over. -/
theorem ofInstant_moved (instant : Instant) {minutes : Int} (low : -1440 < minutes)
    (high : minutes < 1440) :
    ofInstant (instant.moved minutes) = (ofInstant instant).carry minutes := by
  obtain ⟨seconds, nanos, valid⟩ := instant
  -- The minutes of the day are counted from its start.
  have inDay : (((seconds % 86400).toNat / 3600 : Nat) : Int) * 60 +
      ((seconds % 86400).toNat / 60 % 60 : Nat) = seconds % 86400 / 60 := by omega
  have date : Date.ofDays ((seconds + 60 * minutes) / 86400) =
      if seconds % 86400 / 60 + minutes < 0 then (Date.ofDays (seconds / 86400)).previous
      else if seconds % 86400 / 60 + minutes < 1440 then Date.ofDays (seconds / 86400)
      else (Date.ofDays (seconds / 86400)).next := by
    split
    · -- The clock goes back past midnight, and so does the date, by one day.
      rw [← Date.ofDays_pred]
      congr 1
      omega
    · split
      · congr 1
        omega
      · -- Here it goes on past midnight.
        rw [← Date.ofDays_succ]
        congr 1
        omega
  -- Hours and minutes come round with the day, and seconds are not touched.
  have hour : ((seconds + 60 * minutes) % 86400).toNat / 3600 =
      ((seconds % 86400 / 60 + minutes) % 1440 / 60).toNat := by omega
  have minute : ((seconds + 60 * minutes) % 86400).toNat / 60 % 60 =
      ((seconds % 86400 / 60 + minutes) % 60).toNat := by omega
  have second : ((seconds + 60 * minutes) % 86400).toNat % 60 = (seconds % 86400).toNat % 60 := by
    omega
  simp only [ofInstant, ofParts, Instant.moved, carry, inDay, date, hour, minute, second]
  rfl

example : carry 30 ⟨⟨2024, 2, 28⟩, ⟨23, 45, 0, 0⟩⟩ = ⟨⟨2024, 2, 29⟩, ⟨0, 15, 0, 0⟩⟩ := by decide

/-- A civil time that is ahead by whole minutes is of an instant that is moved back by them. -/
theorem toInstant?_ahead (civil : CivilTime) (minutes : Int) :
    civil.toInstant? (60 * minutes) = (civil.toInstant? 0).map (Instant.moved (-minutes)) := by
  simp only [toInstant?, ← Instant.ofParts?_moved]
  -- The seconds that a clock is ahead are taken off on the way to universal time.
  congr 1
  omega

/-! ## The instant of a civil time -/

/-- A valid civil time has an instant, of which it is the civil time. -/
theorem exists_toInstant? {civil : CivilTime} (valid : civil.isValid) :
    ∃ instant, civil.toInstant? 0 = some instant ∧ ofInstant instant = civil := by
  obtain ⟨date, ⟨hour, minute, second, nanos⟩⟩ := civil
  simp only [isValid, Clock.isValid, Bool.and_eq_true, decide_eq_true_eq] at valid
  obtain ⟨calendar, ⟨⟨hours, minutes⟩, seconds⟩, fraction⟩ := valid
  have size : Instant.billion = 1000000000 := rfl
  have found := Date.ofDays_toDays ((Date.isValid_iff date).mp calendar).2
  -- The seconds of the day are all that is to be found again beside the date.
  have whole {inDay : Nat} (short : inDay < 86400) :
      (date.toDays * 86400 + (inDay : Nat) - 0) / 86400 = date.toDays ∧
        ((date.toDays * 86400 + (inDay : Nat) - 0) % 86400).toNat = inDay := by omega
  by_cases leap : second = 60
  · -- A leap second is held under the second before, with a billion nanoseconds more.
    subst leap
    obtain ⟨days, inDay⟩ := whole (show hour * 3600 + minute * 60 + 59 < 86400 by omega)
    refine ⟨⟨date.toDays * 86400 + (hour * 3600 + minute * 60 + 59 : Nat) - 0,
      nanos + Instant.billion, by omega⟩, ?_, ?_⟩
    · rw [← ofParts?_self]
      rfl
    · simp only [ofInstant, ofParts, days, inDay, found, CivilTime.mk.injEq, Clock.mk.injEq,
        true_and]
      rw [if_pos (by omega), if_pos (by omega)]
      omega
  · -- Any other second is held as it is.
    obtain ⟨days, inDay⟩ := whole (show hour * 3600 + minute * 60 + second < 86400 by omega)
    refine ⟨⟨date.toDays * 86400 + (hour * 3600 + minute * 60 + second : Nat) - 0, nanos,
      by omega⟩, ?_, ?_⟩
    · rw [← ofParts?_self]
      simp only [toInstant?, leap, if_false]
    · simp only [ofInstant, ofParts, days, inDay, found, CivilTime.mk.injEq, Clock.mk.injEq,
        true_and]
      rw [if_neg (by omega), if_neg (by omega)]
      omega

/-- A valid civil time has one instant, the one of which it is the civil time. -/
theorem toInstant?_eq_some_iff {civil : CivilTime} (valid : civil.isValid) {instant : Instant} :
    civil.toInstant? 0 = some instant ↔ ofInstant instant = civil := by
  constructor
  · intro made
    obtain ⟨found, read, back⟩ := exists_toInstant? valid
    -- There is such an instant, and what is found is that one.
    rw [read] at made
    exact Option.some.inj made ▸ back
  · rintro rfl
    exact toInstant?_ofInstant instant

end CivilTime

/-! ## The clocks of a place -/

namespace TimeZone

/-- Clocks that are ahead by whole minutes show universal time carried over by them. -/
theorem civil_eq_carry (zone : TimeZone) (instant : Instant) {minutes : Int}
    (whole : zone.ahead instant = 60 * minutes) :
    zone.civil instant = (CivilTime.ofInstant instant).carry minutes := by
  -- No clock is a whole day ahead, so that the date is at most the next one or the one before.
  have inDay := zone.inDay instant
  rw [← CivilTime.ofInstant_moved instant (by omega) (by omega), civil, whole]
  rfl

end TimeZone

end LiveBoard
