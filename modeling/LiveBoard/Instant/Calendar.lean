import LiveBoard.Instant.Basic

/-! Civil dates and times of day, and their instants. -/

namespace LiveBoard

/-- A date of the proleptic Gregorian calendar. -/
structure Date where
  year : Int
  month : Nat
  day : Nat
  deriving DecidableEq

namespace Date

/-- Whether a year has a twenty-ninth of February. -/
def isLeapYear (year : Int) : Bool :=
  year % 4 == 0 && (year % 100 != 0 || year % 400 == 0)

/-- The number of days of a month. -/
def daysInMonth (year : Int) (month : Nat) : Nat :=
  if month = 2 then if isLeapYear year then 29 else 28
  else if month = 4 ∨ month = 6 ∨ month = 9 ∨ month = 11 then 30
  else 31

/-- The years that dates may lie in. -/
def leastYear : Int := -262143
def greatestYear : Int := 262142

/-- Whether the calendar has this date. -/
def isValid (date : Date) : Bool :=
  leastYear ≤ date.year && date.year ≤ greatestYear &&
  1 ≤ date.month && date.month ≤ 12 &&
  1 ≤ date.day && date.day ≤ daysInMonth date.year date.month

/--
The number of days from the first of January 1970.

Years are counted from March, so that the leap day is the last of its year.
-/
def toDays (date : Date) : Int :=
  let year := if date.month ≤ 2 then date.year - 1 else date.year
  let era := year / 400
  let yearOfEra := year % 400
  -- Five months from March on have 153 days, and so have the next five.
  let monthFromMarch : Int := (date.month + 9) % 12
  let dayOfYear := (153 * monthFromMarch + 2) / 5 + date.day - 1
  let dayOfEra := yearOfEra * 365 + yearOfEra / 4 - yearOfEra / 100 + dayOfYear
  era * 146097 + dayOfEra - 719468

/-- The date that is a number of days from the first of January 1970. -/
def ofDays (days : Int) : Date :=
  -- The first of March of the year zero is so many days before 1970.
  let shifted := days + 719468
  let era := shifted / 146097
  let dayOfEra := shifted % 146097
  -- Without the leap days that have passed, all years have the same length.
  let yearOfEra := (dayOfEra - dayOfEra / 1460 + dayOfEra / 36524 - dayOfEra / 146096) / 365
  let dayOfYear := dayOfEra - (365 * yearOfEra + yearOfEra / 4 - yearOfEra / 100)
  let monthFromMarch := (5 * dayOfYear + 2) / 153
  let day := dayOfYear - (153 * monthFromMarch + 2) / 5 + 1
  let month := if monthFromMarch < 10 then monthFromMarch + 3 else monthFromMarch - 9
  let year := yearOfEra + era * 400 + if month ≤ 2 then 1 else 0
  ⟨year, month.toNat, day.toNat⟩

end Date

/-- A time of day; the sixtieth second of a minute is a leap second. -/
structure Clock where
  hour : Nat
  minute : Nat
  second : Nat
  nanos : Nat
  deriving DecidableEq

namespace Clock

/-- Whether a day may have this time. -/
def isValid (clock : Clock) : Bool :=
  clock.hour ≤ 23 && clock.minute ≤ 59 && clock.second ≤ 60 && clock.nanos < Instant.billion

end Clock

/-- A date with a time of day. -/
structure CivilTime where
  date : Date
  clock : Clock
  deriving DecidableEq

namespace CivilTime

/-- Whether both parts are valid. -/
def isValid (civil : CivilTime) : Bool :=
  civil.date.isValid && civil.clock.isValid

/-- The instant of a civil time that is `offset` seconds ahead of universal time. -/
def toInstant? (civil : CivilTime) (offset : Int) : Option Instant :=
  let clock := civil.clock
  -- A leap second is held under the second before it.
  let leap := clock.second = 60
  let second := if leap then 59 else clock.second
  let nanos := if leap then clock.nanos + Instant.billion else clock.nanos
  Instant.ofParts?
    (civil.date.toDays * 86400 +
      (clock.hour * 3600 + clock.minute * 60 + second : Nat) - offset) nanos

/-- The civil time that so many seconds from the start of 1970 make up with nanoseconds. -/
def ofParts (seconds : Int) (nanos : Nat) : CivilTime :=
  let inDay := (seconds % 86400).toNat
  let second := inDay % 60
  -- A leap second shows as the second after the one it is held under.
  let leap := Instant.billion ≤ nanos
  ⟨Date.ofDays (seconds / 86400),
    ⟨inDay / 3600, inDay / 60 % 60, if leap then second + 1 else second,
      if leap then nanos - Instant.billion else nanos⟩⟩

/-- The civil time of an instant in universal time. -/
def ofInstant (instant : Instant) : CivilTime := ofParts instant.seconds instant.nanos

end CivilTime

/-- The clocks of a place, which may be put forward and back in the course of time. -/
structure TimeZone where
  /-- How many seconds the clocks are ahead of universal time. -/
  ahead : Instant → Int
  /-- No clock is a whole day ahead or behind. -/
  inDay : ∀ instant, -86400 < ahead instant ∧ ahead instant < 86400

namespace TimeZone

/-- The clocks that show universal time. -/
def utc : TimeZone := ⟨fun _ => 0, by simp⟩

/-- The civil time that the clocks show at an instant. -/
def civil (zone : TimeZone) (instant : Instant) : CivilTime :=
  .ofParts (instant.seconds + zone.ahead instant) instant.nanos

end TimeZone

end LiveBoard
