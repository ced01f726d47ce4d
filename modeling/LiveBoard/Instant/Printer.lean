import LiveBoard.Instant.Calendar

/-! Writing instants, in full or for a reader of the board. -/

namespace LiveBoard.Instant

/-- Decimal digits of a number, with zeros in front up to a width. -/
def padded (width n : Nat) : List Char :=
  let digits := Nat.toDigits 10 n
  List.replicate (width - digits.length) '0' ++ digits

/-- A year in four digits, or with a sign when four digits do not hold it. -/
def renderYear (year : Int) : List Char :=
  -- Only years of four digits are read again without a sign.
  if 0 ≤ year ∧ year ≤ 9999 then padded 4 year.toNat
  else (if year < 0 then '-' else '+') :: padded 4 year.natAbs

/-- The fraction of a second in none, three, six or nine digits, the fewest that lose nothing. -/
def renderFraction (nanos : Nat) : List Char :=
  if nanos = 0 then []
  -- Milliseconds are tried first, then microseconds.
  else if nanos % 1000000 = 0 then '.' :: padded 3 (nanos / 1000000)
  else if nanos % 1000 = 0 then '.' :: padded 6 (nanos / 1000)
  else '.' :: padded 9 nanos

/-- A civil time in universal time. -/
def renderCivil (civil : CivilTime) : List Char :=
  let date := civil.date
  let clock := civil.clock
  renderYear date.year ++ '-' :: padded 2 date.month ++ '-' :: padded 2 date.day ++
    'T' :: padded 2 clock.hour ++ ':' :: padded 2 clock.minute ++ ':' :: padded 2 clock.second ++
    renderFraction clock.nanos ++ ['Z']

/-- The text of an instant in universal time. -/
def render (instant : Instant) : String :=
  String.ofList (renderCivil (CivilTime.ofInstant instant))

/-- The short name of a month. -/
def monthName : Nat → String
  | 1 => "Jan"
  | 2 => "Feb"
  | 3 => "Mar"
  | 4 => "Apr"
  | 5 => "May"
  | 6 => "Jun"
  | 7 => "Jul"
  | 8 => "Aug"
  | 9 => "Sep"
  | 10 => "Oct"
  | 11 => "Nov"
  | _ => "Dec"

/-- The month, day, hour and minute that the clocks of a place show, as the board prints them. -/
def display (instant : Instant) (zone : TimeZone := .utc) : String :=
  let civil := zone.civil instant
  monthName civil.date.month ++ " " ++ toString civil.date.day ++ ", " ++
    String.ofList (padded 2 civil.clock.hour ++ ':' :: padded 2 civil.clock.minute)

end LiveBoard.Instant
