/-! Instants of coordinated universal time, leap seconds included. -/

namespace LiveBoard

/--
An instant, as seconds since the start of 1970 and nanoseconds within the second.

A leap second is the second before it with a billion nanoseconds more, so it sorts after that second
and before the next.
-/
structure Instant where
  seconds : Int
  nanos : Nat
  /-- A second holds a billion nanoseconds, and the last one of a minute may hold as many again. -/
  valid : nanos < 2000000000 ∧ (1000000000 ≤ nanos → seconds % 60 = 59)
  deriving DecidableEq

namespace Instant

/-- The number of nanoseconds in a second. -/
def billion : Nat := 1000000000

instance : Inhabited Instant := ⟨⟨0, 0, by decide⟩⟩

/-- The instant of these parts, if a second holds so many nanoseconds. -/
def ofParts? (seconds : Int) (nanos : Nat) : Option Instant :=
  if valid : nanos < 2000000000 ∧ (1000000000 ≤ nanos → seconds % 60 = 59) then
    some ⟨seconds, nanos, valid⟩
  else none

/-- Whether an instant is no later than another. -/
def le (a b : Instant) : Bool :=
  -- The nanoseconds of a leap second go beyond a billion, so that it comes last of its second.
  a.seconds < b.seconds || (a.seconds == b.seconds && a.nanos ≤ b.nanos)

/-- The later of two instants. -/
def later (a b : Instant) : Instant := if a.le b then b else a

/-- The latest of a list of instants. -/
def latest? : List Instant → Option Instant
  | [] => none
  | first :: rest => some (rest.foldl later first)

/-- Every instant is no later than itself. -/
theorem le_refl (a : Instant) : a.le a = true := by
  simp [le]

/-- Of two instants, one is no later than the other. -/
theorem le_total (a b : Instant) : a.le b = true ∨ b.le a = true := by
  simp only [le, Bool.or_eq_true, Bool.and_eq_true, decide_eq_true_eq, beq_iff_eq]
  omega

/-- The order of instants is transitive. -/
theorem le_trans {a b c : Instant} (first : a.le b = true) (second : b.le c = true) :
    a.le c = true := by
  simp only [le, Bool.or_eq_true, Bool.and_eq_true, decide_eq_true_eq, beq_iff_eq] at *
  omega

/-- Instants that are no later than each other are the same. -/
theorem le_antisymm {a b : Instant} (first : a.le b = true) (second : b.le a = true) : a = b := by
  cases a
  cases b
  simp only [le, Bool.or_eq_true, Bool.and_eq_true, decide_eq_true_eq, beq_iff_eq,
    Instant.mk.injEq] at *
  omega

end Instant

end LiveBoard
