/-! Sets of characters listed as ranges of code points. -/

namespace LiveBoard.Text

/-- The number that a text writes in hexadecimal capitals. -/
def hexValue (digits : List Char) : Nat :=
  digits.foldl (fun value c =>
    16 * value + if c.isDigit then c.toNat - '0'.toNat else c.toNat - 'A'.toNat + 10) 0

/-- A range of code points, both ends included, with what is said of its members. -/
structure Range (α : Type) where
  first : Nat
  last : Nat
  value : α

/-- Ranges in ascending order, none touching another. -/
abbrev Ranges (α : Type) := Array (Range α)

namespace Ranges

/-- A range written `first-last`, or as one code point that is both of its ends. -/
def ends (chars : List Char) : Nat × Nat :=
  match chars.span (· != '-') with
  | (first, []) => (hexValue first, hexValue first)
  | (first, _ :: last) => (hexValue first, hexValue last)

/-- The words of lines, with spaces between them. -/
def words (lines : List String) : List (List Char) :=
  (lines.flatMap fun line => line.toList.splitOn ' ').filter (!·.isEmpty)

/-- The ranges of a set, written in ascending order. -/
def ofLines (lines : List String) : Ranges Unit :=
  ((words lines).map fun word => let (first, last) := ends word; ⟨first, last, ()⟩).toArray

/-- The ranges of a map, written in ascending order, each with a colon and its value. -/
def ofEntries {α : Type} (value : List Char → α) (lines : List String) : Ranges α :=
  ((words lines).map fun word =>
    let (range, rest) := word.span (· != ':')
    let (first, last) := ends range
    ⟨first, last, value (rest.drop 1)⟩).toArray

/-- Halve the interval of candidates until one is left. -/
def search {α : Type} (ranges : Ranges α) (point low high : Nat) : Option (Range α) :=
  if _ : low + 1 < high then
    let middle := (low + high) / 2
    -- As ranges ascend and do not touch, the start of one in the middle says on which side to go
    -- on.
    match ranges[middle]? with
    | none => none
    | some range =>
      if point < range.first then search ranges point low middle
      else search ranges point middle high
  else
    match ranges[low]? with
    | none => none
    | some range => if range.first ≤ point ∧ point ≤ range.last then some range else none
termination_by high - low

/-- The range that a code point lies in. -/
def range? {α : Type} (ranges : Ranges α) (point : Nat) : Option (Range α) :=
  search ranges point 0 ranges.size

/-- What is said of a code point, if it lies in one of the ranges. -/
def get? {α : Type} (ranges : Ranges α) (point : Nat) : Option α :=
  (ranges.range? point).map Range.value

/-- Whether a code point lies in one of the ranges. -/
def contains {α : Type} (ranges : Ranges α) (point : Nat) : Bool :=
  (ranges.range? point).isSome

end Ranges

end LiveBoard.Text
