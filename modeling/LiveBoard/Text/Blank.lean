/-! White space as the Unicode property of that name lists it, and trimming by it. -/

namespace LiveBoard.Text

/-- The characters that carry the Unicode property White_Space. -/
def isBlank (c : Char) : Bool :=
  let n := c.toNat
  -- The control characters from tab to carriage return, and the two ASCII and Latin-1 spaces.
  (0x9 ≤ n && n ≤ 0xD) || n == 0x20 || n == 0x85 || n == 0xA0 ||
  -- The spaces of fixed width, the two separators and the remaining single spaces.
  n == 0x1680 || (0x2000 ≤ n && n ≤ 0x200A) || n == 0x2028 || n == 0x2029 || n == 0x202F ||
  n == 0x205F || n == 0x3000

/-- Letters and digits are three runs of characters. -/
theorem toNat_of_isAlphanum {c : Char} (sound : c.isAlphanum) : 48 ≤ c.toNat ∧ c.toNat ≤ 57 ∨
    65 ≤ c.toNat ∧ c.toNat ≤ 90 ∨ 97 ≤ c.toNat ∧ c.toNat ≤ 122 := by
  have runs : (c.isUpper || c.isLower || c.isDigit) = true := sound
  rw [Bool.or_eq_true, Bool.or_eq_true] at runs
  rcases runs with (capital | small) | digit
  · exact .inr (.inl (decide_eq_true_iff.mp capital))
  · have bounds := (Bool.and_eq_true_iff.mp small).imp of_decide_eq_true of_decide_eq_true
    exact .inr (.inr bounds)
  · simp only [Char.isDigit, Bool.and_eq_true, decide_eq_true_eq] at digit
    exact .inl digit

/-- A letter or a digit is not white space. -/
theorem isBlank_of_isAlphanum {c : Char} (sound : c.isAlphanum) : isBlank c = false := by
  have range := toNat_of_isAlphanum sound
  simp only [isBlank, Bool.or_eq_false_iff, Bool.and_eq_false_iff, decide_eq_false_iff_not,
    beq_eq_false_iff_ne]
  omega

/-- Drop white space from both ends of a list of characters. -/
def trimChars (chars : List Char) : List Char :=
  ((chars.dropWhile isBlank).reverse.dropWhile isBlank).reverse

/-- A text that starts and ends in other characters than white space has nothing to trim. -/
theorem trimChars_of_ends {first last : Char} {inner : List Char} (start : isBlank first = false)
    (finish : isBlank last = false) :
    trimChars (first :: (inner ++ [last])) = first :: (inner ++ [last]) := by
  simp [trimChars, start, finish]

/-- Drop white space from both ends of a text. -/
def trim (text : String) : String :=
  String.ofList (trimChars text.toList)

/-- Trimmed text, or nothing when only white space remains. -/
def nonBlank (text : String) : Option String :=
  let trimmed := trim text
  if trimmed.isEmpty then none else some trimmed

end LiveBoard.Text
