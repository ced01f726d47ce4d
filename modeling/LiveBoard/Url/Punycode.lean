/-!
Names of any script written in letters, digits and hyphens of ASCII.

The characters outside of ASCII are told by the steps that lead to each of them, in ascending order,
and the steps are written in digits whose weights follow the size of the steps before.
-/

namespace LiveBoard.Url.Punycode

/-- Whether a character is one of ASCII. -/
def isAscii (c : Char) : Bool := c.toNat < 0x80

/-- What holds of each code point of ASCII holds of every character of it. -/
theorem forall_isAscii {holds : Char → Prop} (each : ∀ n < 0x80, holds (Char.ofNat n)) :
    ∀ c, isAscii c → holds c := by
  intro c ascii
  have found := each c.toNat (of_decide_eq_true ascii)
  rwa [Char.ofNat_toNat] at found

/-- The digit of a number below thirty-six; letters come before decimal digits. -/
def digit (value : Nat) : Char :=
  Char.ofNat (if value < 26 then 'a'.toNat + value else '0'.toNat + (value - 26))

/-- The least digit by which a number goes on at a place. -/
def threshold (bias place : Nat) : Nat := max 1 (min 26 (place - bias))

/-- A number in digits from a place on, the last of which is below the threshold of its place. -/
def digits (bias place rest : Nat) : List Char :=
  let least := threshold bias place
  if rest < least then [digit rest]
  else
    digit (least + (rest - least) % (36 - least)) ::
      digits bias (place + 36) ((rest - least) / (36 - least))
termination_by rest
decreasing_by
  -- A threshold is at least one, so that what is left gets smaller even before it is divided.
  have positive : 1 ≤ threshold bias place := Nat.le_max_left ..
  have smaller := Nat.div_le_self (rest - threshold bias place) (36 - threshold bias place)
  omega

/-- The bias that goes with a size of steps. -/
def biasOf (places size : Nat) : Nat :=
  if 455 < size then biasOf (places + 36) (size / 35) else places + 36 * size / (size + 38)
termination_by size
decreasing_by omega

/-- The bias after a step, when so many characters have been told. -/
def adapted (step told : Nat) (first : Bool) : Nat :=
  -- The first step starts from the end of ASCII, and is much longer than those to come.
  let size := if first then step / 700 else step / 2
  biasOf 0 (size + size / told)

/-- What has been written of a name, with what the next step goes by. -/
structure Progress where
  written : List Char
  step : Nat
  bias : Nat
  told : Nat

/-- Pass one character of a name while those of a code point are told. -/
def Progress.pass (basic point : Nat) (progress : Progress) (c : Char) : Progress :=
  if c.toNat < point then { progress with step := progress.step + 1 }
  else if c.toNat = point then
    { written := progress.written ++ digits progress.bias 36 progress.step
      step := 0
      bias := adapted progress.step (progress.told + 1) (progress.told = basic)
      told := progress.told + 1 }
  else progress

/-- Tell all characters of a name that have one of the code points, which ascend from `next` on. -/
def tell (name : List Char) (basic next : Nat) (progress : Progress) : List Nat → List Char
  | [] => progress.written
  | point :: points =>
    -- A code point that is passed over could have stood at each place between those told so far.
    let skipped := progress.step + (point - next) * (progress.told + 1)
    let passed := name.foldl (Progress.pass basic point) { progress with step := skipped }
    tell name basic (point + 1) { passed with step := passed.step + 1 } points

/-- A name in ASCII: the characters of it that it holds, and behind a hyphen what tells others. -/
def encode (name : List Char) : List Char :=
  let basic := name.filter isAscii
  -- A code point is told once, and with it all places where it stands.
  let others := ((name.filter (!isAscii ·)).map Char.toNat).mergeSort.eraseDups
  let front := if basic.isEmpty then [] else basic ++ ['-']
  tell name basic.length 0x80 ⟨front, 0, 72, basic.length⟩ others

end LiveBoard.Url.Punycode
