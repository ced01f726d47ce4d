import LiveBoard.Text.Alphanumeric
import LiveBoard.Text.Case
import LiveBoard.Url.Punycode

/-!
The form in which the names of hosts are looked up.

Which characters of other scripts are taken for one another, and which may stand in a name at all,
goes by tables of Unicode that are no part of the program. So the form of a name is taken from
outside, with what is known of it for names in ASCII.
-/

namespace LiveBoard.Url

/-- Characters that no domain holds. -/
def isForbidden (c : Char) : Bool :=
  c.toNat ≤ 0x20 || c.toNat = 0x7F || "#/:<>?@[\\]^|%".toList.contains c

/-- Whether a part of a domain stands for one in another script. -/
def isEncodedLabel (label : List Char) : Bool := (label.map Char.toLower).take 4 = "xn--".toList

/-- The form in which names of hosts are looked up. -/
structure HostMapping where
  /-- The form of a name, unless it is none of a host. -/
  toAscii? : List Char → Option (List Char)
  /-- A name in ASCII, none of it encoded, is put in lower case if it may stand in an address. -/
  ofAscii : ∀ name : List Char, (∀ c ∈ name, Punycode.isAscii c) →
    (∀ label ∈ name.splitOn '.', isEncodedLabel label = false) →
    toAscii? name = if name.any isForbidden then none else some (name.map Char.toLower)
  /-- Every form is in ASCII, and holds no character that is forbidden. -/
  sound : ∀ name form : List Char, toAscii? name = some form →
    ∀ c ∈ form, Punycode.isAscii c ∧ isForbidden c = false

/-! ## Names in letters and digits -/

/-- Characters of a domain that are passed over. -/
def isIgnored (c : Char) : Bool :=
  c = '\u00ad' || c = '\u034f' || c = '\u200b' || c = '\u2060' || c = '\ufeff' ||
    ('\ufe00' ≤ c && c ≤ '\ufe0f')

/-- A character of a domain in its usual form: all dots are one, and full forms are halved. -/
def foldWidth (c : Char) : Char :=
  if c = '\u3002' || c = '\uff61' then '.'
  else if '\uff01' ≤ c && c ≤ '\uff5e' then Char.ofNat (c.toNat - 0xFEE0)
  else c

/-- A domain in ASCII, in which each part in another script is encoded. -/
def encodeLabels (name : List Char) : List Char :=
  let encoded (label : List Char) : List Char :=
    if label.all Punycode.isAscii then label else "xn--".toList ++ Punycode.encode label
  if name.all Punycode.isAscii then name else ['.'].intercalate ((name.splitOn '.').map encoded)

/-- The form of a name that holds letters and digits of any script, besides what ASCII has. -/
def lettersToAscii? (name : List Char) : Option (List Char) :=
  let folded := ((name.filter (!isIgnored ·)).map foldWidth).flatMap Text.lowerChar
  let form := encodeLabels folded
  let named := folded.all fun c => Punycode.isAscii c || Text.isAlphanumeric c
  -- Forbidden characters may come about by folding, so they are looked for in the form itself.
  if named && form.all (fun c => Punycode.isAscii c && !isForbidden c) then some form else none

/-- A character of ASCII is only put in lower case, which is forbidden just if it is itself. -/
theorem fold_of_isAscii : ∀ c, Punycode.isAscii c →
    isIgnored c = false ∧ foldWidth c = c ∧ Punycode.isAscii c.toLower ∧
      isForbidden c.toLower = isForbidden c :=
  Punycode.forall_isAscii (by decide +kernel)

/-- A name in ASCII is looked up in lower case, unless it holds a forbidden character. -/
theorem lettersToAscii?_of_isAscii {name : List Char} (ascii : ∀ c ∈ name, Punycode.isAscii c) :
    lettersToAscii? name =
      if name.any isForbidden then none else some (name.map Char.toLower) := by
  -- Neither folding nor encoding changes anything in ASCII but the case.
  have folded : ((name.filter (!isIgnored ·)).map foldWidth).flatMap Text.lowerChar =
      name.map Char.toLower := by
    induction name with
    | nil => rfl
    | cons c name ih =>
      have first := ascii c List.mem_cons_self
      obtain ⟨inside, same, -⟩ := fold_of_isAscii c first
      have lowered := Text.lowerChar_of_ascii (of_decide_eq_true first)
      simp [inside, same, lowered, ih fun other member => ascii other (by simp [member])]
  have plain : ∀ c ∈ name, Punycode.isAscii c.toLower ∧
      isForbidden c.toLower = isForbidden c :=
    fun c member => (fold_of_isAscii c (ascii c member)).2.2
  have whole : (name.map Char.toLower).all Punycode.isAscii := by
    simpa using fun c member => (plain c member).1
  have named : (name.map Char.toLower).all
      (fun c => Punycode.isAscii c || Text.isAlphanumeric c) := by
    simpa using fun c member => .inl (plain c member).1
  have tested : (name.map Char.toLower).all (fun c => Punycode.isAscii c && !isForbidden c) =
      !name.any isForbidden := by
    -- The test gives of each character what it gives of its lower case.
    rw [List.all_map, List.not_any_eq_all_not, Bool.eq_iff_iff, List.all_eq_true, List.all_eq_true]
    refine forall₂_congr fun c member => ?_
    simp [(plain c member).1, (plain c member).2]
  simp only [lettersToAscii?, folded, encodeLabels, whole, named, tested, if_true, Bool.true_and]
  cases name.any isForbidden <;> rfl

/-- The mapping of names in letters and digits; no forms of one character are taken for another. -/
def HostMapping.letters : HostMapping where
  toAscii? := lettersToAscii?
  ofAscii _ ascii _ := lettersToAscii?_of_isAscii ascii
  sound name form found c member := by
    -- A form is found only if it passes this very test.
    simp only [lettersToAscii?, Option.ite_none_right_eq_some, Bool.and_eq_true,
      Option.some.injEq] at found
    obtain ⟨⟨-, tested⟩, rfl⟩ := found
    simpa using List.all_eq_true.mp tested c member

end LiveBoard.Url
