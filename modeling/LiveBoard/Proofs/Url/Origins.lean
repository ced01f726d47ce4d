import LiveBoard.Proofs.Url.Paths
import LiveBoard.Text.Blank
import Mathlib.Data.List.TakeWhile

/-!
What is read of an address that names a server and goes on with a path.

The path is read by itself: who is asked does not depend on it, and what counts of it does not
depend on the server.
-/

namespace LiveBoard.Url

/-- Characters that end the part of an address that names the server. -/
def endsServer (c : Char) : Bool := isSlash c || c = '?' || c = '#'

/-- The address of a server: how it is spoken to, its host and its port. -/
structure Origin where
  scheme : String
  host : String
  port : String
  known : (Scheme.ofChars? scheme.toList).isSome
  /-- Whether a host is one at all is told when the address is read. -/
  inner : ∀ c ∈ host.toList, endsServer c = false
  numbered : port ≠ ""
  digits : ∀ c ∈ port.toList, c.isDigit

/-- The text of the address of a server. -/
def Origin.text (origin : Origin) : String :=
  origin.scheme ++ "://" ++ origin.host ++ ":" ++ origin.port

/-- Characters without the margin behind them. -/
def trimEnd (chars : List Char) : List Char := (chars.reverse.dropWhile isMargin).reverse

/-- The characters behind a server that count. -/
def meaningfulEnd (chars : List Char) : List Char := (trimEnd chars).filter (!isDropped ·)

/-- The address of what characters behind a server name on it. -/
def withEnd (url : Url) (chars : List Char) : Url :=
  let (rest, fragment) := cutAt '#' (meaningfulEnd chars)
  let (path, query) := cutAt '?' rest
  { url with
    path := parsePath path
    query := query.map (percentEncode encodesInQuery)
    fragment := fragment.map (percentEncode encodesInFragment) }

section Cutting

/-- Characters without a mark are passed over in search of it. -/
theorem bne_of_notMem {mark : Char} {chars : List Char} (free : mark ∉ chars) :
    ∀ c ∈ chars, (c != mark) = true := by
  intro c member
  simpa using ne_of_mem_of_not_mem member free

/-- Characters without a mark are not cut. -/
theorem cutAt_of_notMem {mark : Char} {chars : List Char} (free : mark ∉ chars) :
    cutAt mark chars = (chars, none) := by
  rw [cutAt, List.span_eq_takeWhile_dropWhile,
    List.takeWhile_eq_self_iff.mpr (bne_of_notMem free),
    List.dropWhile_eq_nil_iff.mpr (bne_of_notMem free)]

/-- Characters are cut at the first mark. -/
theorem cutAt_append {mark : Char} {before : List Char} (free : mark ∉ before)
    (after : List Char) : cutAt mark (before ++ mark :: after) = (before, some after) := by
  rw [cutAt, List.span_eq_takeWhile_dropWhile, List.takeWhile_append_of_pos (bne_of_notMem free),
    List.dropWhile_append_of_pos (bne_of_notMem free)]
  simp

/-- Characters are cut in front of the first mark. -/
theorem cutAt_fst (mark : Char) (chars : List Char) :
    (cutAt mark chars).1 = chars.takeWhile (· != mark) := by
  rw [cutAt, List.span_eq_takeWhile_dropWhile]
  split <;> simp_all

/-- What stands before a mark is a part of the characters. -/
theorem cutAt_sublist (mark : Char) (chars : List Char) : (cutAt mark chars).1.Sublist chars := by
  rw [cutAt_fst]
  exact List.takeWhile_sublist _

/-- No mark stands before the first one. -/
theorem notMem_cutAt (mark : Char) (chars : List Char) : mark ∉ (cutAt mark chars).1 := by
  rw [cutAt_fst]
  intro member
  simpa using List.mem_takeWhile_imp member

end Cutting

section Counting

/-- Behind a character that counts, the margin is taken off as if that stood alone. -/
theorem trimEnd_append {last : Char} (finish : isMargin last = false) (front chars : List Char) :
    trimEnd (front ++ last :: chars) = front ++ last :: trimEnd chars := by
  have back : (front ++ last :: chars).reverse = chars.reverse ++ last :: front.reverse := by simp
  rw [trimEnd, back, List.dropWhile_append]
  split
  · -- All that follows is margin, so the character is the last one left.
    rename_i blank
    have nothing : trimEnd chars = [] := by
      rw [trimEnd, List.isEmpty_iff.mp blank, List.reverse_nil]
    rw [nothing, List.dropWhile_cons_of_neg (by simp [finish])]
    simp
  · simp [trimEnd]

/-- Taking off the margin leaves a part of the characters. -/
theorem trimEnd_sublist (chars : List Char) : (trimEnd chars).Sublist chars := by
  -- The margin is taken off the front of what is turned around.
  have back := (List.dropWhile_sublist isMargin (l := chars.reverse)).reverse
  rwa [List.reverse_reverse] at back

/-- There is no margin to take off if the last character counts. -/
theorem trimEnd_eq_self_iff {chars : List Char} :
    trimEnd chars = chars ↔ chars.getLast?.all (!isMargin ·) := by
  rcases List.eq_nil_or_concat chars with rfl | ⟨front, last, rfl⟩
  · simp [trimEnd]
  · cases margin : isMargin last with
    | false => simp [margin, trimEnd]
    | true =>
      -- A margin at the end is taken off, and leaves fewer characters.
      have shorter := (trimEnd_sublist front).length_le
      have same : trimEnd (front ++ [last]) = trimEnd front := by simp [trimEnd, margin]
      have other : trimEnd front ≠ front ++ [last] := by
        intro whole
        rw [whole, List.length_append, List.length_singleton] at shorter
        omega
      simp [same, other, margin]

/-- What counts of an address behind a server is found by itself. -/
theorem meaningful_append {first last : Char} {inner : List Char} (start : isMargin first = false)
    (finish : isMargin last = false) (chars : List Char) :
    meaningful (first :: (inner ++ [last]) ++ chars) =
      (first :: (inner ++ [last])).filter (!isDropped ·) ++ meaningfulEnd chars := by
  -- Neither end of the server is margin, so what is trimmed in front and behind leaves it alone.
  have whole : first :: (inner ++ [last]) ++ chars = (first :: inner) ++ last :: chars := by simp
  rw [meaningful, whole, List.cons_append, List.dropWhile_cons_of_neg (by simp [start]),
    ← List.cons_append, ← trimEnd, trimEnd_append finish, meaningfulEnd, ← List.filter_append]
  simp

/-- A character that is dropped nowhere is kept in front of what follows it. -/
theorem meaningfulEnd_cons {c : Char} (inside : isMargin c = false) (kept : isDropped c = false)
    (chars : List Char) : meaningfulEnd (c :: chars) = c :: meaningfulEnd chars := by
  -- The character stops the trimming, and is not dropped either.
  have trimmed := trimEnd_append inside [] chars
  rw [List.nil_append, List.nil_append] at trimmed
  rw [meaningfulEnd, trimmed, List.filter_cons_of_pos (by simp [kept]), meaningfulEnd]

/-- What counts behind a server is a part of it. -/
theorem meaningfulEnd_sublist (chars : List Char) : (meaningfulEnd chars).Sublist chars :=
  List.filter_sublist.trans (trimEnd_sublist chars)

/-- Characters behind a server all count if none is dropped, neither at the end nor elsewhere. -/
theorem meaningfulEnd_eq_self_iff {chars : List Char} : meaningfulEnd chars = chars ↔
    chars.getLast?.all (!isMargin ·) ∧ chars.all (!isDropped ·) := by
  rw [← trimEnd_eq_self_iff, List.all_eq_true, ← List.filter_eq_self]
  constructor
  · intro same
    -- Two parts of the whole follow each other, so neither is a part only.
    have full : chars.Sublist (trimEnd chars) := by
      have later : (meaningfulEnd chars).Sublist (trimEnd chars) := List.filter_sublist
      rwa [same] at later
    have whole : trimEnd chars = chars := (trimEnd_sublist chars).antisymm full
    rw [meaningfulEnd, whole] at same
    exact ⟨whole, same⟩
  · rintro ⟨whole, kept⟩
    rw [meaningfulEnd, whole, kept]

end Counting

section Alphanumeric

variable {c : Char}

/-- A letter or a digit is no margin. -/
theorem isMargin_of_isAlphanum (sound : c.isAlphanum) : isMargin c = false := by
  have range := Text.toNat_of_isAlphanum sound
  -- All of a margin comes before the digits.
  simp only [isMargin, decide_eq_false_iff_not]
  omega

/-- A letter or a digit is dropped nowhere. -/
theorem isDropped_of_isAlphanum (sound : c.isAlphanum) : isDropped c = false := by
  have range := Text.toNat_of_isAlphanum sound
  -- What is dropped anywhere lies outside of the three runs.
  simp only [isDropped, ← Char.toNat_inj, Char.reduceToNat, Bool.or_eq_false_iff,
    decide_eq_false_iff_not]
  omega

end Alphanumeric

namespace Origin

variable (origin : Origin)

/-- The name of a known scheme is made of letters. -/
theorem isAlpha_of_mem_scheme {c : Char} (member : c ∈ origin.scheme.toList) : c.isAlpha := by
  obtain ⟨scheme, found⟩ := Option.isSome_iff_exists.mp origin.known
  -- Schemes are known by their names in lower case.
  have same := List.find?_some found
  have lowered : c.toLower ∈ scheme.name.toList := by
    rw [of_decide_eq_true same]
    exact List.mem_map_of_mem member
  have letters : scheme.name.toList.all Char.isAlpha := by cases scheme <;> rfl
  have letter := List.all_eq_true.mp letters _ lowered
  -- A capital is a letter itself, and any other character is not changed.
  unfold Char.toLower at letter
  split at letter
  · rename_i capital
    have upper : c.isUpper := decide_eq_true capital
    exact Bool.or_eq_true_iff.mpr (.inl upper)
  · exact letter

/-- The name of a known scheme is not blank. -/
theorem scheme_ne_nil : origin.scheme.toList ≠ [] := by
  intro blank
  have known := origin.known
  rw [blank] at known
  exact absurd known (by decide)

/-- The characters that name the host and the port. -/
def server : List Char := origin.host.toList ++ ':' :: origin.port.toList

/-- The characters of the host and the port that count. -/
def kept : List Char := origin.server.filter (!isDropped ·)

/-- The characters of a server's address. -/
theorem toList_text :
    origin.text.toList = origin.scheme.toList ++ ':' :: '/' :: '/' :: origin.server := by
  simp [text, server]

/-- The address of a server starts and ends in letters or digits. -/
theorem exists_ends : ∃ first inner last, origin.text.toList = first :: (inner ++ [last]) ∧
    first.isAlphanum ∧ last.isAlphanum := by
  -- An address starts with the name of its scheme and ends with its port.
  have some : origin.port.toList ≠ [] := by
    simpa using origin.numbered
  obtain ⟨first, others, front⟩ := List.exists_cons_of_ne_nil origin.scheme_ne_nil
  have back := List.dropLast_concat_getLast some
  refine ⟨first, others ++ ':' :: '/' :: '/' :: (origin.host.toList ++
    ':' :: origin.port.toList.dropLast), origin.port.toList.getLast some, ?_, ?_, ?_⟩
  · rw [toList_text, server, front]
    conv_lhs => rw [← back]
    simp
  · have letter := origin.isAlpha_of_mem_scheme (front ▸ List.mem_cons_self)
    simp [Char.isAlphanum, letter]
  · have digit := origin.digits _ (List.getLast_mem some)
    simp [Char.isAlphanum, digit]

/-- What counts of an address on a server. -/
theorem meaningful_text_append (chars : List Char) :
    meaningful (origin.text.toList ++ chars) =
      origin.scheme.toList ++ ':' :: '/' :: '/' ::
        (origin.kept ++ meaningfulEnd chars) := by
  obtain ⟨first, inner, last, ends, start, finish⟩ := origin.exists_ends
  rw [ends, meaningful_append (isMargin_of_isAlphanum start) (isMargin_of_isAlphanum finish),
    ← ends, toList_text, List.filter_append]
  -- The host may hold characters that are dropped, but the name of a scheme is all letters.
  have name : origin.scheme.toList.filter (!isDropped ·) = origin.scheme.toList := by
    refine List.filter_eq_self.mpr fun c member => ?_
    have letter := origin.isAlpha_of_mem_scheme member
    simp [isDropped_of_isAlphanum (by simp [Char.isAlphanum, letter] : c.isAlphanum)]
  rw [name]
  simp [isDropped, kept]

/-- Neither a host nor a port ends the part of an address that names the server. -/
theorem endsServer_of_mem_kept {c : Char} (member : c ∈ origin.kept) : endsServer c = false := by
  rcases List.mem_append.mp (List.mem_filter.mp member).1 with host | port
  · -- Of a host this is asked for.
    exact origin.inner c host
  · rcases List.mem_cons.mp port with rfl | digit
    · rfl
    · -- None of the characters that end the server is a digit.
      have value := origin.digits c digit
      simp only [endsServer, isSlash, Bool.or_eq_false_iff, decide_eq_false_iff_not]
      refine ⟨⟨⟨?_, ?_⟩, ?_⟩, ?_⟩ <;> (rintro rfl; cases value)

/-- The slashes in front of a server are told from its characters. -/
theorem dropWhile_isSlash (chars : List Char) :
    ('/' :: '/' :: (origin.kept ++ chars)).dropWhile isSlash = origin.kept ++ chars := by
  -- Even without a host there is the colon in front of the port.
  have some : ':' ∈ origin.kept := by simp [kept, server, isDropped]
  obtain ⟨first, others, front⟩ := List.exists_cons_of_ne_nil (List.ne_nil_of_mem some)
  have inside := origin.endsServer_of_mem_kept (front ▸ List.mem_cons_self : first ∈ origin.kept)
  simp only [endsServer, Bool.or_eq_false_iff] at inside
  rw [front, List.cons_append, List.dropWhile_cons_of_pos rfl, List.dropWhile_cons_of_pos rfl,
    List.dropWhile_cons_of_neg (by simp [inside.1.1])]

/-- The server ends at the first slash behind it, or where there is nothing more. -/
theorem span_kept {chars : List Char} (slash : ∀ c ∈ chars.head?, c = '/') :
    (origin.kept ++ chars).span (fun c => !isSlash c && c != '?' && c != '#') =
      (origin.kept, chars) := by
  -- No character of the server ends it, and a slash does.
  have passed : ∀ c ∈ origin.kept, (!isSlash c && c != '?' && c != '#') = true := by
    intro c member
    have inside := origin.endsServer_of_mem_kept member
    simp_all [endsServer]
  rw [List.span_eq_takeWhile_dropWhile, List.takeWhile_append_of_pos passed,
    List.dropWhile_append_of_pos passed]
  cases chars with
  | nil => simp
  | cons c rest =>
    obtain rfl := slash c rfl
    simp [isSlash]

/-- An address that goes on in a slash behind a server is the server's with that end. -/
theorem parse?_append (hosts : HostMapping) {rest : String}
    (slash : rest.toList.head? = some '/') :
    parse? hosts (origin.text ++ rest) =
      (parse? hosts origin.text).map (withEnd · rest.toList) := by
  -- The name of the scheme ends at the first colon, since there is none in it.
  have named : ':' ∉ origin.scheme.toList := by
    intro member
    have letter := origin.isAlpha_of_mem_scheme member
    cases letter
  -- The slash that the path starts with counts, so that the server ends where the path starts.
  have starts : ∀ c ∈ (meaningfulEnd rest.toList).head?, c = '/' := by
    obtain ⟨more, behind⟩ := List.head?_eq_some_iff.mp slash
    rw [behind, meaningfulEnd_cons rfl rfl]
    simp
  -- The server alone is the case of nothing behind it.
  have nothing : ∀ c ∈ ([] : List Char).head?, c = '/' := by simp
  have whole := origin.meaningful_text_append []
  have blank : meaningfulEnd [] = [] := rfl
  rw [List.append_nil, blank] at whole
  simp only [parse?, String.toList_append, meaningful_text_append, whole, cutAt_append named,
    dropWhile_isSlash, span_kept _ starts, span_kept _ nothing]
  simp only [Option.bind_eq_bind, Option.map_bind, Function.comp_def, Option.pure_def,
    Option.map_some, withEnd]

end Origin

end LiveBoard.Url
