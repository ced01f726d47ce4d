import LiveBoard.Proofs.Url.Origins

/-!
What a server reads of a target, and which segments it reads as they were meant.

A segment is read as it was meant unless one of its characters ends the path, starts a segment or is
dropped, or unless it stands for something else as a whole. A path of any other segments is read as
fewer bytes, so the two conditions are the same.
-/

namespace LiveBoard.Url

/-- What a server reads of a target: the bytes of each segment, and the query. -/
def readTarget (target : String) : List (List UInt8) × Option (List Char) :=
  let (path, query) := cutAt '?' target.toList
  ((path.splitOn '/').tail.map percentDecode, query)

/-- Whether a segment stands for its own characters wherever it stands in a path. -/
def isPlain (segment : List Char) : Bool :=
  segment.all (fun c => !endsServer c && !isDropped c) && isIntact segment

/-- Whether all segments of a path stand for their own characters, the last one at the end. -/
def isPlainPath (segments : List (List Char)) : Bool :=
  segments.all isPlain && (pathText segments).getLast?.all (!isMargin ·)

section Reading

/-- What is written of characters are some of them, percent signs and digits. -/
theorem mem_written {c : Char} {chars : List Char} (member : c ∈ written chars) :
    c ∈ chars ∧ encodesInPath c = false ∨ c = '%' ∨ (hexValue? c).isSome := by
  obtain ⟨before, inside, held⟩ := List.mem_flatMap.mp member
  split at held
  · -- A character is written out as its bytes, or stands as itself.
    obtain ⟨byte, -, digit⟩ := List.mem_flatMap.mp held
    have small := byte.toNat_lt
    simp only [percentByte, List.mem_cons, List.not_mem_nil, or_false] at digit
    -- Of a byte, there are the percent sign and the digits of its two halves.
    rcases digit with sign | rfl | rfl
    · exact .inr (.inl sign)
    · exact .inr (.inr (by rw [hexValue?_hexCapital (by omega)]; rfl))
    · exact .inr (.inr (by rw [hexValue?_hexCapital (by omega)]; rfl))
  · rename_i plain
    obtain rfl := List.mem_singleton.mp held
    exact .inl ⟨inside, by simpa using plain⟩

/-- No segment of a parsed path has a slash or a question mark in it. -/
theorem notMem_of_mem_parsePath {chars segment : List Char} (member : segment ∈ parsePath chars) :
    '/' ∉ segment ∧ '?' ∉ segment := by
  -- A segment is cut out between slashes, and a question mark in it is written out.
  have free : ∀ {rest origin : List Char}, origin ∈ splitAtSlashes rest →
      '/' ∉ written origin ∧ '?' ∉ written origin := by
    intro rest origin inside
    constructor
    · intro slash
      -- A slash would have ended the segment before, and it is neither a percent sign nor a digit.
      rcases mem_written slash with ⟨held, -⟩ | sign | digit
      · exact absurd (not_isSlash_of_mem_splitAtSlashes inside '/' held) (by decide)
      · exact absurd sign (by decide)
      · exact absurd digit (by decide)
    · intro mark
      -- A question mark never stands as itself.
      rcases mem_written mark with ⟨-, plain⟩ | sign | digit
      · exact absurd plain (by decide)
      · exact absurd sign (by decide)
      · exact absurd digit (by decide)
  cases chars with
  | nil =>
    -- The path of nothing is one empty segment.
    obtain rfl : segment = [] := by simpa [parsePath] using member
    simp
  | cons c rest =>
    -- A segment of another path was there, stands for an empty one, or is written of one that came.
    rcases mem_appendSegments member with before | rfl | ⟨origin, inside, rfl⟩
    · cases before
    · simp
    · exact free inside

/-- A server reads the segments of an address one by one, and its query as it is. -/
theorem readTarget_target {url : Url} (free : ∀ segment ∈ url.path, '/' ∉ segment ∧ '?' ∉ segment) :
    readTarget url.target = (url.path.map percentDecode, url.query) := by
  -- The first question mark of a target is the one in front of its query.
  have bare : '?' ∉ pathText url.path := by
    intro mark
    obtain ⟨segment, inside, held⟩ := List.mem_flatMap.mp mark
    rcases List.mem_cons.mp held with slash | held
    · exact absurd slash (by decide)
    · exact (free segment inside).2 held
  -- No segment has a slash, so that cutting at slashes gives the segments back.
  have found := tail_splitOn_pathText fun segment inside => (free segment inside).1
  rw [readTarget, target, String.toList_ofList, ← pathText]
  cases url.query with
  | none => simp [cutAt_of_notMem bare, found]
  | some query => simp [cutAt_append bare, found]

end Reading

/-- The characters of a path behind its first slash that count, up to a query or fragment. -/
def pathPart (rest : List Char) : List Char := (cutAt '?' (cutAt '#' (meaningfulEnd rest)).1).1

section Ends

variable (url : Url) {rest : List Char}

/-- The path of an end is what counts behind its first slash. -/
theorem path_withEnd (rest : List Char) :
    (url.withEnd ('/' :: rest)).path = appendSegments [] (splitAtSlashes (pathPart rest)) := by
  -- The slash in front is none of the marks that end a path, so it stays in front of each cut.
  have apart (mark : Char) (other : mark ≠ '/') (chars : List Char) :
      (cutAt mark ('/' :: chars)).1 = '/' :: (cutAt mark chars).1 := by
    rw [cutAt_fst, cutAt_fst, List.takeWhile_cons_of_pos (by simpa using other.symm)]
  have path : (url.withEnd ('/' :: rest)).path =
      parsePath (cutAt '?' (cutAt '#' (meaningfulEnd ('/' :: rest))).1).1 := rfl
  rw [path, meaningfulEnd_cons rfl rfl, apart '#' (by decide), apart '?' (by decide)]
  rfl

/-- What counts behind the first slash is a part of it. -/
theorem pathPart_sublist (rest : List Char) : (pathPart rest).Sublist rest :=
  (cutAt_sublist _ _).trans ((cutAt_sublist _ _).trans (meaningfulEnd_sublist rest))

/-- All of a path counts if there is no mark in it and nothing that is dropped. -/
theorem pathPart_eq_self_iff : pathPart rest = rest ↔
    ('?' ∉ rest ∧ '#' ∉ rest) ∧ meaningfulEnd rest = rest := by
  constructor
  · intro whole
    -- Three times something may be left out; if nothing is in the end, nothing was at any time.
    have first := cutAt_sublist '?' (cutAt '#' (meaningfulEnd rest)).1
    have second := cutAt_sublist '#' (meaningfulEnd rest)
    have third := meaningfulEnd_sublist rest
    have full : rest.Sublist (cutAt '?' (cutAt '#' (meaningfulEnd rest)).1).1 := by
      rw [← pathPart, whole]
    have kept : meaningfulEnd rest = rest := third.antisymm (full.trans (first.trans second))
    have uncut : (cutAt '#' (meaningfulEnd rest)).1 = rest :=
      (second.trans third).antisymm (full.trans first)
    refine ⟨⟨?_, ?_⟩, kept⟩
    · rw [← whole]
      -- What a cut leaves does not hold the mark any more.
      exact notMem_cutAt '?' _
    · rw [← uncut]
      exact notMem_cutAt '#' _
  · rintro ⟨⟨mark, hash⟩, kept⟩
    rw [pathPart, kept, cutAt_of_notMem hash, cutAt_of_notMem mark]

/-- Where all of a path counts, it has no query behind it. -/
theorem query_withEnd (whole : pathPart rest = rest) :
    (url.withEnd ('/' :: rest)).query = none := by
  -- A query would start at a question mark, and there is none.
  obtain ⟨⟨mark, hash⟩, kept⟩ := pathPart_eq_self_iff.mp whole
  have first : '#' ∉ '/' :: rest := by simp [hash]
  have second : '?' ∉ '/' :: rest := by simp [mark]
  rw [withEnd, meaningfulEnd_cons rfl rfl, kept, cutAt_of_notMem first]
  simp [cutAt_of_notMem second]

/-- What holds of a slash holds of the characters of a path if it does of those of its segments. -/
theorem forall_mem_pathText {holds : Char → Prop} (slash : holds '/')
    {segments : List (List Char)} (text : pathText segments = '/' :: rest) :
    (∀ c ∈ rest, holds c) ↔ ∀ segment ∈ segments, ∀ c ∈ segment, holds c := by
  -- The characters of a path are those of its segments, and the slashes in front of them.
  have whole : (∀ c ∈ '/' :: rest, holds c) ↔ ∀ c ∈ rest, holds c := by simp [slash]
  rw [← whole, ← text]
  constructor
  · exact fun all segment inside c held =>
      all c (List.mem_flatMap.mpr ⟨segment, inside, List.mem_cons_of_mem _ held⟩)
  · intro each c member
    obtain ⟨segment, inside, held⟩ := List.mem_flatMap.mp member
    rcases List.mem_cons.mp held with rfl | held
    · exact slash
    · exact each segment inside c held

/-- The segments of a path are found again behind its first slash if there is no other in them. -/
theorem splitAtSlashes_eq_iff {segments : List (List Char)}
    (text : pathText segments = '/' :: rest) :
    splitAtSlashes rest = segments ↔ ∀ segment ∈ segments, ∀ c ∈ segment, isSlash c = false :=
  ⟨fun found _ inside => not_isSlash_of_mem_splitAtSlashes (found.symm ▸ inside),
    fun free => splitAtSlashes_pathText free text⟩

/-- A plain segment has no slash, no mark and nothing that is dropped in it, and is intact. -/
theorem isPlain_iff {segment : List Char} : isPlain segment ↔
    (∀ c ∈ segment, isSlash c = false) ∧
      (∀ c ∈ segment, c ≠ '?' ∧ c ≠ '#' ∧ isDropped c = false) ∧ isIntact segment := by
  simp only [isPlain, endsServer, Bool.and_eq_true, List.all_eq_true, Bool.not_eq_true',
    Bool.or_eq_false_iff, decide_eq_false_iff_not]
  grind

/-- A path is plain if all of it counts and its segments are found in it and intact. -/
theorem isPlainPath_iff {segments : List (List Char)} (text : pathText segments = '/' :: rest) :
    isPlainPath segments ↔
      pathPart rest = rest ∧ splitAtSlashes rest = segments ∧ ∀ s ∈ segments, isIntact s := by
  -- The last character that counts is the one of the path, even if there is just the slash.
  have ends : ('/' :: rest).getLast?.all (!isMargin ·) = rest.getLast?.all (!isMargin ·) := by
    cases rest <;> simp [isMargin]
  have counts : pathPart rest = rest ↔ rest.getLast?.all (!isMargin ·) ∧
      ∀ c ∈ rest, c ≠ '?' ∧ c ≠ '#' ∧ isDropped c = false := by
    -- Of a path, a mark, a margin at the end, and whatever is dropped would take a part away.
    rw [pathPart_eq_self_iff, meaningfulEnd_eq_self_iff]
    simp only [List.all_eq_true, Bool.not_eq_true']
    grind
  rw [isPlainPath, text, Bool.and_eq_true, ends, counts, splitAtSlashes_eq_iff text,
    forall_mem_pathText (by decide) text, List.all_eq_true]
  simp only [isPlain_iff]
  grind

/-- A path is read as no more bytes than it has, and as fewer unless it is written as it is. -/
theorem intact_of_readBytes {segments : List (List Char)} (text : pathText segments = '/' :: rest)
    (read : ((url.withEnd ('/' :: rest)).path.map percentDecode) = segments.map bytes) :
    pathPart rest = rest ∧ ∀ segment ∈ splitAtSlashes rest, isIntact segment := by
  -- All bytes of the path are read, and none can be read but for those that are written.
  have all : pathBytes (url.withEnd ('/' :: rest)).path = bytes (pathText segments) := by
    have joined := congrArg (List.flatMap (charBytes '/' ++ ·)) read
    rw [List.flatMap_map, List.flatMap_map] at joined
    rw [pathBytes, joined, bytes, pathText, List.flatMap_assoc]
    rfl
  -- As many bytes are read as stand in the path, so none of the bounds on the way leaves any room.
  have most := length_pathBytes_appendSegments [] (splitAtSlashes (pathPart rest))
  rw [← path_withEnd url, all, text, length_bytes_pathText_splitAtSlashes, bytes_cons, bytes_cons,
    List.length_append, List.length_append] at most
  have blank : (pathBytes []).length = 0 := rfl
  have whole : pathPart rest = rest := eq_of_length_bytes (pathPart_sublist rest) (by omega)
  refine ⟨whole, ?_⟩
  rw [whole] at most
  -- Had one segment not been intact, a byte would be missing.
  split at most
  · rename_i intact
    exact List.all_eq_true.mp intact
  · omega

/-- Where all of a path counts and its segments are intact, they are read one by one. -/
theorem map_percentDecode_path_withEnd (whole : pathPart rest = rest)
    (intact : ∀ segment ∈ splitAtSlashes rest, isIntact segment) :
    (url.withEnd ('/' :: rest)).path.map percentDecode = (splitAtSlashes rest).map bytes := by
  rw [path_withEnd, whole, appendSegments_of_isIntact intact, List.nil_append, List.map_map]
  -- An intact segment has no escape, which is all that could make it be read as something else.
  refine List.map_congr_left fun segment member => ?_
  have held := intact segment member
  simp only [isIntact, Bool.and_eq_true, Bool.not_eq_true'] at held
  exact percentDecode_written held.2

/-- A server reads the segments of a path and no query just if the path is plain. -/
theorem readTarget_withEnd {segments : List (List Char)} (some : segments ≠ []) :
    readTarget (url.withEnd (pathText segments)).target = (segments.map bytes, none) ↔
      isPlainPath segments := by
  have text := pathText_eq_intercalate some
  rw [isPlainPath_iff text, readTarget_target (fun segment => notMem_of_mem_parsePath), text]
  constructor
  · intro read
    -- All bytes of the segments are read, so the path is written as it is and cut where it was.
    have same := (Prod.ext_iff.mp read).1
    obtain ⟨whole, intact⟩ := intact_of_readBytes url text same
    have found : splitAtSlashes (['/'].intercalate segments) = segments :=
      List.map_injective_iff.mpr (fun _ _ => bytes_inj)
        ((map_percentDecode_path_withEnd url whole intact).symm.trans same)
    exact ⟨whole, found, found ▸ intact⟩
  · rintro ⟨whole, found, intact⟩
    -- A plain path is cut into its own segments, which are read as they are, with no query behind.
    rw [map_percentDecode_path_withEnd url whole (found.symm ▸ intact), found,
      query_withEnd url whole]

end Ends

end LiveBoard.Url
