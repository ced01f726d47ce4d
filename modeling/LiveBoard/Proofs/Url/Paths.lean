import LiveBoard.Proofs.Url.Escapes
import LiveBoard.Url.Basic

/-!
What becomes of the segments of a path when it is parsed, and what a server reads of them.

Segments that are neither dots nor hold an escape are written one by one and read again. Any other
one loses bytes on the way, and nothing ever adds any, so the number of bytes that are read tells
whether all segments have come through.
-/

namespace LiveBoard.Url

/-- The text of a path of segments. -/
def pathText (segments : List (List Char)) : List Char := segments.flatMap ('/' :: ·)

/-- The bytes that are read of a path, with a slash in front of each segment. -/
def pathBytes (path : List (List Char)) : List UInt8 :=
  path.flatMap fun segment => charBytes '/' ++ percentDecode segment

/-- Whether a segment is written for what it is, neither as dots nor with an escape in it. -/
def isIntact (segment : List Char) : Bool :=
  !isDoubleDot segment && !isSingleDot segment && !hasEscape segment

section Splitting

/-- Splitting a list takes its items into pieces, but for those at which it is split. -/
theorem mem_splitOnP {α : Type} {splits : α → Bool} {items piece : List α}
    (member : piece ∈ items.splitOnP splits) : ∀ item ∈ piece, item ∈ items ∧ ¬ splits item := by
  induction items generalizing piece with
  | nil =>
    obtain rfl : piece = [] := by simpa using member
    simp
  | cons first items ih =>
    -- An item at which the list is split starts a new piece, and any other goes to the first one.
    rw [List.splitOnP_cons_eq_if_modifyHead] at member
    split at member
    · rcases List.mem_cons.mp member with rfl | later
      · simp
      · exact fun item inside => ⟨List.mem_cons_of_mem _ (ih later item inside).1,
          (ih later item inside).2⟩
    · rename_i whole
      -- The first item goes in front of the first piece of the others.
      cases pieces : items.splitOnP splits with
      | nil => simp [pieces] at member
      | cons head tail =>
        rw [pieces, List.modifyHead_cons] at member
        rcases List.mem_cons.mp member with rfl | later
        · intro item inside
          rcases List.mem_cons.mp inside with rfl | behind
          · exact ⟨List.mem_cons_self, whole⟩
          · have held := ih (pieces ▸ List.mem_cons_self) item behind
            exact ⟨List.mem_cons_of_mem _ held.1, held.2⟩
        · intro item inside
          have held := ih (pieces ▸ List.mem_cons_of_mem _ later) item inside
          exact ⟨List.mem_cons_of_mem _ held.1, held.2⟩

/-- The text of a path is its segments with slashes between them, behind a slash. -/
theorem pathText_eq_intercalate {segments : List (List Char)} (some : segments ≠ []) :
    pathText segments = '/' :: ['/'].intercalate segments := by
  induction segments with
  | nil => exact absurd rfl some
  | cons segment segments ih =>
    cases segments with
    | nil => simp [pathText, List.intercalate]
    -- There is one slash in front, and one more for each segment but the last.
    | cons next rest =>
      rw [pathText, List.flatMap_cons, ← pathText, ih (by simp)]
      simp [List.intercalate, List.intersperse]

/-- The segments of a text that starts with a slash are found again behind it. -/
theorem tail_splitOn_pathText {segments : List (List Char)}
    (free : ∀ segment ∈ segments, '/' ∉ segment) :
    ((pathText segments).splitOn '/').tail = segments := by
  cases segments with
  | nil => rfl
  | cons first others =>
    -- The slash in front puts an empty piece first, which is left out.
    rw [pathText_eq_intercalate (by simp), List.splitOn_cons_eq_if_modifyHead]
    simpa using List.splitOn_intercalate '/' free (by simp)

/-- The segments between slashes hold no slashes of either direction. -/
theorem not_isSlash_of_mem_splitAtSlashes {chars segment : List Char}
    (member : segment ∈ splitAtSlashes chars) : ∀ c ∈ segment, isSlash c = false := by
  intro c inside
  obtain ⟨held, kept⟩ := mem_splitOnP member c inside
  -- Slashes of the other direction are turned around before the text is split.
  obtain ⟨before, -, rfl⟩ := List.mem_map.mp held
  split at kept <;> simp_all [isSlash]

/-- Segments without slashes are found again in the text of their path. -/
theorem splitAtSlashes_pathText {segments : List (List Char)} {rest : List Char}
    (free : ∀ segment ∈ segments, ∀ c ∈ segment, isSlash c = false)
    (text : pathText segments = '/' :: rest) : splitAtSlashes rest = segments := by
  have some : segments ≠ [] := by
    rintro rfl
    -- Without segments there would not even be the slash in front.
    cases text
  obtain rfl : ['/'].intercalate segments = rest :=
    (List.cons.inj ((pathText_eq_intercalate some).symm.trans text)).2
  -- Without a slash of the other direction there is nothing to turn around.
  have straight : (['/'].intercalate segments).map (fun c => if c = '\\' then '/' else c) =
      ['/'].intercalate segments := by
    have whole : (pathText segments).map (fun c => if c = '\\' then '/' else c) =
        pathText segments := by
      refine (List.map_congr_left fun c member => ?_).trans (List.map_id _)
      obtain ⟨segment, inside, held⟩ := List.mem_flatMap.mp member
      rcases List.mem_cons.mp held with rfl | held
      · rfl
      · have other := free segment inside c held
        simp_all [isSlash]
    rw [pathText_eq_intercalate some, List.map_cons] at whole
    exact (List.cons.inj whole).2
  rw [splitAtSlashes, straight]
  exact List.splitOn_intercalate '/' (fun segment inside slash => by
    simpa [isSlash] using free segment inside '/' slash) some

/-- A slash is one byte. -/
theorem length_charBytes_slash : (charBytes '/').length = 1 := by
  rw [charBytes_eq]
  rfl

/-- A slash of the other direction is one byte, too. -/
theorem length_charBytes_backslash : (charBytes '\\').length = 1 := by
  rw [charBytes_eq]
  rfl

/-- Turning slashes around changes no number of bytes. -/
theorem length_bytes_pathText_splitAtSlashes (rest : List Char) :
    (bytes (pathText (splitAtSlashes rest))).length = (bytes ('/' :: rest)).length := by
  -- Slashes of either direction take one byte.
  have turned : ∀ chars : List Char,
      (bytes (chars.map fun c => if c = '\\' then '/' else c)).length = (bytes chars).length := by
    intro chars
    induction chars with
    | nil => rfl
    | cons c chars ih =>
      simp only [List.map_cons, bytes_cons, List.length_append, ih]
      split
      · rename_i back
        rw [back, length_charBytes_slash, length_charBytes_backslash]
      · rfl
  rw [pathText_eq_intercalate (by simp [splitAtSlashes]), splitAtSlashes, List.intercalate_splitOn]
  simpa [bytes_cons] using turned rest

end Splitting

section Appending

variable {path : List (List Char)} {segment : List Char}

/-- The bytes of a path with more segments are those of both. -/
theorem pathBytes_append (path others : List (List Char)) :
    pathBytes (path ++ others) = pathBytes path ++ pathBytes others :=
  List.flatMap_append

/-- A path without its last segment has fewer bytes. -/
theorem length_pathBytes_dropLast (path : List (List Char)) :
    (pathBytes path.dropLast).length ≤ (pathBytes path).length := by
  cases path with
  | nil => exact Nat.le_refl _
  | cons first rest =>
    -- The bytes of the last segment come behind those of the others.
    have whole := List.dropLast_concat_getLast (List.cons_ne_nil first rest)
    rw [← whole, List.dropLast_concat, pathBytes_append, List.length_append]
    exact Nat.le_add_right _ _

/-- An intact segment is written behind the others. -/
theorem appendSegment_of_isIntact (intact : isIntact segment) (last : Bool) :
    appendSegment path last segment = path ++ [written segment] := by
  simp only [isIntact, Bool.and_eq_true, Bool.not_eq_true'] at intact
  -- It is dots of neither kind, so it is appended.
  rw [appendSegment, intact.1.1, intact.1.2]
  rfl

/-- Intact segments are written behind the others one by one. -/
theorem appendSegments_of_isIntact {segments : List (List Char)}
    (intact : ∀ segment ∈ segments, isIntact segment) :
    appendSegments path segments = path ++ segments.map written := by
  fun_induction appendSegments path segments with
  -- Segments are appended to what those before have made, the last one with nothing behind it.
  | case1 path => simp
  | case2 path segment => exact appendSegment_of_isIntact (intact segment (by simp)) true
  | case3 path segment rest more ih =>
    rw [ih fun later member => intact later (List.mem_cons_of_mem _ member),
      appendSegment_of_isIntact (intact segment (by simp)) false]
    simp

/-- One more segment adds no more bytes than it has, and fewer if it is not intact. -/
theorem length_pathBytes_appendSegment (path : List (List Char)) (last : Bool)
    (segment : List Char) :
    (pathBytes (appendSegment path last segment)).length + (if isIntact segment then 0 else 1) ≤
      (pathBytes path).length + (bytes ('/' :: segment)).length := by
  have slash := length_charBytes_slash
  have shorter := length_pathBytes_dropLast path
  have decoded := length_percentDecode_written segment
  have whole : (bytes ('/' :: segment)).length = (bytes segment).length + 1 := by
    rw [bytes_cons, List.length_append, slash]
    omega
  -- Dots of any spelling have a byte, which is not written.
  have dots : isDoubleDot segment ∨ isSingleDot segment → 0 < (bytes segment).length := by
    intro dotted
    cases segment with
    | nil => exact absurd dotted (by decide)
    | cons c rest =>
      have first := length_charBytes_pos c
      rw [bytes_cons, List.length_append]
      omega
  have ending : (pathBytes (if last then [[]] else [])).length ≤ 1 := by
    cases last <;> simp [pathBytes, percentDecode, slash]
  have most : (if isIntact segment then 0 else 1) ≤ 1 := by split <;> omega
  unfold appendSegment
  split
  · rename_i double
    have least := dots (.inl double)
    -- The segment above goes, and at most a blank one comes for it.
    rw [pathBytes_append, List.length_append, whole]
    omega
  · split
    · rename_i single
      -- Nothing is written, or a blank segment at the end.
      have least := dots (.inr single)
      rw [pathBytes_append, List.length_append, whole]
      omega
    · rename_i double single
      -- Other segments are written, and read as fewer bytes if there is an escape in them.
      have same : isIntact segment = !hasEscape segment := by simp [isIntact, double, single]
      have one : (pathBytes [written segment]).length =
          (percentDecode (written segment)).length + 1 := by
        simp only [pathBytes, List.flatMap_cons, List.flatMap_nil, List.append_nil,
          List.length_append, slash]
        omega
      rw [pathBytes_append, List.length_append, whole, ← written, one, same]
      cases escape : hasEscape segment <;> simp [escape] at decoded ⊢ <;> omega

/-- More segments add no more bytes than they have, and fewer if one of them is not intact. -/
theorem length_pathBytes_appendSegments (path segments : List (List Char)) :
    (pathBytes (appendSegments path segments)).length +
        (if segments.all isIntact then 0 else 1) ≤
      (pathBytes path).length + (bytes (pathText segments)).length := by
  -- The text of a path has the bytes of its segments, with a slash in front of each.
  have cons : ∀ (segment : List Char) (rest : List (List Char)),
      (bytes (pathText (segment :: rest))).length =
        (bytes ('/' :: segment)).length + (bytes (pathText rest)).length := by
    intro segment rest
    rw [pathText, List.flatMap_cons, ← pathText, bytes_append, List.length_append]
  -- Each segment is paid for with its own bytes, and one that is not intact leaves some over.
  fun_induction appendSegments path segments with
  | case1 path => simp [bytes, pathText]
  | case2 path segment =>
    have one := length_pathBytes_appendSegment path true segment
    rw [cons]
    simp only [List.all_cons, List.all_nil, Bool.and_true]
    omega
  | case3 path segment rest more ih =>
    have one := length_pathBytes_appendSegment path false segment
    rw [cons, List.all_cons]
    cases first : isIntact segment <;> cases others : rest.all isIntact <;>
      simp [first, others] at one ih ⊢ <;> omega

/-- A segment of a longer path is an old one, a blank one, or one of those written. -/
theorem mem_appendSegments {segments : List (List Char)}
    (member : segment ∈ appendSegments path segments) :
    segment ∈ path ∨ segment = [] ∨ ∃ origin ∈ segments, segment = written origin := by
  -- A path that ends in dots ends in a blank segment.
  have ending : ∀ {last : Bool}, segment ∈ (if last then [[]] else []) → segment = [] := by
    intro last member
    cases last <;> simp_all
  have step : ∀ {path : List (List Char)} {last : Bool} {next : List Char},
      segment ∈ appendSegment path last next →
      segment ∈ path ∨ segment = [] ∨ segment = written next := by
    intro path last next member
    unfold appendSegment at member
    -- Two dots take the segment above away, a single one takes nothing, and others are written.
    split at member
    · rcases List.mem_append.mp member with before | blank
      · exact .inl (List.mem_of_mem_dropLast before)
      · exact .inr (.inl (ending blank))
    · split at member
      · exact (List.mem_append.mp member).imp_right fun blank => .inl (ending blank)
      · exact (List.mem_append.mp member).imp_right fun new => .inr (List.mem_singleton.mp new)
  fun_induction appendSegments path segments with
  | case1 path => exact .inl member
  | case2 path next =>
    exact (step member).imp_right fun later => later.imp_right fun same => ⟨next, by simp, same⟩
  | case3 path next rest more ih =>
    rcases ih member with before | blank | ⟨origin, inside, same⟩
    · -- What was in the path before the later segments was there, or came with the first one.
      exact (step before).imp_right fun later =>
        later.imp_right fun same => ⟨next, by simp, same⟩
    · exact .inr (.inl blank)
    · exact .inr (.inr ⟨origin, List.mem_cons_of_mem _ inside, same⟩)

end Appending

end LiveBoard.Url
