import LiveBoard.Stream.Frame
import Mathlib.Data.List.Chain

/-! Bytes of a stream as lines: what unifying line ends and cutting at blank lines do to them. -/

namespace LiveBoard.EventStream

/-- A line, without the line feed that ends it. -/
abbrev Line := List UInt8

/-- The bytes of lines that are ended, and of what follows the last of them. -/
def joinLines : List Line → Line → List UInt8
  | [], rest => rest
  | line :: lines, rest => line ++ lineFeed :: joinLines lines rest

/-- The lines that bytes end, and what follows the last of them. -/
def splitLines : List UInt8 → List Line × Line
  | [] => ([], [])
  | byte :: bytes =>
    if byte = lineFeed then ([] :: (splitLines bytes).1, (splitLines bytes).2)
    else
      match splitLines bytes with
      | ([], rest) => ([], byte :: rest)
      | (line :: lines, rest) => ((byte :: line) :: lines, rest)

/-- No line holds a line feed. -/
def Feedless (lines : List Line) : Prop := ∀ line ∈ lines, lineFeed ∉ line

/-- The lines of bytes and what follows them are all of the bytes. -/
@[simp] theorem joinLines_splitLines (bytes : List UInt8) :
    joinLines (splitLines bytes).1 (splitLines bytes).2 = bytes := by
  -- Byte by byte from the front: a line feed opens a line, and any other byte lengthens the first.
  induction bytes with
  | nil => rfl
  | cons byte bytes ih =>
    rw [splitLines]
    split
    · rename_i feed
      simp [joinLines, ih, feed]
    · cases later : splitLines bytes with
      | mk lines rest => cases lines <;> simp_all [joinLines]

/-- Bytes are split at each of their line feeds. -/
theorem splitLines_feedless (bytes : List UInt8) :
    Feedless (splitLines bytes).1 ∧ lineFeed ∉ (splitLines bytes).2 := by
  induction bytes with
  | nil => simp [splitLines, Feedless]
  | cons byte bytes ih =>
    rw [splitLines]
    split
    · simpa [Feedless] using ih
    · rename_i other
      -- The byte goes to the front of the first line, or of the rest if there is no line.
      have other : lineFeed ≠ byte := Ne.symm other
      cases later : splitLines bytes with
      | mk lines rest => cases lines <;> simp_all [Feedless]

/-- What follows the last line is split off whole when it holds no line feed. -/
theorem splitLines_rest {rest : Line} (plain : lineFeed ∉ rest) : splitLines rest = ([], rest) := by
  -- No byte ends a line, so each goes to the front of what follows.
  induction rest with
  | nil => rfl
  | cons byte rest ih =>
    simp only [List.mem_cons, not_or] at plain
    simp [splitLines, ih plain.2, Ne.symm plain.1]

/-- A line is split off whole when it holds no line feed. -/
theorem splitLines_line {line : Line} (plain : lineFeed ∉ line) (bytes : List UInt8) :
    splitLines (line ++ lineFeed :: bytes) =
      (line :: (splitLines bytes).1, (splitLines bytes).2) := by
  induction line with
  | nil => simp [splitLines]
  | cons byte line ih =>
    simp only [List.mem_cons, not_or] at plain
    simp [splitLines, ih plain.2, Ne.symm plain.1]

/-- Splitting gives back the lines that were joined. -/
theorem splitLines_joinLines {lines : List Line} (feedless : Feedless lines) (bytes : List UInt8) :
    splitLines (joinLines lines bytes) =
      (lines ++ (splitLines bytes).1, (splitLines bytes).2) := by
  -- One line at a time is split off, each up to the first line feed.
  induction lines with
  | nil => simp [joinLines]
  | cons line lines ih =>
    have head : lineFeed ∉ line := feedless line (by simp)
    have tail : Feedless lines := fun other member => feedless other (by simp [member])
    simp [joinLines, splitLines_line head, ih tail]

/-- What follows the last line may itself be made of lines. -/
theorem joinLines_joinLines (lines more : List Line) (rest : Line) :
    joinLines lines (joinLines more rest) = joinLines (lines ++ more) rest := by
  induction lines with
  | nil => rfl
  | cons line lines ih => simp [joinLines, ih]

/-- Bytes that arrive later continue what follows the last line. -/
theorem joinLines_append (lines : List Line) (rest : Line) (bytes : List UInt8) :
    joinLines lines rest ++ bytes = joinLines lines (rest ++ bytes) := by
  induction lines with
  | nil => rfl
  | cons line lines ih => simp [joinLines, ih]

/-- Bytes that arrive later end the unfinished line and add lines of their own. -/
theorem splitLines_append (bytes more : List UInt8) :
    splitLines (bytes ++ more) =
      ((splitLines bytes).1 ++ (splitLines ((splitLines bytes).2 ++ more)).1,
        (splitLines ((splitLines bytes).2 ++ more)).2) := by
  -- Only the unfinished line can be changed by what arrives.
  conv_lhs => rw [← joinLines_splitLines bytes]
  rw [joinLines_append, splitLines_joinLines (splitLines_feedless bytes).1]

/-! ## Unified line ends -/

/-- A line without the carriage return at its end, if there is one. -/
def trimReturn (line : Line) : Line :=
  if line.getLast? = some carriageReturn then line.dropLast else line

/-- A fold that puts each byte aside ends with the first one aside. -/
theorem fst_foldr {step : UInt8 → Option UInt8 × List UInt8 → Option UInt8 × List UInt8}
    (aside : ∀ byte later, (step byte later).1 = some byte) (bytes : List UInt8) :
    (bytes.foldr step (none, [])).1 = bytes.head? := by
  -- The fold goes from the back, so the last byte that it puts aside is the first of all.
  cases bytes with
  | nil => rfl
  | cons byte bytes => exact aside byte _

/-- A byte is dropped exactly when it is a carriage return with a line feed after it. -/
theorem unifyLineEnds_cons (byte : UInt8) (bytes : List UInt8) :
    unifyLineEnds (byte :: bytes) =
      if byte = carriageReturn ∧ bytes.head? = some lineFeed then unifyLineEnds bytes
      else byte :: unifyLineEnds bytes := by
  simp only [unifyLineEnds, List.foldr_cons]
  -- The fold carries the byte after the one at hand, which is the first of the rest.
  rw [fst_foldr]
  exact fun _ _ => rfl

/-- Bytes without line feeds are left alone. -/
theorem unifyLineEnds_rest {rest : Line} (plain : lineFeed ∉ rest) : unifyLineEnds rest = rest := by
  -- A byte is dropped only before a line feed.
  induction rest with
  | nil => rfl
  | cons byte rest ih =>
    simp only [List.mem_cons, not_or] at plain
    have head : rest.head? ≠ some lineFeed := fun found =>
      plain.2 (List.mem_of_mem_head? (by simp [found]))
    rw [unifyLineEnds_cons, if_neg (by simp [head]), ih plain.2]

/-- An ended line loses one carriage return at its end. -/
theorem unifyLineEnds_line {line : Line} (plain : lineFeed ∉ line) (bytes : List UInt8) :
    unifyLineEnds (line ++ lineFeed :: bytes) =
      trimReturn line ++ lineFeed :: unifyLineEnds bytes := by
  have feed : ¬ lineFeed = carriageReturn := by decide
  induction line with
  | nil => simp [unifyLineEnds_cons, trimReturn, feed]
  | cons byte line ih =>
    simp only [List.mem_cons, not_or] at plain
    -- A byte is looked at with the one after it, so the last byte of the line stands apart.
    cases line with
    | nil =>
      -- The last byte of the line stands right before the line feed.
      simp only [List.nil_append, List.cons_append] at ih ⊢
      rw [unifyLineEnds_cons, ih plain.2]
      by_cases ends : byte = carriageReturn <;> simp [trimReturn, ends]
    | cons next line =>
      have inner : ¬ (some next = some lineFeed) := fun same => by simp_all
      have last : trimReturn (byte :: next :: line) = byte :: trimReturn (next :: line) := by
        simp only [trimReturn, List.getLast?_cons_cons]
        split <;> simp
      rw [List.cons_append, unifyLineEnds_cons, ih plain.2, last]
      simp only [List.cons_append, List.head?_cons, inner, and_false, if_false]

/-- Unifying line ends trims every ended line and leaves the unfinished one alone. -/
theorem unifyLineEnds_joinLines {lines : List Line} {rest : Line} (feedless : Feedless lines)
    (plain : lineFeed ∉ rest) :
    unifyLineEnds (joinLines lines rest) = joinLines (lines.map trimReturn) rest := by
  -- Each line is trimmed by itself, as only its own last byte stands before its line feed.
  induction lines with
  | nil => exact unifyLineEnds_rest plain
  | cons line lines ih =>
    have head : lineFeed ∉ line := feedless line (by simp)
    have tail : Feedless lines := fun other member => feedless other (by simp [member])
    simp [joinLines, unifyLineEnds_line head, ih tail]

/-- Trimming a line brings no line feed into it. -/
theorem trimReturn_feedless {lines : List Line} (feedless : Feedless lines) :
    Feedless (lines.map trimReturn) := by
  intro trimmed member held
  obtain ⟨line, lineMember, same⟩ := List.mem_map.mp member
  refine feedless line lineMember ?_
  -- What is trimmed off is at the end, so the rest was in the line before.
  rw [← same, trimReturn] at held
  split at held
  · exact List.dropLast_subset line held
  · exact held

/-! ## Blank lines -/

/-- The bytes of a group of lines, with line feeds between them. -/
def block (lines : List Line) : List UInt8 := List.intercalate [lineFeed] lines

/--
Group lines by the blank lines that close their groups.

A blank line that would open a group is part of it.
-/
def groupLines (openGroup : List Line) : List Line → List (List Line) × List Line
  | [] => ([], openGroup)
  | line :: lines =>
    if line = [] ∧ openGroup ≠ [] then
      (openGroup :: (groupLines [] lines).1, (groupLines [] lines).2)
    else groupLines (openGroup ++ [line]) lines

/-- No line after the first of a group is blank. -/
def Unclosed (lines : List Line) : Prop := ∀ line ∈ lines.tail, line ≠ []

/-- Bytes that hold no blank line. -/
def Blankless (bytes : List UInt8) : Prop :=
  bytes.IsChain fun byte next => ¬ (byte = lineFeed ∧ next = lineFeed)

/-- Blocks already cut stand in front of those cut later. -/
theorem cutOnto_blocks (blocks : List (List UInt8)) (current bytes : List UInt8) :
    cutOnto blocks current bytes =
      (blocks.reverse ++ (cutOnto [] current bytes).1, (cutOnto [] current bytes).2) := by
  -- The cut looks at two bytes at a time, and so does the induction.
  induction bytes using List.twoStepInduction generalizing blocks current with
  | nil => simp [cutOnto]
  | singleton byte => simp [cutOnto]
  | cons_cons byte next rest whole part =>
    simp only [cutOnto]
    split
    · rw [whole (current.reverse :: blocks), whole [current.reverse]]
      simp
    · exact part next blocks (byte :: current)

/-- Bytes that hold no blank line are not cut. -/
theorem cutOnto_blankless {bytes : List UInt8} (blankless : Blankless bytes)
    (current : List UInt8) : cutOnto [] current bytes = ([], current.reverse ++ bytes) := by
  -- No pair of bytes is a place to cut, so all are put aside.
  induction bytes using List.twoStepInduction generalizing current with
  | nil => simp [cutOnto]
  | singleton byte => simp [cutOnto]
  | cons_cons byte next rest _ part =>
    rw [Blankless, List.isChain_cons_cons] at blankless
    -- The first two bytes are no blank line, so the first one is passed over.
    rw [cutOnto, if_neg blankless.1, part next blankless.2]
    simp

/-- The first cut falls on the first blank line. -/
theorem cutOnto_block {bytes : List UInt8} (tight : Blankless (bytes ++ [lineFeed]))
    (current rest : List UInt8) :
    cutOnto [] current (bytes ++ lineFeed :: lineFeed :: rest) =
      ((current.reverse ++ bytes) :: (cut rest).1, (cut rest).2) := by
  induction bytes generalizing current with
  | nil => simp [cutOnto, cutOnto_blocks [current.reverse], cut]
  | cons byte bytes ih =>
    -- The line feed after the bytes keeps their last one from opening a blank line early.
    have head : ¬ (byte = lineFeed ∧ (bytes ++ [lineFeed]).head? = some lineFeed) := by
      rintro ⟨feed, next⟩
      exact (List.isChain_cons.mp tight).1 lineFeed next ⟨feed, rfl⟩
    have tail : Blankless (bytes ++ [lineFeed]) := (List.isChain_cons.mp tight).2
    have step := ih tail (byte :: current)
    cases bytes with
    | nil =>
      have other : ¬ (byte = lineFeed ∧ lineFeed = lineFeed) := fun same => head ⟨same.1, rfl⟩
      rw [List.cons_append, List.nil_append, cutOnto, if_neg other]
      simpa using step
    | cons next bytes =>
      simp only [List.cons_append, List.head?_cons, Option.some.injEq] at head step ⊢
      rw [cutOnto, if_neg head, step]
      simp

/-- Bytes without line feeds hold no blank line, and neither do they after a line feed. -/
theorem blankless_rest {rest : Line} (plain : lineFeed ∉ rest) : Blankless (lineFeed :: rest) := by
  induction rest with
  | nil => exact List.IsChain.singleton _
  | cons byte rest ih =>
    simp only [List.mem_cons, not_or] at plain
    have other : byte ≠ lineFeed := Ne.symm plain.1
    have tail := ih plain.2
    -- Neither of two bytes in a row is a line feed here.
    cases rest with
    | nil => simp [Blankless, other]
    | cons next rest =>
      rw [Blankless, List.isChain_cons_cons] at tail ⊢
      exact ⟨fun same => other same.2,
        List.isChain_cons_cons.mpr ⟨fun same => other same.1, tail.2⟩⟩

/-- A line in front brings no blank line to what starts after its line feed. -/
theorem blankless_line {line : Line} (plain : lineFeed ∉ line) {bytes : List UInt8}
    (blankless : Blankless (lineFeed :: bytes)) : Blankless (line ++ lineFeed :: bytes) := by
  -- The line is walked up to its line feed, from where the bytes are known to be tight.
  induction line with
  | nil => exact blankless
  | cons byte line ih =>
    simp only [List.mem_cons, not_or] at plain
    exact List.isChain_cons.mpr ⟨fun _ _ same => plain.1 same.1.symm, ih plain.2⟩

/-- Lines that are not blank hold no blank line, even after a line feed. -/
theorem blankless_lines {lines : List Line} {rest : Line} (feedless : Feedless lines)
    (filled : ∀ line ∈ lines, line ≠ []) (plain : lineFeed ∉ rest) :
    Blankless (lineFeed :: joinLines lines rest) := by
  -- From the last line on: what comes behind a line feed starts in a byte of a line.
  induction lines with
  | nil => exact blankless_rest plain
  | cons line lines ih =>
    have head : lineFeed ∉ line := feedless line (by simp)
    have tail := ih (fun other member => feedless other (by simp [member]))
      (fun other member => filled other (by simp [member]))
    have whole := blankless_line head tail
    -- A line that is not blank starts in a byte, and that is no line feed.
    obtain ⟨byte, bytes, same⟩ := List.exists_cons_of_ne_nil (filled line (by simp))
    subst same
    refine List.isChain_cons_cons.mpr ⟨fun same => head ?_, whole⟩
    simp [same.2]

/-- A group whose lines after the first are not blank holds no blank line. -/
theorem blankless_joinLines {lines : List Line} {rest : Line} (feedless : Feedless lines)
    (unclosed : Unclosed lines) (plain : lineFeed ∉ rest) : Blankless (joinLines lines rest) := by
  -- The first line may be blank, since no line feed stands before it.
  cases lines with
  | nil => exact (List.isChain_cons.mp (blankless_rest plain)).2
  | cons line lines =>
    have tail : Feedless lines := fun other member => feedless other (by simp [member])
    exact blankless_line (feedless line (by simp)) (blankless_lines tail unclosed plain)

/-- Ended lines that open bytes are their block with a line feed. -/
theorem joinLines_block {lines : List Line} (nonempty : lines ≠ []) (rest : Line) :
    joinLines lines rest = block lines ++ lineFeed :: rest := by
  induction lines with
  | nil => contradiction
  | cons line lines ih =>
    cases lines with
    | nil => simp [joinLines, block]
    | cons next lines =>
      have tail := ih (by simp)
      simp [joinLines, block, List.intercalate_cons_cons] at tail ⊢
      exact tail

/-- A group stays unclosed with one more line, unless that is blank and not the first. -/
theorem Unclosed.append {openGroup : List Line} (unclosed : Unclosed openGroup) {line : Line}
    (goes : ¬ (line = [] ∧ openGroup ≠ [])) : Unclosed (openGroup ++ [line]) := by
  intro other member
  -- The first line of a group is free to be blank, so only a later one is looked at.
  cases openGroup with
  | nil => simp at member
  | cons first openGroup =>
    simp only [List.cons_append, List.tail_cons, List.mem_append, List.mem_singleton] at member
    rcases member with member | same
    · exact unclosed other member
    · exact fun blank => goes ⟨same ▸ blank, by simp⟩

/-- Cutting groups the lines that come after an open group by the blank ones among them. -/
theorem cut_groupLines {openGroup lines : List Line} {rest : Line} (unclosed : Unclosed openGroup)
    (feedless : Feedless (openGroup ++ lines)) (plain : lineFeed ∉ rest) :
    cut (joinLines (openGroup ++ lines) rest) =
      ((groupLines openGroup lines).1.map block,
        joinLines (groupLines openGroup lines).2 rest) := by
  -- Line by line: each closes the open group or joins it, and the cut does the same with its bytes.
  induction lines generalizing openGroup with
  | nil =>
    simp only [List.append_nil] at feedless ⊢
    exact cutOnto_blankless (blankless_joinLines feedless unclosed plain) []
  | cons line lines ih =>
    rw [groupLines]
    split
    · rename_i closes
      -- A blank line closes the group that is open, and the next one starts empty.
      obtain ⟨blank, nonempty⟩ := closes
      subst blank
      have opened : Feedless openGroup := fun line member => feedless line (by simp [member])
      have later : Feedless ([] ++ lines) := fun line member => feedless line (by simp_all)
      -- The group followed by its closing blank line holds no earlier blank line.
      have tight : Blankless (block openGroup ++ [lineFeed]) := by
        have whole : Blankless (joinLines openGroup []) :=
          blankless_joinLines opened unclosed (by simp)
        rwa [joinLines_block nonempty] at whole
      rw [← joinLines_joinLines, joinLines_block nonempty]
      simp only [joinLines, List.nil_append, cut]
      rw [cutOnto_block tight, ← List.nil_append lines, ih (by simp [Unclosed]) later]
      simp
    · rename_i goes
      -- Any other line joins the group that is open.
      have same : openGroup ++ line :: lines = (openGroup ++ [line]) ++ lines := by simp
      rw [same] at feedless ⊢
      exact ih (unclosed.append goes) feedless

/-- Lines that arrive later go on from the group that is still open. -/
theorem groupLines_append (openGroup lines more : List Line) :
    groupLines openGroup (lines ++ more) =
      ((groupLines openGroup lines).1 ++ (groupLines (groupLines openGroup lines).2 more).1,
        (groupLines (groupLines openGroup lines).2 more).2) := by
  induction lines generalizing openGroup with
  | nil => simp [groupLines]
  | cons line lines ih =>
    simp only [List.cons_append, groupLines]
    split <;> simp [ih]

/-- Every group, the one left open included, has no blank line after its first. -/
theorem groupLines_unclosed {openGroup : List Line} (unclosed : Unclosed openGroup)
    (lines : List Line) :
    ∀ group ∈ (groupLines openGroup lines).1 ++ [(groupLines openGroup lines).2],
      Unclosed group := by
  -- A group grows only by lines that are not blank, but for its first.
  induction lines generalizing openGroup with
  | nil => simpa [groupLines] using unclosed
  | cons line lines ih =>
    rw [groupLines]
    split
    · -- A group that is closed is the one that was open, which is unclosed by assumption.
      intro group member
      rcases List.mem_cons.mp (List.cons_append .. ▸ member) with same | later
      · exact same ▸ unclosed
      · exact ih (by simp [Unclosed]) group later
    · rename_i goes
      exact ih (unclosed.append goes)

/-- Every line of a group was open before or has arrived. -/
theorem groupLines_mem {openGroup lines : List Line} :
    ∀ group ∈ (groupLines openGroup lines).1 ++ [(groupLines openGroup lines).2],
      ∀ line ∈ group, line ∈ openGroup ++ lines := by
  -- Lines go into groups or close them, and none is made up.
  induction lines generalizing openGroup with
  | nil => simp [groupLines]
  | cons line lines ih =>
    rw [groupLines]
    split
    · intro group member other inside
      rcases List.mem_cons.mp (List.cons_append .. ▸ member) with same | later
      · exact List.mem_append_left _ (same ▸ inside)
      · have := ih group later other inside
        simp_all
    · intro group member other inside
      simpa using ih group member other inside

/-- The group open at first stands at the front of the first group. -/
theorem groupLines_prefix (openGroup lines : List Line) :
    ∃ group ∈ (groupLines openGroup lines).1 ++ [(groupLines openGroup lines).2],
      openGroup <+: group := by
  induction lines generalizing openGroup with
  | nil => exact ⟨openGroup, by simp [groupLines], List.prefix_rfl⟩
  | cons line lines ih =>
    rw [groupLines]
    split
    · exact ⟨openGroup, by simp, List.prefix_rfl⟩
    · -- The group grows by the line, and what starts with the longer one starts with it.
      obtain ⟨group, member, longer⟩ := ih (openGroup ++ [line])
      exact ⟨group, member, (List.prefix_append _ _).trans longer⟩

/-! ## The groups of a stream -/

/-- The groups of trimmed lines that a stream has closed, and the one it has left open. -/
def groups (bytes : List UInt8) : List (List Line) × List Line :=
  groupLines [] ((splitLines bytes).1.map trimReturn)

/-- What a stream with unified line ends has after its last cut. -/
def remainder (bytes : List UInt8) : List UInt8 :=
  joinLines (groups bytes).2 (splitLines bytes).2

/-- Groups of lines are what cutting a stream with unified line ends finds. -/
theorem cut_unifyLineEnds (bytes : List UInt8) :
    cut (unifyLineEnds bytes) = ((groups bytes).1.map block, remainder bytes) := by
  have feedless := (splitLines_feedless bytes).1
  have plain := (splitLines_feedless bytes).2
  -- The stream is read as its lines, so that unifying line ends trims each of them.
  conv_lhs => rw [← joinLines_splitLines bytes]
  rw [unifyLineEnds_joinLines feedless plain]
  have nothing : Unclosed [] := by simp [Unclosed]
  exact cut_groupLines nothing (trimReturn_feedless feedless) plain

/-- Bytes that arrive later close the group left open and groups of their own. -/
theorem groups_append (bytes more : List UInt8) :
    groups (bytes ++ more) =
      let later := (splitLines ((splitLines bytes).2 ++ more)).1.map trimReturn
      ((groups bytes).1 ++ (groupLines (groups bytes).2 later).1,
        (groupLines (groups bytes).2 later).2) := by
  rw [groups, splitLines_append, List.map_append, groupLines_append]
  rfl

end LiveBoard.EventStream
