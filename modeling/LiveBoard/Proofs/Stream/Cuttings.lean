import LiveBoard.Proofs.Stream.Pieces

/-! Streams whose frames depend on how they were cut into chunks, and those whose frames do not. -/

namespace LiveBoard.EventStream

/-- Chunks that make up a stream, none of them empty. -/
def Cutting (bytes : List UInt8) (chunks : List (List UInt8)) : Prop :=
  chunks.flatten = bytes ∧ ∀ chunk ∈ chunks, chunk ≠ []

/-- A stream gives the same frames however it is cut, when the limit could hold all of it. -/
def Invisible (bytes : List UInt8) : Prop :=
  ∀ limit, bytes.length ≤ limit → ∀ one other, Cutting bytes one → Cutting bytes other →
    frames ((Decoder.new limit).pushAll one).2 = frames ((Decoder.new limit).pushAll other).2

/-- Unifying line ends makes bytes no longer. -/
theorem length_unifyLineEnds_le (bytes : List UInt8) :
    (unifyLineEnds bytes).length ≤ bytes.length := by
  induction bytes with
  | nil => rfl
  | cons byte bytes ih =>
    rw [unifyLineEnds_cons]
    split <;> simp only [List.length_cons] <;> omega

/-- What is left after the last cut is the end of the bytes. -/
theorem cut_suffix (bytes : List UInt8) : (cut bytes).2 <:+ bytes := by
  rw [cut_eq_pieces]
  -- What is left of the pieces is left of what stands after the first pair.
  induction bytes using pieces.induct with
  | case1 bytes none => simp [pieces_eq bytes, none]
  | case2 bytes before after found ih =>
    simp only [pieces_eq bytes, found]
    rw [atBlankLine?_append found]
    exact ih.trans ⟨before ++ [lineFeed, lineFeed], by simp⟩

/-- What a stream leaves open is no longer than the stream. -/
theorem length_remainder_le (bytes : List UInt8) : (remainder bytes).length ≤ bytes.length := by
  have left : remainder bytes = (cut (unifyLineEnds bytes)).2 := by rw [cut_unifyLineEnds]
  rw [left]
  exact (cut_suffix _).length_le.trans (length_unifyLineEnds_le bytes)

/-- A steady stream gives the frames of its groups, however it is cut. -/
theorem Steady.frames_pushAll {bytes : List UInt8} (steady : Steady bytes) {limit : Nat}
    (large : bytes.length ≤ limit) {chunks : List (List UInt8)} (whole : chunks.flatten = bytes) :
    frames ((Decoder.new limit).pushAll chunks).2 = (groups bytes).1.map frameOf := by
  subst whole
  obtain ⟨_, given, _⟩ := (holds_new limit).pushAll chunks steady (by
    intro arrived starts
    have shorter : arrived.flatten.length ≤ chunks.flatten.length := starts.flatten.length_le
    exact (length_remainder_le arrived.flatten).trans (shorter.trans large))
  simpa [groups, groupLines, splitLines] using given

/-- A push that the limit could hold cuts all that is pending. -/
theorem push_fits {limit : Nat} {pending chunk : List UInt8} (filled : chunk ≠ [])
    (fits : pending.length + chunk.length ≤ limit) :
    (⟨limit, pending⟩ : Decoder).push chunk =
      (⟨limit, (cut (unifyLineEnds (pending ++ chunk))).2⟩,
        ⟨(cut (unifyLineEnds (pending ++ chunk))).1.map Frame.parse, none⟩) := by
  have left := (cut_suffix (unifyLineEnds (pending ++ chunk))).length_le
  have unified := length_unifyLineEnds_le (pending ++ chunk)
  -- Neither unifying nor cutting makes the bytes longer, so the limit holds what is left.
  have small : ¬ limit < (cut (unifyLineEnds (pending ++ chunk))).2.length := by
    simp only [List.length_append] at unified
    omega
  simp [Decoder.push, filled, small]

/-- A stream pushed as one chunk completes one frame for each group that it closes. -/
theorem push_whole {limit : Nat} {bytes : List UInt8} (filled : bytes ≠ [])
    (large : bytes.length ≤ limit) :
    (Decoder.new limit).push bytes =
      (⟨limit, remainder bytes⟩, ⟨(groups bytes).1.map frameOf, none⟩) := by
  rw [Decoder.new, push_fits filled (by simpa using large), List.nil_append, cut_unifyLineEnds,
    List.map_map]
  rfl

/-- The groups of ended lines do not depend on what follows them. -/
theorem groups_joinLines {lines : List Line} {rest : Line} (feedless : Feedless lines)
    (plain : lineFeed ∉ rest) :
    groups (joinLines lines rest) = groupLines [] (lines.map trimReturn) ∧
      remainder (joinLines lines rest) =
        joinLines (groupLines [] (lines.map trimReturn)).2 rest := by
  simp [remainder, groups, splitLines_joinLines feedless, splitLines_rest plain]

/-! ## Lines of carriage returns -/

/-- Trimming takes one carriage return from a line of them. -/
theorem trimReturn_returns (count : Nat) :
    trimReturn (List.replicate (count + 1) carriageReturn) =
      List.replicate count carriageReturn := by
  simp [trimReturn, List.replicate_succ']

/-- Trimming each line of a group wears the group. -/
theorem worn_map_trimReturn (group : List Line) :
    List.Forall₂ Worn (group.map trimReturn) group := by
  rw [List.forall₂_map_left_iff]
  exact List.forall₂_same.mpr fun line _ => worn_trimReturn line

/--
One more byte wears every line that is pending.

The last of them closes the group when it is worn down to nothing.
-/
theorem push_byte {limit : Nat} {held : List Line} {line rest : Line} {byte : UInt8}
    (firm : Firm held) (feedless : Feedless (held ++ [line])) (plain : lineFeed ∉ rest ++ [byte])
    (fits : (joinLines (held ++ [line]) rest).length + 1 ≤ limit) :
    (⟨limit, joinLines (held ++ [line]) rest⟩ : Decoder).push [byte] =
      (⟨limit, joinLines (groupLines (held.map trimReturn) [trimReturn line]).2 (rest ++ [byte])⟩,
        ⟨(groupLines (held.map trimReturn) [trimReturn line]).1.map frameOf, none⟩) := by
  have trimmed := trimReturn_feedless feedless
  rw [List.map_append] at trimmed
  -- All lines that are held are trimmed again, and no blank one was among them before.
  rw [push_fits (by simp) (by simpa using fits), joinLines_append,
    unifyLineEnds_joinLines feedless plain, List.map_append,
    cut_groupLines (firm.worn (worn_map_trimReturn held)).unclosed trimmed plain, List.map_map]
  rfl

/-- A line of carriage returns holds no line feed. -/
theorem feedless_returns {held : List Line} (feedless : Feedless held) (count : Nat) :
    Feedless (held ++ [List.replicate count carriageReturn]) := by
  intro line member feed
  rcases List.mem_append.mp member with member | same
  · exact feedless line member feed
  · rw [List.mem_singleton.mp same] at feed
    exact absurd (List.eq_of_mem_replicate feed) (by decide)

/-- A line of carriage returns, followed byte by byte, comes to close its group. -/
theorem frames_returns {limit count : Nat} {held : List Line} {rest : Line} {byte : UInt8}
    (other : lineFeed ≠ byte) (firm : Firm held) (nonempty : held ≠ []) (feedless : Feedless held)
    (plain : lineFeed ∉ rest)
    (fits : (joinLines (held ++ [List.replicate (count + 1) carriageReturn]) rest).length +
      (count + 1) ≤ limit) :
    (frames ((⟨limit, joinLines (held ++ [List.replicate (count + 1) carriageReturn])
      rest⟩ : Decoder).pushAll (List.replicate (count + 1) [byte])).2).length = 1 := by
  induction count generalizing held rest with
  | zero =>
    -- The line is worn down to nothing by the byte at hand, and no byte comes after it.
    rw [@List.replicate_succ _ [byte], frames_pushAll_cons,
      push_byte firm (feedless_returns feedless 1) (by simp [plain, other]) fits,
      trimReturn_returns]
    simp [groupLines, nonempty, Decoder.pushAll, frames]
  | succ count ih =>
    -- All lines lose a carriage return to the byte, and one byte less has to come.
    have wear := worn_map_trimReturn held
    have worn : List.Forall₂ Worn
        (held.map trimReturn ++ [List.replicate (count + 1) carriageReturn])
        (held ++ [List.replicate (count + 1 + 1) carriageReturn]) :=
      List.rel_append wear (.cons (trimReturn_returns (count + 1) ▸ worn_trimReturn _) .nil)
    have shorter := length_joinLines_worn worn rest
    rw [@List.replicate_succ _ [byte], frames_pushAll_cons,
      push_byte firm (feedless_returns feedless (count + 1 + 1)) (by simp [plain, other])
        (by omega),
      trimReturn_returns]
    simp only [groupLines, List.replicate_succ, reduceCtorEq, false_and, if_false, List.map_nil,
      List.nil_append]
    refine ih (firm.worn wear) (by simpa using nonempty) (feedless_worn wear feedless)
      (by simp [plain, other]) ?_
    rw [← joinLines_append, List.length_append, List.length_singleton]
    omega

/-- A group stays firm with one more line, unless that is no first line and firm by itself. -/
theorem Firm.append {openGroup : List Line} (firm : Firm openGroup) {line : Line}
    (goes : openGroup ≠ [] → ∃ byte ∈ line, byte ≠ carriageReturn) :
    Firm (openGroup ++ [line]) := by
  intro other member
  -- The first line of a group is free, so only a later one is looked at.
  cases openGroup with
  | nil => simp at member
  | cons first openGroup =>
    simp only [List.cons_append, List.tail_cons, List.mem_append, List.mem_singleton] at member
    rcases member with member | same
    · exact firm other member
    · exact same ▸ goes (by simp)

/-- The first line of carriage returns that a group has after its first line. -/
theorem exists_returns {openGroup lines : List Line} (firm : Firm openGroup)
    (unfirm : ¬ ∀ group ∈ (groupLines openGroup (lines.map trimReturn)).1 ++
      [(groupLines openGroup (lines.map trimReturn)).2], Firm group) :
    ∃ before line count, before ++ [line] <+: lines ∧
      trimReturn line = List.replicate (count + 1) carriageReturn ∧
      (groupLines openGroup (before.map trimReturn)).2 ≠ [] ∧
      Firm (groupLines openGroup (before.map trimReturn)).2 := by
  induction lines generalizing openGroup with
  | nil => simp [groupLines, firm] at unfirm
  | cons line lines ih =>
    by_cases closes : trimReturn line = [] ∧ openGroup ≠ []
    · -- The group is closed firm, so the line to be found is in a later one.
      have empty : Firm [] := by simp [Firm]
      obtain ⟨before, other, count, starts, returns, nonempty, before_firm⟩ := ih empty (by
        simpa [groupLines, closes, firm] using unfirm)
      exact ⟨line :: before, other, count, by simpa using starts, returns,
        by simpa [groupLines, closes] using nonempty,
        by simpa [groupLines, closes] using before_firm⟩
    · by_cases longer : Firm (openGroup ++ [trimReturn line])
      · obtain ⟨before, other, count, starts, returns, nonempty, before_firm⟩ := ih longer (by
          simpa [groupLines, closes] using unfirm)
        exact ⟨line :: before, other, count, by simpa using starts, returns,
          by simpa [groupLines, closes] using nonempty,
          by simpa [groupLines, closes] using before_firm⟩
      · -- The line itself is the one: it is not blank, and holds nothing but carriage returns.
        have opened : ¬ (openGroup ≠ [] → ∃ byte ∈ trimReturn line, byte ≠ carriageReturn) :=
          fun goes => longer (firm.append goes)
        push Not at opened
        obtain ⟨nonempty, returns⟩ := opened
        have filled : trimReturn line ≠ [] := fun blank => closes ⟨blank, nonempty⟩
        have size : (trimReturn line).length - 1 + 1 = (trimReturn line).length :=
          Nat.sub_add_cancel (List.length_pos_iff.mpr filled)
        exact ⟨[], line, (trimReturn line).length - 1, by simp,
          size ▸ List.eq_replicate_of_mem returns, by simpa [groupLines] using nonempty,
          by simpa [groupLines] using firm⟩

/-- Lines without carriage returns leave the groups firm that they continue. -/
theorem groupLines_firm {openGroup lines : List Line} (firm : Firm openGroup)
    (free : ∀ line ∈ lines, carriageReturn ∉ line) :
    ∀ group ∈ (groupLines openGroup lines).1 ++ [(groupLines openGroup lines).2], Firm group := by
  induction lines generalizing openGroup with
  | nil => simpa [groupLines] using firm
  | cons line lines ih =>
    have later : ∀ line ∈ lines, carriageReturn ∉ line := fun other member =>
      free other (by simp [member])
    rw [groupLines]
    split
    · intro group member
      rcases List.mem_cons.mp (List.cons_append .. ▸ member) with same | member
      · exact same ▸ firm
      · exact ih (by simp [Firm]) later group member
    · rename_i goes
      -- A line that is not blank holds a byte, which is no carriage return.
      refine ih (firm.append fun nonempty => ?_) later
      have filled : line ≠ [] := fun blank => goes ⟨blank, nonempty⟩
      obtain ⟨byte, inside⟩ := List.exists_mem_of_ne_nil line filled
      exact ⟨byte, inside, fun same => free line (by simp) (same ▸ inside)⟩

/-- The bytes of a line are among the bytes that it was split from. -/
theorem mem_of_mem_splitLines {bytes : List UInt8} {line : Line}
    (member : line ∈ (splitLines bytes).1) {byte : UInt8} (inside : byte ∈ line) :
    byte ∈ bytes := by
  -- Joining the lines gives the bytes back, and keeps every byte of every line.
  have general : ∀ lines rest, line ∈ lines → byte ∈ joinLines lines rest := by
    intro lines rest member
    induction lines with
    | nil => simp at member
    | cons first lines ih =>
      rcases List.mem_cons.mp member with rfl | member
      · simp [joinLines, inside]
      · simp [joinLines, ih member]
  simpa using general _ (splitLines bytes).2 member

/-- A steady stream stays so when it goes on from any line with bytes but carriage returns. -/
theorem Steady.continue {bytes more : List UInt8} {lines : List Line} (steady : Steady bytes)
    (starts : lines <+: (splitLines bytes).1) (free : carriageReturn ∉ more) :
    Steady (joinLines lines [] ++ more) := by
  obtain ⟨others, split⟩ := starts
  have feedless : Feedless lines := fun line member =>
    (splitLines_feedless bytes).1 line (by simp [← split, member])
  have whole : bytes = joinLines lines [] ++ joinLines others (splitLines bytes).2 := by
    rw [joinLines_append, List.nil_append, joinLines_joinLines, split, joinLines_splitLines]
  have before : Steady (joinLines lines []) := by
    rw [whole] at steady
    exact steady.of_append
  have same : splitLines (joinLines lines []) = (lines, []) := by
    simp [splitLines_joinLines feedless, splitLines]
  -- Trimming brings no byte into a line that was not there before.
  have trimmed : ∀ line ∈ (splitLines more).1.map trimReturn, carriageReturn ∉ line := by
    intro line member inside
    obtain ⟨raw, rawMember, rfl⟩ := List.mem_map.mp member
    obtain ⟨count, same⟩ := worn_trimReturn raw
    refine free (mem_of_mem_splitLines rawMember ?_)
    rw [same]
    exact List.mem_append_left _ inside
  have later := groupLines_firm (before (groups (joinLines lines [])).2 (by simp)) trimmed
  intro group member
  rw [groups_append, same] at member
  simp only [List.nil_append, List.append_assoc, List.mem_append] at member
  rcases member with closed | member
  · exact before group (List.mem_append_left _ closed)
  · exact later group (List.mem_append.mpr member)

/-- A steady stream gives the same frames however it is cut. -/
theorem Steady.invisible {bytes : List UInt8} (steady : Steady bytes) : Invisible bytes := by
  intro limit large one other cut cut'
  rw [steady.frames_pushAll large cut.1, steady.frames_pushAll large cut'.1]

/-- Enough bytes after a line of carriage returns make it visible how they were cut. -/
theorem not_invisible_returns {before : List Line} {line : Line} {count : Nat} {byte : UInt8}
    (feedless : Feedless (before ++ [line])) (other : lineFeed ≠ byte)
    (returns : trimReturn line = List.replicate (count + 1) carriageReturn)
    (nonempty : (groupLines [] (before.map trimReturn)).2 ≠ [])
    (firm : Firm (groupLines [] (before.map trimReturn)).2) :
    ¬ Invisible (joinLines (before ++ [line]) [] ++ List.replicate (count + 1) byte) := by
  -- The line of carriage returns is not blank, so it joins the group that is open.
  have grouped : groupLines [] ((before ++ [line]).map trimReturn) =
      ((groupLines [] (before.map trimReturn)).1,
        (groupLines [] (before.map trimReturn)).2 ++
          [List.replicate (count + 1) carriageReturn]) := by
    rw [List.map_append, groupLines_append]
    simp [groupLines, returns, List.replicate_succ]
  have plain : lineFeed ∉ List.replicate (count + 1) byte := fun member =>
    other (List.eq_of_mem_replicate member)
  obtain ⟨atStart, left⟩ := groups_joinLines feedless (by simp : lineFeed ∉ [])
  obtain ⟨atEnd, _⟩ := groups_joinLines feedless plain
  rw [grouped] at atStart atEnd left
  rw [← List.nil_append (List.replicate _ _), ← joinLines_append] at atEnd
  have filled : joinLines (before ++ [line]) [] ≠ [] := by
    rw [joinLines_block (by simp)]
    simp
  generalize joinLines (before ++ [line]) [] = start at atStart atEnd left filled ⊢
  have held : Feedless (groupLines [] (before.map trimReturn)).2 := fun line member =>
    groups_feedless start line (by simp [atStart, member])
  have size := length_remainder_le start
  intro invisible
  obtain ⟨limit, large⟩ : ∃ limit, (start ++ List.replicate (count + 1) byte).length ≤ limit :=
    ⟨_, le_rfl⟩
  have room : start.length + (count + 1) ≤ limit := by simpa using large
  -- As one chunk the stream leaves the group open that its single bytes come to close.
  have visible := invisible limit large [start ++ List.replicate (count + 1) byte]
    (start :: List.replicate (count + 1) [byte]) ⟨by simp, by simp⟩ ⟨by simp, by simp [filled]⟩
  -- Pushed alone, the bytes wear the line down until it closes the group.
  have closing : (frames ((⟨limit, remainder start⟩ : Decoder).pushAll
      (List.replicate (count + 1) [byte])).2).length = 1 := by
    rw [left] at size ⊢
    exact frames_returns other firm nonempty held (by simp)
      ((Nat.add_le_add_right size _).trans room)
  -- All frames before that are the same, so there is one frame too many.
  rw [frames_pushAll_cons, frames_pushAll_cons, push_whole (by simp) large,
    push_whole filled (by omega), atStart, atEnd] at visible
  have counted := congrArg List.length visible
  rw [List.length_append, List.length_append] at counted
  have added := Nat.add_left_cancel counted
  rw [closing] at added
  simp [Decoder.pushAll, frames] at added

/-- Chunking is visible in a stream whose second line is two carriage returns. -/
theorem not_forall_invisible : ¬ ∀ bytes, Invisible bytes := by
  intro invisible
  have feedless : Feedless ([[97]] ++ [[carriageReturn, carriageReturn]]) := by
    simp [Feedless, lineFeed, carriageReturn]
  have firm : Firm (groupLines [] ([[97]].map trimReturn)).2 := by simp [Firm, groupLines]
  exact not_invisible_returns (by exact feedless) (by decide) (by decide) (by decide) firm
    (invisible (joinLines [[97], [carriageReturn, carriageReturn]] [] ++ List.replicate 1 98))

/--
Chunking is invisible exactly when a stream is steady.

A line of carriage returns after the first of its group makes it visible as soon as enough bytes
come after it, and without such a line nothing that goes on from the lines of the stream does.
-/
theorem steady_iff_invisible (bytes : List UInt8) :
    Steady bytes ↔ Invisible bytes ∧
      ∀ lines, lines <+: (splitLines bytes).1 → ∀ more, carriageReturn ∉ more →
        Invisible (joinLines lines [] ++ more) := by
  constructor
  · intro steady
    exact ⟨steady.invisible, fun lines starts more free => (steady.continue starts free).invisible⟩
  · rintro ⟨_, invisible⟩
    by_contra unsteady
    have empty : Firm [] := by simp [Firm]
    -- The first line of carriage returns is followed by as many bytes as it is long.
    obtain ⟨before, line, count, starts, returns, nonempty, firm⟩ := exists_returns empty unsteady
    have feedless : Feedless (before ++ [line]) := fun other member =>
      (splitLines_feedless bytes).1 other (starts.subset member)
    have free : carriageReturn ∉ List.replicate (count + 1) (120 : UInt8) := fun member =>
      absurd (List.eq_of_mem_replicate member) (by decide)
    exact not_invisible_returns feedless (by decide) returns nonempty firm
      (invisible _ starts _ free)

end LiveBoard.EventStream
