import LiveBoard.Proofs.Stream.Lines
import LiveBoard.Proofs.Text.Utf8
import Mathlib.Data.List.TakeWhile

/-! Lines that lost carriage returns at their ends: how they group, and which frame they write. -/

namespace LiveBoard.EventStream

/-- One line is another one without some of the carriage returns at its end. -/
def Worn (worn line : Line) : Prop :=
  ∃ count, line = worn ++ List.replicate count carriageReturn

/-- Every line is worn by nothing. -/
theorem Worn.refl (line : Line) : Worn line line := ⟨0, by simp⟩

/-- Trimming wears a line. -/
theorem worn_trimReturn (line : Line) : Worn (trimReturn line) line := by
  rw [trimReturn]
  split
  · rename_i ends
    exact ⟨1, by simpa using (List.dropLast_append_getLast? _ ends).symm⟩
  · exact Worn.refl line

/-- A line worn twice is worn. -/
theorem Worn.trans {a b c : Line} (first : Worn a b) (second : Worn b c) : Worn a c := by
  obtain ⟨few, rfl⟩ := first
  obtain ⟨more, rfl⟩ := second
  exact ⟨few + more, by rw [List.append_assoc, List.replicate_append_replicate]⟩

/-- Wear takes nothing but carriage returns. -/
theorem Worn.mem {worn line : Line} (wear : Worn worn line) {byte : UInt8} (member : byte ∈ line)
    (other : byte ≠ carriageReturn) : byte ∈ worn := by
  obtain ⟨count, rfl⟩ := wear
  rcases List.mem_append.mp member with member | member
  · exact member
  · exact absurd (List.eq_of_mem_replicate member) other

/-- A worn line holds no line feed when the line does not. -/
theorem Worn.feedless {worn line : Line} (wear : Worn worn line) (plain : lineFeed ∉ line) :
    lineFeed ∉ worn := by
  obtain ⟨count, rfl⟩ := wear
  exact fun member => plain (List.mem_append_left _ member)

/-- A line that does not end in a carriage return is worn by nothing. -/
theorem Worn.eq_of_trimmed {worn line : Line} (wear : Worn worn line)
    (trimmed : line.getLast? ≠ some carriageReturn) : worn = line := by
  obtain ⟨count, rfl⟩ := wear
  -- A line that lost anything would end in what it lost.
  cases count with
  | zero => simp
  | succ count => simp [List.replicate_succ'] at trimmed

/-- Every line of a group but the first holds a byte other than a carriage return. -/
def Firm (group : List Line) : Prop :=
  ∀ line ∈ group.tail, ∃ byte ∈ line, byte ≠ carriageReturn

/-- However worn, a firm group stays firm. -/
theorem Firm.worn {held group : List Line} (firm : Firm group)
    (wear : List.Forall₂ Worn held group) : Firm held := by
  cases wear with
  | nil => exact firm
  | cons _ wear =>
    intro line member
    -- The byte that makes the line firm is none that wear takes.
    obtain ⟨i, inside, rfl⟩ := List.mem_iff_getElem.mp member
    have length := wear.length_eq
    obtain ⟨byte, byteMember, other⟩ := firm _ (List.getElem_mem (by simpa [← length] using inside))
    have kept := (wear.get (by simpa using inside) (by simpa [← length] using inside)).mem
      byteMember other
    exact ⟨byte, by simpa using kept, other⟩

/-- A firm group is not closed by a line of its own. -/
theorem Firm.unclosed {group : List Line} (firm : Firm group) : Unclosed group := by
  intro line member blank
  obtain ⟨byte, inside, _⟩ := firm line member
  simp [blank] at inside

/-- Lines go on from a worn group as they do from the group itself. -/
theorem groupLines_worn {held openGroup : List Line} (wear : List.Forall₂ Worn held openGroup)
    (lines : List Line) :
    List.Forall₂ (List.Forall₂ Worn) (groupLines held lines).1 (groupLines openGroup lines).1 ∧
      List.Forall₂ Worn (groupLines held lines).2 (groupLines openGroup lines).2 := by
  induction lines generalizing held openGroup with
  | nil => exact ⟨.nil, wear⟩
  | cons line lines ih =>
    -- Whether a blank line closes a group depends only on whether the group is empty.
    have empty : held ≠ [] ↔ openGroup ≠ [] := by
      rw [← List.length_pos_iff, ← List.length_pos_iff, wear.length_eq]
    simp only [groupLines, empty]
    split
    · have fresh : List.Forall₂ Worn ([] : List Line) [] := .nil
      obtain ⟨closed, left⟩ := ih fresh
      exact ⟨.cons wear closed, left⟩
    · exact ih (List.rel_append wear (.cons (Worn.refl line) .nil))

end LiveBoard.EventStream

namespace LiveBoard.Text

/-- White space at the end of a text is trimmed away. -/
theorem trimChars_append_blank (chars : List Char) {blanks : List Char}
    (blank : ∀ c ∈ blanks, isBlank c = true) : trimChars (chars ++ blanks) = trimChars chars := by
  have dropped : blanks.dropWhile isBlank = [] := List.dropWhile_eq_nil_iff.mpr blank
  have reversed : ∀ c ∈ blanks.reverse, isBlank c = true := by simpa using blank
  -- Trimming drops the white space in front first, which may already be all there is.
  unfold trimChars
  rw [List.dropWhile_append]
  split
  · rename_i empty
    simp [dropped, List.isEmpty_iff.mp empty]
  · rw [List.reverse_append, List.dropWhile_append_of_pos reversed]

end LiveBoard.Text

namespace LiveBoard.Frame

open Text (trimChars ofUtf8)

/-- Carriage returns at the end of a line, as characters. -/
def returns (count : Nat) : List Char := List.replicate count '\r'

/-- A field of a line is what it is without the carriage returns at the end of the line. -/
theorem field?_returns {start : String} (plain : '\r' ∉ start.toList) (line : List Char)
    (count : Nat) : field? start (line ++ returns count) = field? start line := by
  have starts : start.toList.isPrefixOf (line ++ returns count) = start.toList.isPrefixOf line := by
    rw [Bool.eq_iff_iff, List.isPrefixOf_iff_prefix, List.isPrefixOf_iff_prefix]
    induction count with
    | zero => simp [returns]
    | succ count ih =>
      -- A start that reached up to the last carriage return would hold it.
      rw [returns, List.replicate_succ', ← List.append_assoc, List.prefix_concat_iff, ← returns, ih]
      exact or_iff_right fun same => plain (by simp [same])
  -- The start is found in both or in neither, and white space at the end is trimmed anyway.
  simp only [field?, starts]
  split
  · rename_i starts
    have long := (List.isPrefixOf_iff_prefix.mp starts).length_le
    rw [List.drop_append_of_le_length long, Text.trimChars_append_blank]
    intro c member
    rw [List.eq_of_mem_replicate member]
    decide
  · rfl

/-- A line is read as it is without the carriage returns at its end. -/
theorem readLine_returns (frame : Frame) (line : List Char) (count : Nat) :
    frame.readLine (line ++ returns count) = frame.readLine line := by
  unfold readLine
  rw [field?_returns (by decide), field?_returns (by decide)]

/-- Read the lines of a text one after the other. -/
def readText (frame : Frame) (text : List Char) : Frame := (lines text).foldl readLine frame

/-- Text on both sides of a line end is read one side after the other. -/
theorem readText_append (frame : Frame) (before after : List Char) :
    frame.readText (before ++ '\n' :: after) = (frame.readText before).readText after := by
  simp only [readText, lines]
  rw [List.splitOn_append_cons_self, List.foldl_append]

/-- Carriage returns at the end of a text end its last line. -/
theorem lines_returns (text : List Char) (count : Nat) :
    ∃ earlier last, lines text = earlier ++ [last] ∧
      lines (text ++ returns count) = earlier ++ [last ++ returns count] := by
  induction text with
  | nil =>
    refine ⟨[], [], by simp [lines], ?_⟩
    simp only [lines, List.nil_append]
    exact List.splitOn_eq_singleton (by simp [returns])
  | cons c text ih =>
    obtain ⟨earlier, last, whole, longer⟩ := ih
    simp only [lines, List.cons_append, List.splitOn_cons_eq_if_modifyHead] at whole longer ⊢
    rw [whole, longer]
    -- A line feed in front opens a line of its own; any other character joins the first.
    split
    · exact ⟨[] :: earlier, last, by simp, by simp⟩
    · cases earlier with
      | nil => exact ⟨[], c :: last, by simp, by simp⟩
      | cons first earlier => exact ⟨(c :: first) :: earlier, last, by simp, by simp⟩

/-- A text is read as it is without the carriage returns at its end. -/
theorem readText_returns (frame : Frame) (text : List Char) (count : Nat) :
    frame.readText (text ++ returns count) = frame.readText text := by
  obtain ⟨earlier, last, whole, longer⟩ := lines_returns text count
  simp [readText, whole, longer, readLine_returns]

end LiveBoard.Frame

namespace LiveBoard.EventStream

open Text (ofUtf8)

/-- Carriage returns at the end of a line are decoded as such. -/
theorem ofUtf8_returns (line : Line) (count : Nat) :
    ofUtf8 (line ++ List.replicate count carriageReturn) = ofUtf8 line ++ Frame.returns count := by
  induction count generalizing line with
  | zero => simp [Frame.returns]
  | succ count ih =>
    -- One carriage return is a byte of ASCII, and ends whatever was begun before it.
    have one : ofUtf8 (line ++ [carriageReturn]) = ofUtf8 line ++ ['\r'] :=
      Text.ofUtf8_append_ascii (by decide) line []
    rw [List.replicate_succ, ← List.singleton_append, ← List.append_assoc, ih, one]
    simp [Frame.returns, List.replicate_succ]

/-- A worn line is read as the line itself. -/
theorem Worn.readText {worn line : Line} (wear : Worn worn line) (frame : Frame) :
    frame.readText (ofUtf8 worn) = frame.readText (ofUtf8 line) := by
  obtain ⟨count, rfl⟩ := wear
  rw [ofUtf8_returns, Frame.readText_returns]

/-- A block is decoded line by line. -/
theorem ofUtf8_line (line : Line) (bytes : List UInt8) :
    ofUtf8 (line ++ lineFeed :: bytes) = ofUtf8 line ++ '\n' :: ofUtf8 bytes :=
  Text.ofUtf8_append_ascii (by decide) line bytes

/-- Worn lines write the frame that the lines themselves write. -/
theorem parse_block_worn {held group : List Line} (wear : List.Forall₂ Worn held group) :
    Frame.parse (block held) = Frame.parse (block group) := by
  -- The lines before have been read into a frame by then, so any frame has to do.
  have general : ∀ frame : Frame,
      frame.readText (ofUtf8 (block held)) = frame.readText (ofUtf8 (block group)) := by
    induction wear with
    | nil => intro frame; rfl
    | @cons worn line held group head tail ih =>
      intro frame
      -- The last line has no line feed after it.
      cases tail with
      | nil => simpa [block] using head.readText frame
      | cons next tail =>
        simp only [block, List.intercalate_cons_cons, List.append_assoc, List.singleton_append,
          ofUtf8_line, Frame.readText_append, head.readText] at ih ⊢
        exact ih _
  exact general ⟨Frame.defaultEvent, ""⟩

end LiveBoard.EventStream
