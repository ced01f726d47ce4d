import LiveBoard.Proofs.Stream.Wear

/-! A stream that arrives in chunks gives the frames of the whole stream. -/

namespace LiveBoard.EventStream

/-- Push chunks one after the other. -/
def Decoder.pushAll (decoder : Decoder) : List (List UInt8) → Decoder × List Report
  | [] => (decoder, [])
  | chunk :: chunks =>
    let (next, report) := decoder.push chunk
    let (last, reports) := pushAll next chunks
    (last, report :: reports)

/-- The frames of reports, in order. -/
def frames (reports : List Report) : List Frame := reports.flatMap Report.frames

/-- The frames of the first chunk come before those of the chunks after it. -/
theorem frames_pushAll_cons (decoder : Decoder) (chunk : List UInt8) (chunks : List (List UInt8)) :
    frames (decoder.pushAll (chunk :: chunks)).2 =
      (decoder.push chunk).2.frames ++ frames ((decoder.push chunk).1.pushAll chunks).2 := by
  simp [Decoder.pushAll, frames]

/-- The frame that a group of lines writes. -/
def frameOf (group : List Line) : Frame := Frame.parse (block group)

/-- No group of a stream has, after its first line, a line of nothing but carriage returns. -/
def Steady (bytes : List UInt8) : Prop :=
  ∀ group ∈ (groups bytes).1 ++ [(groups bytes).2], Firm group

/-- A stream is steady from its start. -/
theorem Steady.of_append {bytes more : List UInt8} (steady : Steady (bytes ++ more)) :
    Steady bytes := by
  rw [Steady, groups_append] at steady
  -- Groups that were closed by then are groups of the longer stream as well.
  intro group member
  rcases List.mem_append.mp member with closed | left
  · exact steady group (by simp [closed])
  · -- The group left open is the start of one that the longer stream has.
    obtain ⟨longer, inside, starts⟩ := groupLines_prefix (groups bytes).2
      ((splitLines ((splitLines bytes).2 ++ more)).1.map trimReturn)
    have firm : Firm longer := steady longer (by simp_all)
    obtain ⟨later, same⟩ := starts
    rw [List.mem_singleton.mp left]
    intro line lineMember
    refine firm line ?_
    rw [← same]
    -- The first line of a group is free, so a line after it is one after the first of the longer.
    cases opened : (groups bytes).2 with
    | nil => simp [opened] at lineMember
    | cons first others =>
      rw [opened] at lineMember
      simp only [List.cons_append, List.tail_cons, List.mem_append] at lineMember ⊢
      exact Or.inl lineMember

/-- A decoder holds what a stream has left open, with its lines worn by the pushes. -/
def Holds (decoder : Decoder) (bytes : List UInt8) : Prop :=
  ∃ held, List.Forall₂ Worn held (groups bytes).2 ∧
    decoder.pending = joinLines held (splitLines bytes).2

/-- A decoder that has received nothing holds what the empty stream has left open. -/
theorem holds_new (limit : Nat) : Holds (.new limit) [] := ⟨[], .nil, rfl⟩

/-- Worn lines are no longer than the lines themselves. -/
theorem length_joinLines_worn {held group : List Line} (wear : List.Forall₂ Worn held group)
    (rest : Line) : (joinLines held rest).length ≤ (joinLines group rest).length := by
  -- A worn line is one that lost some carriage returns at its end.
  induction wear with
  | nil => simp
  | cons head _ ih =>
    obtain ⟨count, rfl⟩ := head
    simp only [joinLines, List.length_append, List.length_cons, List.length_replicate]
    omega

/-- Worn lines hold no line feed when the lines themselves hold none. -/
theorem feedless_worn {held group : List Line} (wear : List.Forall₂ Worn held group)
    (feedless : Feedless group) : Feedless held := by
  -- Wearing a line down brings no byte into it.
  induction wear with
  | nil => exact feedless
  | cons head _ ih =>
    intro line member
    rcases List.mem_cons.mp member with same | member
    · exact same ▸ head.feedless (feedless _ (by simp))
    · exact ih (fun other inside => feedless other (by simp [inside])) line member

/-- Groups worn alike write the same frames. -/
theorem map_frameOf_worn {held closed : List (List Line)}
    (wear : List.Forall₂ (List.Forall₂ Worn) held closed) :
    held.map frameOf = closed.map frameOf := by
  induction wear with
  | nil => rfl
  | cons head _ ih => simp only [List.map_cons, ih, frameOf, parse_block_worn head]

/-- Groups of a stream hold no line feed. -/
theorem groups_feedless (bytes : List UInt8) : Feedless (groups bytes).2 := by
  intro line member
  -- Every line of a group is one that was split off, trimmed.
  have arrived : line ∈ [] ++ (splitLines bytes).1.map trimReturn :=
    groupLines_mem (groups bytes).2 (List.mem_append_right _ (List.mem_singleton.mpr rfl)) line
      member
  exact trimReturn_feedless (splitLines_feedless bytes).1 line (by simpa using arrived)

section Step

variable {decoder : Decoder} {bytes : List UInt8}

/-- The trimmed lines that a chunk ends. -/
def arrivals (bytes chunk : List UInt8) : List Line :=
  (splitLines ((splitLines bytes).2 ++ chunk)).1.map trimReturn

/-- With a chunk, a decoder has the lines it held, worn once more, and those that the chunk ends. -/
theorem Holds.pending (holds : Holds decoder bytes) (chunk : List UInt8) :
    ∃ held, List.Forall₂ Worn held (groups bytes).2 ∧
      (if chunk.isEmpty then decoder.pending else unifyLineEnds (decoder.pending ++ chunk)) =
        joinLines (held ++ arrivals bytes chunk) (splitLines (bytes ++ chunk)).2 := by
  obtain ⟨held, wear, pending⟩ := holds
  have plain := (splitLines_feedless bytes).2
  cases chunk with
  -- An empty chunk leaves what is held as it is, and any other unifies all of it once more.
  | nil => exact ⟨held, wear, by simp [arrivals, splitLines_rest plain, pending]⟩
  | cons byte chunk =>
    -- The chunk continues the unfinished line, so its lines come after those held.
    let next := splitLines ((splitLines bytes).2 ++ byte :: chunk)
    have feedless : Feedless (held ++ next.1) := by
      intro line member
      rcases List.mem_append.mp member with member | member
      · exact feedless_worn wear (groups_feedless bytes) line member
      · exact (splitLines_feedless _).1 line member
    have joined : decoder.pending ++ byte :: chunk = joinLines (held ++ next.1) next.2 := by
      rw [pending, joinLines_append, ← joinLines_joinLines, joinLines_splitLines]
    refine ⟨held.map trimReturn, ?_, ?_⟩
    · -- The lines that were held are trimmed again, which wears them once more.
      rw [List.forall₂_map_left_iff]
      exact wear.imp fun worn line head => (worn_trimReturn worn).trans head
    · rw [joined, unifyLineEnds_joinLines feedless (splitLines_feedless _).2,
        splitLines_append bytes, List.map_append]
      rfl

/--
A chunk completes the frames of the groups that it closes.

The decoder goes on to hold what the longer stream has left open.
-/
theorem Holds.push (holds : Holds decoder bytes) {chunk : List UInt8}
    (steady : Steady (bytes ++ chunk))
    (fits : (remainder (bytes ++ chunk)).length ≤ decoder.limit) :
    ∃ closed, (groups (bytes ++ chunk)).1 = (groups bytes).1 ++ closed ∧
      (decoder.push chunk).2 = ⟨closed.map frameOf, none⟩ ∧
      (decoder.push chunk).1.limit = decoder.limit ∧
      Holds (decoder.push chunk).1 (bytes ++ chunk) := by
  obtain ⟨held, wear, pending⟩ := holds.pending chunk
  -- What was left open is firm, so no line of it is worn down to a blank one.
  have firm : Firm (groups bytes).2 := steady.of_append _ (by simp)
  have whole : groups (bytes ++ chunk) =
      ((groups bytes).1 ++ (groupLines (groups bytes).2 (arrivals bytes chunk)).1,
        (groupLines (groups bytes).2 (arrivals bytes chunk)).2) := groups_append bytes chunk
  obtain ⟨closed, left⟩ := groupLines_worn wear (arrivals bytes chunk)
  -- The worn lines fall into groups as the lines themselves do.
  have feedless : Feedless (held ++ arrivals bytes chunk) := by
    intro line member
    rcases List.mem_append.mp member with member | member
    · exact feedless_worn wear (groups_feedless bytes) line member
    · exact trimReturn_feedless (splitLines_feedless _).1 line member
  have cuts := cut_groupLines (firm.worn wear).unclosed feedless
    (splitLines_feedless (bytes ++ chunk)).2
  -- What is left is no longer than what the stream itself has left, which is within the limit.
  have small : ¬ decoder.limit <
      (joinLines (groupLines held (arrivals bytes chunk)).2
        (splitLines (bytes ++ chunk)).2).length := by
    have shorter := length_joinLines_worn left (splitLines (bytes ++ chunk)).2
    rw [remainder, whole] at fits
    exact Nat.not_lt.mpr (shorter.trans fits)
  refine ⟨(groupLines (groups bytes).2 (arrivals bytes chunk)).1, by rw [whole], ?_⟩
  simp only [Decoder.push, pending, cuts, if_neg small, List.map_map]
  refine ⟨?_, trivial, (groupLines held (arrivals bytes chunk)).2, ?_, rfl⟩
  · -- The groups that are closed are worn, but they write the frames of the groups themselves.
    rw [← map_frameOf_worn closed]
    rfl
  · rw [whole]
    exact left

end Step

/-- Chunks give the frames of the groups that they close, as long as their stream is steady. -/
theorem Holds.pushAll {decoder : Decoder} {bytes : List UInt8} (holds : Holds decoder bytes)
    (chunks : List (List UInt8)) (steady : Steady (bytes ++ chunks.flatten))
    (fits : ∀ arrived, arrived <+: chunks →
      (remainder (bytes ++ arrived.flatten)).length ≤ decoder.limit) :
    Holds (decoder.pushAll chunks).1 (bytes ++ chunks.flatten) ∧
      (groups bytes).1.map frameOf ++ frames (decoder.pushAll chunks).2 =
        (groups (bytes ++ chunks.flatten)).1.map frameOf ∧
      ∀ report ∈ (decoder.pushAll chunks).2, report.overflow = none := by
  induction chunks generalizing decoder bytes with
  | nil => simpa [Decoder.pushAll, frames] using holds
  | cons chunk chunks ih =>
    -- The invariant is carried from chunk to chunk, with the stream that has arrived by then.
    rw [List.flatten_cons, ← List.append_assoc] at steady ⊢
    obtain ⟨closed, grown, report, limit, next⟩ :=
      holds.push steady.of_append (by simpa using fits [chunk] (by simp))
    obtain ⟨last, later, none⟩ := ih next steady (by
      intro arrived starts
      rw [limit]
      simpa using fits (chunk :: arrived) (by simpa using starts))
    refine ⟨last, ?_, ?_⟩
    · rw [← later, grown, frames_pushAll_cons, report, List.map_append, List.append_assoc]
    · simpa [Decoder.pushAll, report] using none

/-! ## Streams whose lines end in at most one carriage return -/

/-- No line of a stream has two carriage returns before its line feed. -/
def Plain (bytes : List UInt8) : Prop :=
  ¬ [carriageReturn, carriageReturn, lineFeed] <:+: bytes

/-- Trimmed lines of a plain stream do not end in a carriage return. -/
theorem Plain.trimmed {lines : List Line} {rest : Line} (plain : Plain (joinLines lines rest)) :
    ∀ line ∈ lines.map trimReturn, line.getLast? ≠ some carriageReturn := by
  -- Along the lines, each of which stands before a line feed of the stream.
  induction lines with
  | nil => simp
  | cons line lines ih =>
    -- What holds of the whole stream holds of what comes after its first line.
    have tail : Plain (joinLines lines rest) := fun inside =>
      plain (inside.trans ⟨line ++ [lineFeed], [], by simp [joinLines]⟩)
    simp only [List.map_cons, List.forall_mem_cons]
    refine ⟨fun ends => plain ?_, ih tail⟩
    -- A trimmed line that ends in a carriage return had one more behind it.
    rw [trimReturn] at ends
    split at ends
    · rename_i last
      refine ⟨line.dropLast.dropLast, joinLines lines rest, ?_⟩
      have outer := List.dropLast_append_getLast? _ last
      have inner := List.dropLast_append_getLast? _ ends
      conv_rhs => rw [joinLines, ← outer, ← inner]
      simp
    · rename_i last
      exact absurd ends last

/-- A line that is not blank and does not end in a carriage return holds another byte. -/
theorem exists_ne_return {line : Line} (filled : line ≠ [])
    (trimmed : line.getLast? ≠ some carriageReturn) : ∃ byte ∈ line, byte ≠ carriageReturn := by
  refine ⟨line.getLast filled, List.getLast_mem filled, fun same => trimmed ?_⟩
  rw [List.getLast?_eq_some_getLast filled, same]

/-- Lines of the groups of a plain stream do not end in a carriage return. -/
theorem Plain.groups_trimmed {bytes : List UInt8} (plain : Plain bytes) :
    ∀ group ∈ (groups bytes).1 ++ [(groups bytes).2], ∀ line ∈ group,
      line.getLast? ≠ some carriageReturn := by
  intro group member line inside
  rw [← joinLines_splitLines bytes] at plain
  -- Every line of a group is a trimmed line of the stream.
  exact plain.trimmed line (by simpa using groupLines_mem group member line inside)

/-- A plain stream is steady. -/
theorem Plain.steady {bytes : List UInt8} (plain : Plain bytes) : Steady bytes := by
  intro group member line inside
  -- A line that is not blank and ends in another byte than a carriage return holds that byte.
  have unclosed : Unclosed group := groupLines_unclosed (by simp [Unclosed]) _ group member
  exact exists_ne_return (unclosed line inside)
    (plain.groups_trimmed group member line (List.mem_of_mem_tail inside))

/-- Lines that do not end in a carriage return are worn by nothing. -/
theorem eq_of_worn_trimmed {held group : List Line} (wear : List.Forall₂ Worn held group)
    (trimmed : ∀ line ∈ group, line.getLast? ≠ some carriageReturn) : held = group := by
  -- There is no carriage return at the end of a line to wear off.
  induction wear with
  | nil => rfl
  | cons head _ ih =>
    rw [head.eq_of_trimmed (trimmed _ (by simp)),
      ih fun line member => trimmed line (by simp [member])]

/-- A decoder holds exactly what a plain stream has left open. -/
theorem Holds.pending_plain {decoder : Decoder} {bytes : List UInt8} (holds : Holds decoder bytes)
    (plain : Plain bytes) : decoder.pending = remainder bytes := by
  obtain ⟨held, wear, pending⟩ := holds
  -- What the decoder holds is worn at most, and in a plain stream nothing can be.
  have trimmed := plain.groups_trimmed (groups bytes).2
    (List.mem_append_right _ (List.mem_singleton.mpr rfl))
  rw [pending, remainder, eq_of_worn_trimmed wear trimmed]

end LiveBoard.EventStream
