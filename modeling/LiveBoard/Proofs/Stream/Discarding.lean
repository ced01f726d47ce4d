import LiveBoard.Proofs.Stream.Pieces
import Mathlib.Data.List.SplitBy

/-!
A decoder holds no more than its limit, and starts afresh when it discards what it holds.

A run falls into segments that end where something is discarded. Each of them gives the reports of a
decoder that has received nothing before it.
-/

namespace LiveBoard.EventStream

/-! ## Blank lines -/

/-- Two line feeds one after the other. -/
def blankLine : List UInt8 := [lineFeed, lineFeed]

/-- A cut is found just where there is a blank line. -/
theorem atBlankLine?_eq_none_iff (bytes : List UInt8) :
    atBlankLine? bytes = none ↔ ¬ blankLine <:+: bytes := by
  induction bytes using List.twoStepInduction with
  -- The cut looks at two bytes at a time, and the induction does the same.
  | nil => simp [atBlankLine?, blankLine]
  | singleton byte => simp [atBlankLine?, blankLine, List.infix_cons_iff]
  | cons_cons byte next rest _ part =>
    rw [atBlankLine?, List.infix_cons_iff, blankLine, List.cons_prefix_cons, List.cons_prefix_cons]
    split
    · rename_i feeds
      -- A blank line stands right here.
      simp [feeds]
    · rename_i other
      -- Otherwise one may only stand behind the first byte.
      rw [Option.map_eq_none_iff, part next, blankLine]
      grind

/-- In front of the first cut a blank line ends only where the cut does. -/
theorem not_blankLine_infix_before {bytes before after : List UInt8}
    (found : atBlankLine? bytes = some (before, after)) :
    ¬ blankLine <:+: before ++ [lineFeed] := by
  rw [← atBlankLine?_eq_none_iff]
  -- Nothing is cut in front of the first cut, which the induction on the bytes finds out.
  induction bytes using List.twoStepInduction generalizing before with
  | nil => simp [atBlankLine?] at found
  | singleton byte => simp [atBlankLine?] at found
  | cons_cons byte next rest _ part =>
    rw [atBlankLine?] at found
    split at found
    · -- With nothing in front, there is one line feed alone, and a blank line takes two.
      obtain ⟨rfl, rfl⟩ : [] = before ∧ rest = after := by simpa using found
      rfl
    · rename_i other
      obtain ⟨⟨front, back⟩, inner, same⟩ := Option.map_eq_some_iff.mp found
      obtain ⟨rfl, rfl⟩ : byte :: front = before ∧ back = after := by simpa using same
      have whole := atBlankLine?_append inner
      -- What stands in front of the pair starts with the byte that follows this one.
      cases front with
      | nil =>
        obtain ⟨rfl, -⟩ := List.cons.inj whole
        simpa [atBlankLine?] using other
      | cons first others =>
        obtain ⟨rfl, -⟩ := List.cons.inj whole
        have later := part _ inner
        rw [List.cons_append] at later ⊢
        rw [List.cons_append, atBlankLine?, if_neg other, later]
        rfl

/-- Bytes are their pieces, each with a blank line behind it, and what is left. -/
theorem pieces_join (bytes : List UInt8) :
    (pieces bytes).1.flatMap (· ++ blankLine) ++ (pieces bytes).2 = bytes := by
  induction bytes using pieces.induct with
  | case1 bytes none => simp [pieces_eq bytes, none]
  | case2 bytes before after found ih =>
    -- What is cut off and what is behind the cut are all bytes but for the blank line between them.
    simp only [pieces_eq bytes, found, List.flatMap_cons, List.append_assoc, ih]
    rw [atBlankLine?_append found]
    rfl

/-- What is left has no blank line. -/
theorem not_blankLine_infix_left (bytes : List UInt8) : ¬ blankLine <:+: (pieces bytes).2 := by
  induction bytes using pieces.induct with
  | case1 bytes none =>
    -- Cutting goes on for as long as there is a blank line to cut at.
    simpa only [pieces_eq bytes, none] using (atBlankLine?_eq_none_iff bytes).mp none
  | case2 bytes before after found ih => simpa only [pieces_eq bytes, found] using ih

/-- A piece ends at the first blank line behind its start. -/
theorem not_blankLine_infix_piece (bytes : List UInt8) :
    ∀ block ∈ (pieces bytes).1, ¬ blankLine <:+: block ++ [lineFeed] := by
  induction bytes using pieces.induct with
  | case1 bytes none => simp [pieces_eq bytes, none]
  | case2 bytes before after found ih =>
    simp only [pieces_eq bytes, found, List.forall_mem_cons]
    exact ⟨not_blankLine_infix_before found, ih⟩

namespace Decoder

/-! ## One chunk -/

/-- All that is pending once a chunk has come, with its line ends rewritten. -/
def arrived (decoder : Decoder) (chunk : List UInt8) : List UInt8 :=
  -- An empty chunk brings nothing that could complete a line end.
  if chunk = [] then decoder.pending else rewriteLineEnds (decoder.pending ++ chunk)

/-- A push reports the pieces of what has arrived, and discards what is left if it is too much. -/
theorem push_eq (decoder : Decoder) (chunk : List UInt8) :
    decoder.push chunk =
      let (blocks, left) := pieces (decoder.arrived chunk)
      if decoder.limit < left.length then
        (.new decoder.limit, ⟨blocks.map Frame.parse, some ⟨left.length, decoder.limit⟩⟩)
      else (⟨decoder.limit, left⟩, ⟨blocks.map Frame.parse, none⟩) := by
  -- All line ends of what is pending are rewritten again, and cut at once.
  have pending : (if chunk.isEmpty then decoder.pending
      else unifyLineEnds (decoder.pending ++ chunk)) = decoder.arrived chunk := by
    simp only [arrived, List.isEmpty_iff, unifyLineEnds_eq_rewriteLineEnds]
  simp only [push, pending, cut_eq_pieces, new]

/-- A push leaves the limit alone. -/
@[simp] theorem limit_push (decoder : Decoder) (chunk : List UInt8) :
    (decoder.push chunk).1.limit = decoder.limit := by
  rw [push_eq]
  dsimp only
  -- Whether it discards or keeps what is left, the decoder hands on its limit.
  split <;> rfl

/-- A decoder that discards what it holds starts afresh. -/
theorem push_of_overflow {decoder : Decoder} {chunk : List UInt8}
    (discards : (decoder.push chunk).2.overflow.isSome) :
    (decoder.push chunk).1 = .new decoder.limit := by
  rw [push_eq] at discards ⊢
  dsimp only at discards ⊢
  split at discards
  · -- Only where too much is left does a report say so.
    rw [if_pos ‹_›]
  · cases discards

/-! ## A run -/

/-- A run is the run of its first chunks, and that of the others with what is pending then. -/
theorem pushAll_append (decoder : Decoder) (chunks more : List (List UInt8)) :
    decoder.pushAll (chunks ++ more) =
      (((decoder.pushAll chunks).1.pushAll more).1,
        (decoder.pushAll chunks).2 ++ ((decoder.pushAll chunks).1.pushAll more).2) := by
  induction chunks generalizing decoder with
  | nil => rfl
  | cons chunk chunks ih => simp [pushAll, ih]

/-- Every chunk has its report. -/
@[simp] theorem length_pushAll (decoder : Decoder) (chunks : List (List UInt8)) :
    (decoder.pushAll chunks).2.length = chunks.length := by
  induction chunks generalizing decoder with
  | nil => rfl
  | cons chunk chunks ih => simp [pushAll, ih]

/-- A run leaves the limit alone. -/
@[simp] theorem limit_pushAll (decoder : Decoder) (chunks : List (List UInt8)) :
    (decoder.pushAll chunks).1.limit = decoder.limit := by
  induction chunks generalizing decoder with
  | nil => rfl
  | cons chunk chunks ih => simp [pushAll, ih]

/-- The chunks of a run, each with its report. -/
def calls (decoder : Decoder) (chunks : List (List UInt8)) : List (List UInt8 × Report) :=
  chunks.zip (decoder.pushAll chunks).2

@[simp] theorem map_fst_calls (decoder : Decoder) (chunks : List (List UInt8)) :
    (decoder.calls chunks).map Prod.fst = chunks :=
  List.map_fst_zip (by simp)

@[simp] theorem map_snd_calls (decoder : Decoder) (chunks : List (List UInt8)) :
    (decoder.calls chunks).map Prod.snd = (decoder.pushAll chunks).2 :=
  List.map_snd_zip (by simp)

/-- The calls of a run are those over its first chunks, and those over the others. -/
theorem calls_append (decoder : Decoder) (chunks more : List (List UInt8)) :
    decoder.calls (chunks ++ more) =
      decoder.calls chunks ++ (decoder.pushAll chunks).1.calls more := by
  rw [calls, pushAll_append]
  exact List.zip_append (by simp)

/-- A run whose last chunk had something discarded leaves a decoder that starts afresh. -/
theorem pushAll_of_overflow {decoder : Decoder} {chunks : List (List UInt8)}
    {call : List UInt8 × Report} (last : call ∈ (decoder.calls chunks).getLast?)
    (discards : call.2.overflow.isSome) : (decoder.pushAll chunks).1 = .new decoder.limit := by
  rcases List.eq_nil_or_concat' chunks with rfl | ⟨front, chunk, rfl⟩
  · -- Without a chunk there is no last call.
    cases last
  · -- Otherwise it is the one that pushes the last chunk.
    rw [calls_append] at last
    obtain rfl : (chunk, ((decoder.pushAll front).1.push chunk).2) = call := by
      simpa [calls, pushAll] using last
    -- That push starts afresh, whatever those before it have left.
    have fresh := push_of_overflow discards
    rw [limit_pushAll] at fresh
    rw [pushAll_append]
    simpa [pushAll] using fresh

end Decoder

/-! ## Segments -/

/-- The calls of a run, cut behind each one that had something discarded. -/
def segments (calls : List (List UInt8 × Report)) : List (List (List UInt8 × Report)) :=
  calls.splitBy fun call _ => call.2.overflow.isNone

/-- What every neighbour of a later item is holds of all items but the last. -/
theorem forall_mem_dropLast_of_isChain {α : Type} {holds : α → Prop} {items : List α}
    (chain : items.IsChain fun item _ => holds item) : ∀ item ∈ items.dropLast, holds item := by
  induction items with
  | nil => simp
  | cons first rest ih =>
    -- The only item of a list is its last, and any other first one has a neighbour.
    cases rest with
    | nil => simp
    | cons second later =>
      obtain ⟨here, chain⟩ := List.isChain_cons_cons.mp chain
      rw [List.dropLast_cons_cons, List.forall_mem_cons]
      exact ⟨here, ih chain⟩

section Segments

variable {calls segment : List (List UInt8 × Report)}

/-- In a segment nothing is discarded before its last call. -/
theorem overflow_dropLast_segment (member : segment ∈ segments calls) :
    ∀ call ∈ segment.dropLast, call.2.overflow = none :=
  forall_mem_dropLast_of_isChain <|
    (List.isChain_of_mem_splitBy member).imp fun _ _ kept => by simpa using kept

/-- Each segment but the last ends in a call that had something discarded. -/
theorem getLast?_segment (member : segment ∈ (segments calls).dropLast) :
    ∃ call ∈ segment.getLast?, call.2.overflow.isSome := by
  -- The list is split between two calls just where the first of them had something discarded.
  have chain : (segments calls).IsChain fun segment _ =>
      ∃ call ∈ segment.getLast?, call.2.overflow.isSome := by
    refine (List.isChain_getLast_head_splitBy _ calls).imp fun segment _ ends => ?_
    obtain ⟨nonempty, -, discards⟩ := ends
    exact ⟨_, List.getLast?_eq_some_getLast nonempty, by simpa using discards⟩
  exact forall_mem_dropLast_of_isChain chain segment member

/-- The segments of calls are the calls again, one after the other. -/
theorem flatten_segments : (segments calls).flatten = calls := List.flatten_splitBy _ _

end Segments

namespace Decoder

/-- A run in parts that end in discards is the run of a new decoder over each of the parts. -/
theorem calls_of_parts (limit : Nat) {parts : List (List (List UInt8 × Report))}
    (run : (new limit).calls (parts.flatten.map Prod.fst) = parts.flatten)
    (discards : ∀ part ∈ parts.dropLast, ∃ call ∈ part.getLast?, call.2.overflow.isSome) :
    ∀ part ∈ parts, (new limit).calls (part.map Prod.fst) = part := by
  induction parts with
  | nil => simp
  | cons first rest ih =>
    -- The first part is a run of its own, and what it leaves is a new decoder for the others.
    rw [List.flatten_cons, List.map_append, calls_append] at run
    obtain ⟨alone, others⟩ := List.append_inj run (by simp [calls])
    rw [List.forall_mem_cons]
    refine ⟨alone, ?_⟩
    cases rest with
    | nil => simp
    | cons second later =>
      -- A part that has others behind it ends in a discard.
      rw [List.dropLast_cons_cons, List.forall_mem_cons] at discards
      obtain ⟨⟨call, last, discarded⟩, later⟩ := discards
      rw [pushAll_of_overflow (alone.symm ▸ last) discarded] at others
      exact ih others later

/-- Each segment of a run is a run of a decoder that has received nothing before it. -/
theorem calls_segment (limit : Nat) (chunks : List (List UInt8)) :
    ∀ segment ∈ segments ((new limit).calls chunks),
      (new limit).calls (segment.map Prod.fst) = segment := by
  -- All segments but the last end in discards, so they are such parts.
  refine calls_of_parts limit ?_ fun segment => getLast?_segment
  rw [flatten_segments, map_fst_calls]

/-- The frames of a run are those that new decoders report for its segments. -/
theorem frames_segments (limit : Nat) (chunks : List (List UInt8)) :
    frames ((new limit).pushAll chunks).2 =
      (segments ((new limit).calls chunks)).flatMap fun segment =>
        frames ((new limit).pushAll (segment.map Prod.fst)).2 := by
  -- What is reported in a segment is what a new decoder reports for it.
  have each : ∀ segment ∈ segments ((new limit).calls chunks),
      frames ((new limit).pushAll (segment.map Prod.fst)).2 = frames (segment.map Prod.snd) := by
    intro segment member
    rw [← map_snd_calls, calls_segment limit chunks segment member]
  -- The frames of the run are those of its calls, which are joined from the segments.
  calc frames ((new limit).pushAll chunks).2
      = frames ((segments ((new limit).calls chunks)).flatten.map Prod.snd) := by
        rw [flatten_segments, map_snd_calls]
    _ = (segments ((new limit).calls chunks)).flatMap fun segment =>
          frames (segment.map Prod.snd) := by
        simp [frames, List.flatMap_def, List.map_flatten, List.flatten_flatten, Function.comp_def]
    _ = _ := (List.flatMap_congr each).symm

/--
A decoder keeps within its limit, and loses no frame when it discards what it holds.

A chunk completes the blocks in front of the blank lines, which are all reported. Only what is left
then is held against the limit, and either discarded whole or kept whole. The run falls into
segments that end in discards, and is the run of a new decoder over each of them.
-/
theorem bounded_and_resumed (limit : Nat) (chunks : List (List UInt8)) :
    (∀ chunk : List UInt8,
      let held := ((new limit).pushAll chunks).1
      let blocks := (pieces (held.arrived chunk)).1
      let left := (pieces (held.arrived chunk)).2
      let next := (held.push chunk).1
      let report := (held.push chunk).2
      (new limit).pushAll (chunks ++ [chunk]) =
        (next, ((new limit).pushAll chunks).2 ++ [report]) ∧
      held.arrived chunk = blocks.flatMap (· ++ blankLine) ++ left ∧
      (∀ block ∈ blocks, ¬ blankLine <:+: block ++ [lineFeed]) ∧ ¬ blankLine <:+: left ∧
      report.frames = blocks.map Frame.parse ∧
      report.overflow = (if limit < left.length then some ⟨left.length, limit⟩ else none) ∧
      next.pending = (if limit < left.length then [] else left) ∧
      next.pending.length ≤ limit ∧ ¬ blankLine <:+: next.pending) ∧
    let calls := (new limit).calls chunks
    calls.map Prod.fst = chunks ∧ calls.map Prod.snd = ((new limit).pushAll chunks).2 ∧
    (segments calls).flatten = calls ∧
    (∀ segment ∈ segments calls, ∀ call ∈ segment.dropLast, call.2.overflow = none) ∧
    (∀ segment ∈ (segments calls).dropLast, ∃ call ∈ segment.getLast?, call.2.overflow.isSome) ∧
    (∀ segment ∈ segments calls, (new limit).calls (segment.map Prod.fst) = segment) ∧
    frames ((new limit).pushAll chunks).2 =
      (segments calls).flatMap fun segment =>
        frames ((new limit).pushAll (segment.map Prod.fst)).2 := by
  refine ⟨fun chunk => ?_, map_fst_calls _ _, map_snd_calls _ _, flatten_segments,
    fun segment => overflow_dropLast_segment, fun segment => getLast?_segment,
    calls_segment limit chunks, frames_segments limit chunks⟩
  -- Of the chunks before, only what is pending counts for the next one.
  refine ⟨by rw [pushAll_append]; rfl, ?_⟩
  have same : ((new limit).pushAll chunks).1.limit = limit := limit_pushAll _ _
  generalize ((new limit).pushAll chunks).1 = held at same
  refine ⟨(pieces_join _).symm, not_blankLine_infix_piece _, not_blankLine_infix_left _, ?_⟩
  -- Whether what is left is kept is decided by its length alone.
  have clean := not_blankLine_infix_left (held.arrived chunk)
  have pushed := push_eq held chunk
  dsimp only at pushed
  rw [pushed, same]
  split
  · exact ⟨rfl, rfl, rfl, Nat.zero_le _, by simp [new, blankLine]⟩
  · rename_i fits
    exact ⟨rfl, rfl, rfl, Nat.le_of_not_lt fits, clean⟩

end Decoder

end LiveBoard.EventStream
