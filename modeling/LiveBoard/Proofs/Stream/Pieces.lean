import LiveBoard.Proofs.Stream.Chunking
import Mathlib.Data.List.Infix

/-! A whole stream cut at its blank lines, and the chunked decoder that agrees with it. -/

namespace LiveBoard.EventStream

/-- Bytes with every pair of a carriage return and a line feed written as a line feed. -/
def rewriteLineEnds : List UInt8 → List UInt8
  | [] => []
  | [byte] => [byte]
  | byte :: next :: rest =>
    if byte = carriageReturn ∧ next = lineFeed then lineFeed :: rewriteLineEnds rest
    else byte :: rewriteLineEnds (next :: rest)

/-- What stands before and after the leftmost pair of line feeds. -/
def atBlankLine? : List UInt8 → Option (List UInt8 × List UInt8)
  | byte :: next :: rest =>
    if byte = lineFeed ∧ next = lineFeed then some ([], rest)
    else (atBlankLine? (next :: rest)).map fun (before, after) => (byte :: before, after)
  | _ => none

/-- Bytes are the two sides of their leftmost pair of line feeds, with the pair between them. -/
theorem atBlankLine?_append {bytes before after : List UInt8}
    (found : atBlankLine? bytes = some (before, after)) :
    bytes = before ++ lineFeed :: lineFeed :: after := by
  -- Two bytes at a time, since a blank line is told by two.
  induction bytes using List.twoStepInduction generalizing before with
  | nil => simp [atBlankLine?] at found
  | singleton byte => simp [atBlankLine?] at found
  | cons_cons byte next rest _ part =>
    rw [atBlankLine?] at found
    split at found
    · rename_i feeds
      obtain ⟨rfl, rfl⟩ : [] = before ∧ rest = after := by simpa using found
      simp [feeds]
    · -- The pair is further on, with one more byte before it.
      obtain ⟨⟨front, back⟩, inner, same⟩ := Option.map_eq_some_iff.mp found
      obtain ⟨rfl, rfl⟩ : byte :: front = before ∧ back = after := by simpa using same
      simp [part next inner]

/-- The pieces of bytes cut again and again at the leftmost blank line, and what is left. -/
def pieces (bytes : List UInt8) : List (List UInt8) × List UInt8 :=
  match _ : atBlankLine? bytes with
  | none => ([], bytes)
  | some (before, after) => (before :: (pieces after).1, (pieces after).2)
termination_by bytes.length
decreasing_by
  all_goals
    rename_i found
    simp [atBlankLine?_append found]
    omega

/-- Dropping carriage returns from the back rewrites every pair. -/
theorem unifyLineEnds_eq_rewriteLineEnds (bytes : List UInt8) :
    unifyLineEnds bytes = rewriteLineEnds bytes := by
  -- One goes from the back and the other from the front, and both look one byte ahead.
  induction bytes using List.twoStepInduction with
  | nil => rfl
  | singleton byte => simp [rewriteLineEnds, unifyLineEnds]
  | cons_cons byte next rest whole part =>
    rw [unifyLineEnds_cons, rewriteLineEnds, ← part next]
    simp only [List.head?_cons, Option.some.injEq]
    split
    · rename_i pair
      -- The line feed itself stays, and what stands after it is rewritten on its own.
      have feed : ¬ lineFeed = carriageReturn := by decide
      rw [pair.2, unifyLineEnds_cons, if_neg (by simp [feed]), whole]
    · rfl

/-- The first cut falls on the leftmost blank line. -/
theorem cutOnto_atBlankLine? (bytes current : List UInt8) :
    cutOnto [] current bytes =
      match atBlankLine? bytes with
      | none => ([], current.reverse ++ bytes)
      | some (before, after) => ((current.reverse ++ before) :: (cut after).1, (cut after).2) := by
  -- The bytes put aside so far stand in front of whatever comes before the pair.
  induction bytes using List.twoStepInduction generalizing current with
  | nil => simp [cutOnto, atBlankLine?]
  | singleton byte => simp [cutOnto, atBlankLine?]
  | cons_cons byte next rest _ part =>
    rw [cutOnto, atBlankLine?]
    split
    · simp [cutOnto_blocks [current.reverse], cut]
    · -- The byte is put aside, which the sides of the pair do not depend on.
      rw [part next]
      cases atBlankLine? (next :: rest) <;> simp

/-- Pieces are cut at the leftmost blank line and then from what stands after it. -/
theorem pieces_eq (bytes : List UInt8) :
    pieces bytes =
      match atBlankLine? bytes with
      | none => ([], bytes)
      | some (before, after) => (before :: (pieces after).1, (pieces after).2) := by
  rw [pieces]
  split <;> simp_all

/-- Cutting in one pass finds the pieces. -/
theorem cut_eq_pieces (bytes : List UInt8) : cut bytes = pieces bytes := by
  -- The pieces recurse on what stands after the pair, so the induction does as well.
  induction bytes using pieces.induct with
  | case1 bytes none =>
    rw [cut, cutOnto_atBlankLine?, pieces_eq, none]
    simp
  | case2 bytes before after found ih =>
    rw [cut, cutOnto_atBlankLine?, pieces_eq, found]
    simp [ih]

/-- What a stream has left open is what is left of it once it is rewritten and cut. -/
theorem remainder_eq_pieces (bytes : List UInt8) :
    remainder bytes = (pieces (rewriteLineEnds bytes)).2 := by
  rw [← cut_eq_pieces, ← unifyLineEnds_eq_rewriteLineEnds, cut_unifyLineEnds]
-- Rewriting first and cutting then agrees with the decoder, which does both as bytes arrive.

/-- The frames of a stream are those that its pieces write once it is rewritten. -/
theorem groups_eq_pieces (bytes : List UInt8) :
    (groups bytes).1.map frameOf = (pieces (rewriteLineEnds bytes)).1.map Frame.parse := by
  rw [← cut_eq_pieces, ← unifyLineEnds_eq_rewriteLineEnds, cut_unifyLineEnds, List.map_map]
  rfl

/--
A plain stream gives the frames of its pieces, however it is cut into chunks.

The limit only has to hold what is left open after each of the chunks.
-/
theorem pushAll_plain (limit : Nat) (chunks : List (List UInt8)) (plain : Plain chunks.flatten)
    (fits : ∀ arrived, arrived <+: chunks →
      (pieces (rewriteLineEnds arrived.flatten)).2.length ≤ limit) :
    frames ((Decoder.new limit).pushAll chunks).2 =
        (pieces (rewriteLineEnds chunks.flatten)).1.map Frame.parse ∧
      ((Decoder.new limit).pushAll chunks).1.pending =
        (pieces (rewriteLineEnds chunks.flatten)).2 ∧
      ∀ report ∈ ((Decoder.new limit).pushAll chunks).2, report.overflow = none := by
  obtain ⟨holds, given, kept⟩ := (holds_new limit).pushAll chunks plain.steady
    fun arrived starts => (remainder_eq_pieces arrived.flatten).symm ▸ fits arrived starts
  -- The empty stream closes no group, so all frames are those of the chunks.
  have nothing : (groups []).1.map frameOf = [] := rfl
  refine ⟨?_, ?_, kept⟩
  · rw [← groups_eq_pieces, ← List.nil_append (List.flatten chunks), ← given, nothing]
    rfl
  · rw [← remainder_eq_pieces]
    exact holds.pending_plain plain

/-- Chunks that cut a line end in two, a blank line in two, and leave a line unfinished. -/
def cutPair : List (List UInt8) :=
  [[100, 97, 116, 97, 58, 97, carriageReturn], [lineFeed, carriageReturn], [],
    [lineFeed, 255, carriageReturn]]

/-- Pairs cut in two are line ends like any other. -/
theorem pushAll_plain_cutPair :
    Plain cutPair.flatten ∧
      frames ((Decoder.new 8).pushAll cutPair).2 = [⟨"message", "a"⟩] ∧
      ((Decoder.new 8).pushAll cutPair).1.pending = [255, carriageReturn] := by
  have plain : Plain cutPair.flatten := by
    unfold Plain
    decide
  have fits : ∀ arrived, arrived <+: cutPair →
      (pieces (rewriteLineEnds arrived.flatten)).2.length ≤ 8 := by
    -- A list has finitely many starts, each of which is computed.
    have each : ∀ arrived ∈ cutPair.inits, (remainder arrived.flatten).length ≤ 8 := by decide
    intro arrived starts
    rw [← remainder_eq_pieces]
    exact each arrived ((List.mem_inits _ _).mpr starts)
  obtain ⟨given, left, _⟩ := pushAll_plain 8 cutPair plain fits
  -- What is left to compute is one pass over the whole stream.
  rw [given, left, ← groups_eq_pieces, ← remainder_eq_pieces]
  exact ⟨plain, by decide, by decide⟩

end LiveBoard.EventStream
