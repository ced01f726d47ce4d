import LiveBoard.Proofs.Stream.Pieces
import LiveBoard.Stream.Feed

/-! Streams put together where frames end, and frames that mean nothing to a feed. -/

namespace LiveBoard

namespace EventStream

/-- The frames that bytes complete. -/
def written (bytes : List UInt8) : List Frame :=
  (pieces (rewriteLineEnds bytes)).1.map Frame.parse

/-- No bytes complete no frame. -/
@[simp] theorem written_nil : written [] = [] := by
  simp [written, rewriteLineEnds, pieces_eq, atBlankLine?]

/-- The frames that bytes complete are those of the groups of lines that they close. -/
theorem written_eq_groups (bytes : List UInt8) : written bytes = (groups bytes).1.map frameOf :=
  (groups_eq_pieces bytes).symm

/-- A new decoder gives the frames that a plain stream completes, however it is cut into chunks. -/
theorem Plain.frames_pushAll {chunks : List (List UInt8)} (plain : Plain chunks.flatten)
    {limit : Nat} (fits : ∀ arrived, arrived <+: chunks →
      (pieces (rewriteLineEnds arrived.flatten)).2.length ≤ limit) :
    frames ((Decoder.new limit).pushAll chunks).2 = written chunks.flatten := by
  obtain ⟨_, given, _⟩ := (holds_new limit).pushAll chunks plain.steady
    fun arrived starts => (remainder_eq_pieces arrived.flatten).symm ▸ fits arrived starts
  -- The empty stream, from which the decoder starts, has closed no group.
  rw [written_eq_groups]
  exact given

/-- Bytes end where a frame ends, or are none. -/
def AtBorder (bytes : List UInt8) : Prop := (pieces (rewriteLineEnds bytes)).2 = []

variable {front : List UInt8}

/-- Bytes end where a frame ends when they leave nothing open. -/
theorem atBorder_iff : AtBorder front ↔ remainder front = [] := by
  rw [AtBorder, remainder_eq_pieces]

/-- Bytes that end where a frame ends leave neither a line nor a group of lines open. -/
theorem AtBorder.closed (border : AtBorder front) :
    (groups front).2 = [] ∧ (splitLines front).2 = [] := by
  rw [atBorder_iff, remainder] at border
  -- An open line would be part of what is left, and so would the line feeds of an open group.
  cases opened : (groups front).2 with
  | nil => exact ⟨rfl, by simpa [opened, joinLines] using border⟩
  | cons line lines => simp [opened, joinLines] at border

/-- What comes after the end of a frame is read as from a start of its own. -/
theorem AtBorder.groups_append (border : AtBorder front) (bytes : List UInt8) :
    groups (front ++ bytes) = ((groups front).1 ++ (groups bytes).1, (groups bytes).2) := by
  obtain ⟨group, line⟩ := border.closed
  rw [EventStream.groups_append, group, line]
  rfl

/-- Bytes after the end of a frame complete the frames that they complete on their own. -/
theorem AtBorder.written_append (border : AtBorder front) (bytes : List UInt8) :
    written (front ++ bytes) = written front ++ written bytes := by
  simp only [written_eq_groups, border.groups_append, List.map_append]

end EventStream

open EventStream

namespace Feed

/-- Whether a frame says something to a feed: it is one of its own, with data that can be read. -/
def takes (feed : Feed) (frame : Frame) : Bool :=
  frame.event = feed.event && frame.data ≠ "" && (feed.actions frame.data).isOk

/-- What the data of a frame says, and nothing if it cannot be read. -/
def said (feed : Feed) (frame : Frame) : List BoardAction :=
  match feed.actions frame.data with
  | .ok actions => actions
  | .error _ => []

/-- What bytes say to a feed: what each complete frame says that says something to it. -/
def heard (feed : Feed) (bytes : List UInt8) : List BoardAction :=
  ((written bytes).filter feed.takes).flatMap feed.said

/-- A feed takes from frames what those say that say something to it. -/
theorem flatMap_actionsOf (feed : Feed) (frames : List Frame) :
    frames.flatMap feed.actionsOf = (frames.filter feed.takes).flatMap feed.said := by
  induction frames with
  | nil => rfl
  | cons frame frames ih =>
    rw [List.flatMap_cons, ih, List.filter_cons]
    unfold actionsOf takes
    -- A frame of another feed, one without data and one that cannot be read are passed over.
    by_cases own : frame.event = feed.event
    · by_cases empty : frame.data = ""
      · simp [own, empty]
      · cases read : feed.actions frame.data with
        | error fault => simp [own, empty, Except.toOption, Except.isOk, Except.toBool]
        | ok actions => simp [own, empty, read, said, Except.toOption, Except.isOk, Except.toBool]
    · simp [own]

end Feed

/--
Bytes that say the same to a feed as others, with frames in between that say nothing to it.

Frames are put in where a frame ends, and after the last frame both may go on as they like as long
as no further frame is completed.
-/
inductive Padded (feed : Feed) : List UInt8 → List UInt8 → Prop where
  | same (bytes : List UInt8) : Padded feed bytes bytes
  | unfinished {rest other : List UInt8} : written rest = [] → written other = [] →
    Padded feed rest other
  | kept {front bytes other : List UInt8} : AtBorder front → Padded feed bytes other →
    Padded feed (front ++ bytes) (front ++ other)
  | noise {front bytes other : List UInt8} : AtBorder front →
    (∀ frame ∈ written front, ¬ feed.takes frame) → Padded feed bytes other →
    Padded feed bytes (front ++ other)

/-- Frames that say nothing to a feed, and bytes that complete no frame, do not show. -/
theorem Padded.heard_eq {feed : Feed} {bytes other : List UInt8}
    (padded : Padded feed bytes other) : feed.heard bytes = feed.heard other := by
  induction padded with
  | same bytes => rfl
  | unfinished rest other => simp [Feed.heard, rest, other]
  | kept border _ ih =>
    -- What is in front is the same, and what comes after it is read on its own.
    simp only [Feed.heard, border.written_append, List.filter_append, List.flatMap_append] at ih ⊢
    rw [ih]
  | noise border silent _ ih =>
    -- None of the frames in front is taken, so that nothing comes before what the others say.
    have passed := List.filter_eq_nil_iff.mpr silent
    simp only [Feed.heard, border.written_append, List.filter_append, passed, List.nil_append]
      at ih ⊢
    rw [ih]

end LiveBoard
