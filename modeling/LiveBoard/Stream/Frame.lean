import LiveBoard.Text.Blank
import LiveBoard.Text.Utf8

/-! Event frames cut out of a stream of bytes that arrives in chunks. -/

namespace LiveBoard

/-- One event of a stream. -/
structure Frame where
  event : String
  data : String
  deriving DecidableEq

namespace Frame

/-- The event of a frame that names none. -/
def defaultEvent : String := "message"

/-- What follows a given start of a line, without the white space around it. -/
def field? (start : String) (line : List Char) : Option (List Char) :=
  let start := start.toList
  -- Only the start has to match, so a line may go on without a space.
  if start.isPrefixOf line then some (Text.trimChars (line.drop start.length)) else none

/-- The lines of a text. -/
def lines (text : List Char) : List (List Char) :=
  text.splitOn '\n'

/-- Take in one line: the last event counts, and data is joined without a separator. -/
def readLine (frame : Frame) (line : List Char) : Frame :=
  match field? "event:" line with
  -- A line is never both, as neither start begins the other.
  | some event => { frame with event := String.ofList event }
  | none =>
    match field? "data:" line with
    | some data => { frame with data := frame.data ++ String.ofList data }
    | none => frame

/-- The frame that a block of lines writes. -/
def parse (block : List UInt8) : Frame :=
  (lines (Text.ofUtf8 block)).foldl readLine ⟨defaultEvent, ""⟩

end Frame

namespace EventStream

/-- The bytes that end lines. -/
def lineFeed : UInt8 := 10
def carriageReturn : UInt8 := 13

/-- Drop each carriage return that stands before a line feed. -/
def unifyLineEnds (bytes : List UInt8) : List UInt8 :=
  (bytes.foldr (fun byte (after, unified) =>
    (some byte,
      if byte = carriageReturn ∧ after = some lineFeed then unified else byte :: unified))
    ((none : Option UInt8), ([] : List UInt8))).2

/--
Cut bytes at every blank line.

The blocks already cut and the bytes since the last cut are held in reverse. What is left when the
bytes end is no block yet.
-/
def cutOnto (blocks : List (List UInt8)) (current : List UInt8) :
    List UInt8 → List (List UInt8) × List UInt8
  | [] => (blocks.reverse, current.reverse)
  | [byte] => (blocks.reverse, (byte :: current).reverse)
  | byte :: next :: rest =>
    -- Both line feeds are used up, so a third one does not close a block of its own.
    if byte = lineFeed ∧ next = lineFeed then cutOnto (current.reverse :: blocks) [] rest
    else cutOnto blocks (byte :: current) (next :: rest)

/-- The blocks that blank lines close, and the bytes after the last of them. -/
def cut (bytes : List UInt8) : List (List UInt8) × List UInt8 := cutOnto [] [] bytes

/-- A decoder that holds what no blank line has closed yet, up to a number of bytes. -/
structure Decoder where
  limit : Nat
  pending : List UInt8

/-- The limit of a decoder unless another is given. -/
def defaultLimit : Nat := 1048576

/-- Pending bytes that were discarded because they exceeded the limit. -/
structure Overflow where
  size : Nat
  limit : Nat
  deriving DecidableEq

/-- The message of an overflow. -/
def Overflow.message (overflow : Overflow) : String :=
  "Pending stream buffer of " ++ toString overflow.size ++ " bytes exceeds limit of " ++
    toString overflow.limit ++ " bytes"

/-- The frames that a chunk completed, and the overflow it led to, if any. -/
structure Report where
  frames : List Frame
  overflow : Option Overflow
  deriving DecidableEq

namespace Decoder

/-- A decoder that has received nothing. -/
def new (limit : Nat) : Decoder := ⟨limit, []⟩

/--
Take in a chunk.

Line ends are unified over all that is pending, so a pair cut in two by the network is still one
line end. Complete frames are reported before what is left is held against the limit.
-/
def push (decoder : Decoder) (chunk : List UInt8) : Decoder × Report :=
  let pending :=
    -- An empty chunk brings nothing that could complete a line end.
    if chunk.isEmpty then decoder.pending else unifyLineEnds (decoder.pending ++ chunk)
  let (blocks, left) := cut pending
  let frames := blocks.map Frame.parse
  -- The stream goes on after an overflow, from the next chunk.
  if decoder.limit < left.length then
    (⟨decoder.limit, []⟩, ⟨frames, some ⟨left.length, decoder.limit⟩⟩)
  else
    (⟨decoder.limit, left⟩, ⟨frames, none⟩)

end Decoder

end EventStream

end LiveBoard
