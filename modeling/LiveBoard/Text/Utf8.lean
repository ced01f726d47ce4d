/-! Text from bytes, with a replacement character for what is not well formed. -/

namespace LiveBoard.Text

/-- The character that stands for bytes that are no text. -/
def replacement : Char := '\uFFFD'

/-- Whether a byte may follow the first byte of a character. -/
def isContinuation (b : UInt8) : Bool := 0x80 ≤ b && b ≤ 0xBF

/-- The number of bytes that a first byte announces; zero when no character starts with it. -/
def announcedLength (b : UInt8) : Nat :=
  if b < 0x80 then 1
  else if 0xC2 ≤ b && b ≤ 0xDF then 2
  else if 0xE0 ≤ b && b ≤ 0xEF then 3
  else if 0xF0 ≤ b && b ≤ 0xF4 then 4
  else 0

/--
Whether a second byte may follow a first byte.

The shortest encoding is the only one, and neither surrogates nor numbers past the last code point
have any.
-/
def mayFollow (first second : UInt8) : Bool :=
  isContinuation second &&
  !(first == 0xE0 && second < 0xA0) && !(first == 0xED && 0x9F < second) &&
  !(first == 0xF0 && second < 0x90) && !(first == 0xF4 && 0x8F < second)

/-- The six bits that a continuation byte carries. -/
def payload (b : UInt8) : Nat := b.toNat % 64

/--
The characters of bytes, after those already decoded, which are held in reverse.

Each longest start of a character that its next byte does not continue becomes one replacement.
-/
def decodeOnto (done : List Char) : List UInt8 → List Char
  | [] => done.reverse
  | [a] => ((if announcedLength a = 1 then Char.ofNat a.toNat else replacement) :: done).reverse
  | a :: b :: rest =>
    let size := announcedLength a
    if size = 1 then decodeOnto (Char.ofNat a.toNat :: done) (b :: rest)
    -- The byte that does not fit is looked at again, as it may start a character of its own.
    else if size = 0 || !mayFollow a b then decodeOnto (replacement :: done) (b :: rest)
    else if size = 2 then decodeOnto (Char.ofNat (a.toNat % 32 * 64 + payload b) :: done) rest
    else
      match rest with
      | [] => (replacement :: done).reverse
      | c :: rest =>
        if !isContinuation c then decodeOnto (replacement :: done) (c :: rest)
        else if size = 3 then
          decodeOnto (Char.ofNat (a.toNat % 16 * 4096 + payload b * 64 + payload c) :: done) rest
        else
          match rest with
          | [] => (replacement :: done).reverse
          | d :: rest =>
            if !isContinuation d then decodeOnto (replacement :: done) (d :: rest)
            else
              decodeOnto (Char.ofNat
                (a.toNat % 8 * 262144 + payload b * 4096 + payload c * 64 + payload d) :: done) rest

/-- The text of bytes. -/
def ofUtf8 (bytes : List UInt8) : List Char := decodeOnto [] bytes

/-- The bytes of a text. -/
def toUtf8 (text : String) : List UInt8 := text.toUTF8.toList

end LiveBoard.Text
