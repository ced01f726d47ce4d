import LiveBoard.Text.Utf8

/-!
A byte of ASCII stands for its own character, whatever is around it, and the bytes of a text are
those of its characters.
-/

namespace LiveBoard.Text

/-- A byte of ASCII begins a character and ends it. -/
theorem announcedLength_ascii {byte : UInt8} (ascii : byte < 0x80) : announcedLength byte = 1 := by
  simp [announcedLength, ascii]

/-- A byte of ASCII continues no character. -/
theorem isContinuation_ascii {byte : UInt8} (ascii : byte < 0x80) :
    isContinuation byte = false := by
  -- Those that do start above it.
  simp only [isContinuation, Bool.and_eq_false_iff, decide_eq_false_iff_not]
  exact Or.inl (by rw [UInt8.not_le]; exact ascii)

/-- A byte of ASCII is decoded at once. -/
theorem decodeOnto_ascii {byte : UInt8} (ascii : byte < 0x80) (done : List Char)
    (rest : List UInt8) :
    decodeOnto done (byte :: rest) = decodeOnto (Char.ofNat byte.toNat :: done) rest := by
  -- The byte announces one byte, itself, whether or not there are more.
  have one := announcedLength_ascii ascii
  cases rest <;> rw [decodeOnto.eq_def] <;> simp [one, decodeOnto]

/-- Bytes in front of a byte of ASCII are decoded as if they stood alone. -/
theorem decodeOnto_append_ascii {byte : UInt8} (ascii : byte < 0x80) (done : List Char)
    (bytes rest : List UInt8) :
    decodeOnto done (bytes ++ byte :: rest) =
      decodeOnto (Char.ofNat byte.toNat :: (decodeOnto done bytes).reverse) rest := by
  have breaks : isContinuation byte = false := isContinuation_ascii ascii
  have refused : ∀ first, mayFollow first byte = false := by simp [mayFollow, breaks]
  -- The byte is never taken into a character, so each step is the one taken without it.
  fun_induction decodeOnto done bytes with
  | case1 done => simp [decodeOnto_ascii ascii]
  | case2 done first =>
    rw [List.cons_append, decodeOnto.eq_def]
    by_cases one : announcedLength first = 1 <;> simp [one, refused, decodeOnto_ascii ascii]
  | _ =>
    rw [List.cons_append, decodeOnto.eq_def]
    simp_all +zetaDelta [decodeOnto_ascii ascii]

/-- Characters already decoded stand in front of those decoded later. -/
theorem decodeOnto_done (done : List Char) (bytes : List UInt8) :
    decodeOnto done bytes = done.reverse ++ ofUtf8 bytes := by
  -- The characters already decoded are only ever added to, and reversed at the end.
  have general : ∀ later earlier : List Char,
      decodeOnto (later ++ earlier) bytes = earlier.reverse ++ decodeOnto later bytes := by
    intro later earlier
    fun_induction decodeOnto later bytes with
    | case1 later => simp [decodeOnto]
    | case2 later first => simp [decodeOnto]
    | _ =>
      rw [decodeOnto.eq_def]
      simp_all +zetaDelta
  simpa [ofUtf8] using general [] done

/-- Bytes on both sides of a byte of ASCII are decoded one side after the other. -/
theorem ofUtf8_append_ascii {byte : UInt8} (ascii : byte < 0x80) (bytes rest : List UInt8) :
    ofUtf8 (bytes ++ byte :: rest) = ofUtf8 bytes ++ Char.ofNat byte.toNat :: ofUtf8 rest := by
  -- When the byte comes, all in front of it has been decoded, and nothing is left over.
  rw [ofUtf8, decodeOnto_append_ascii ascii, decodeOnto_done]
  simp [ofUtf8]

/-- The bytes of an array are those of its data. -/
theorem toList_byteArray (array : ByteArray) : array.toList = array.data.toList := by
  -- The bytes that were taken are in front, in reverse, of those that are left.
  have general : ∀ place done, ByteArray.toList.loop array place done =
      done.reverse ++ array.data.toList.drop place := by
    intro place done
    fun_induction ByteArray.toList.loop array place done with
    | case1 place done inside ih =>
      have next : array.data.toList.drop place =
          array.get! place :: array.data.toList.drop (place + 1) := by
        rw [List.drop_eq_getElem_cons (by simpa using inside)]
        simp [ByteArray.get!, inside]
      rw [ih, next]
      simp
    | case2 place done outside =>
      have none : array.data.toList.drop place = [] :=
        List.drop_eq_nil_of_le (by simpa using Nat.le_of_not_lt outside)
      rw [none, List.append_nil]
  simpa [ByteArray.toList] using general 0 []

/-- The bytes of a text are those of its characters, one after the other. -/
theorem toUtf8_eq_flatMap (text : String) :
    toUtf8 text = text.toList.flatMap String.utf8EncodeChar := by
  -- The library holds a text as the bytes of its characters.
  have whole : text.toUTF8 = (text.toList.flatMap String.utf8EncodeChar).toByteArray :=
    String.utf8Encode_toList.symm
  rw [toUtf8, toList_byteArray, whole, List.data_toByteArray]

/-- Two texts of the same bytes are the same. -/
theorem toUtf8_inj {text other : String} (same : toUtf8 text = toUtf8 other) : text = other := by
  -- A text is no more than its bytes, which are an array of them.
  rw [toUtf8, toUtf8, toList_byteArray, toList_byteArray] at same
  exact String.toByteArray_inj.mp (ByteArray.ext (Array.toList_inj.mp same))

end LiveBoard.Text
