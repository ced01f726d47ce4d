import LiveBoard.Proofs.Url.Escapes
import LiveBoard.Url.Host

/-!
What is known of hosts that are read, however their names are mapped.

A name in ASCII is read as itself in lower case, so that the mapping makes no difference to it. Of
any other name it is known that what comes of it is in ASCII and may stand in an address.
-/

namespace LiveBoard.Url

/-- A character of ASCII is one byte. -/
theorem charBytes_of_isAscii : ∀ c, Punycode.isAscii c → charBytes c = [UInt8.ofNat c.toNat] :=
  Punycode.forall_isAscii (by decide +kernel)

/-- Characters of ASCII without a percent sign are decoded as themselves. -/
theorem ofUtf8_percentDecode {chars : List Char} (ascii : ∀ c ∈ chars, Punycode.isAscii c)
    (free : '%' ∉ chars) : Text.ofUtf8 (percentDecode chars) = chars := by
  induction chars with
  | nil => rfl
  | cons c rest ih =>
    -- No escape starts at a character that is no percent sign, so it is decoded by itself.
    have unescaped : startsEscape (c :: rest) = false := by
      unfold startsEscape
      split
      · rename_i escape
        rw [(List.cons.inj escape).1] at free
        exact absurd List.mem_cons_self free
      · rfl
    -- The byte of the character is decoded on its own, whatever the others are decoded to.
    have first := ascii c List.mem_cons_self
    have value : (UInt8.ofNat c.toNat).toNat = c.toNat := by
      have small : c.toNat < 0x80 := of_decide_eq_true first
      rw [UInt8.toNat_ofNat']
      omega
    have small : UInt8.ofNat c.toNat < 0x80 := by
      rw [UInt8.lt_iff_toNat_lt, value]
      exact of_decide_eq_true first
    have read := Text.ofUtf8_append_ascii small [] (percentDecode rest)
    have behind := ih (fun other member => ascii other (List.mem_cons_of_mem c member))
      fun member => free (List.mem_cons_of_mem c member)
    rw [List.nil_append, behind, value, Char.ofNat_toNat] at read
    rw [percentDecode_cons unescaped, charBytes_of_isAscii c first, List.singleton_append, read]
    rfl

namespace Host

variable (hosts : HostMapping)

/-- A name in ASCII that is no number is read as itself in lower case, however hosts are mapped. -/
theorem parse?_of_isAscii {name : List Char} (present : name ≠ [])
    (ascii : ∀ c ∈ name, Punycode.isAscii c) (allowed : ∀ c ∈ name, isForbidden c = false)
    (plain : ∀ label ∈ name.splitOn '.', isEncodedLabel label = false)
    (named : endsInNumber (name.map Char.toLower) = false) :
    parse? hosts name = some (.domain (name.map Char.toLower)) := by
  -- Brackets and percent signs are forbidden, so the name is neither an address nor escaped.
  have absent : ∀ c, isForbidden c → c ∉ name := by
    intro c forbidden member
    rw [allowed c member] at forbidden
    cases forbidden
  have form : hosts.toAscii? name = some (name.map Char.toLower) := by
    rw [hosts.ofAscii name ascii plain, if_neg (by simpa using allowed)]
  unfold parse?
  split
  · -- A bracket may not stand in a name.
    exact absurd List.mem_cons_self (absent '[' (by decide))
  · rw [ofUtf8_percentDecode ascii (absent '%' (by decide)), form]
    simp [present, named]

/-- A domain that is read is not empty, is in ASCII, and holds no forbidden character. -/
theorem isAscii_of_parse? {chars name : List Char}
    (read : parse? hosts chars = some (.domain name)) :
    name ≠ [] ∧ ∀ c ∈ name, Punycode.isAscii c ∧ isForbidden c = false := by
  unfold parse? at read
  split at read
  · -- What stands in brackets is read as an address, or not at all.
    split at read
    · obtain ⟨pieces, -, address⟩ := Option.bind_eq_some_iff.mp read
      cases address
    · cases read
  · obtain ⟨form, found, rest⟩ := Option.bind_eq_some_iff.mp read
    -- Whatever the mapping makes of a name is sound by its own laws.
    have sound := hosts.sound _ form found
    split at rest
    · cases rest
    · rename_i present
      split at rest
      · obtain ⟨address, -, number⟩ := Option.bind_eq_some_iff.mp rest
        cases number
      · obtain rfl := Host.domain.inj (Option.some.inj rest)
        exact ⟨by simpa using present, sound⟩

end Host

end LiveBoard.Url
