import TunnelControl.Proofs.Message.Header
import TunnelControl.Proofs.Octets.Bounds

namespace TunnelControl.Header

variable {header : Header} {octets rest : Octets}

theorem flags_of_octet : ∀ octet : UInt8,
    octet / 32 % 8 * 32 + flag 0x10 (hasFlag 0x10 octet) + flag 8 (hasFlag 8 octet) =
      octet &&& 0xF8 :=
  Octets.forall_octet (by decide +kernel)

theorem spelled_clear (flags spare : UInt8) (header : Header) :
    spelled (flags &&& 0xF8) 0 header =
      ((spelled flags spare header).modify 0 (· &&& 0xF8)).set (header.size - 1) 0 := by
  unfold spelled size
  cases header.teid <;> rfl

theorem encode_of_read (found : read octets = (.ok header, rest)) :
    header.encode =
      ((octets.take header.size).modify 0 (· &&& 0xF8)).set (header.size - 1) 0 := by
  obtain ⟨_, flags, spare, version, piggybacked, addressed, rfl⟩ := read_eq_ok.mp found
  have kept : header.flags = flags &&& 0xF8 := by
    rw [Header.flags, ← version, ← piggybacked, ← addressed, flags_of_octet]
  have front : (spelled flags spare header ++ rest).take header.size =
      spelled flags spare header := by
    rw [← length_spelled flags spare header, List.take_left]
  rw [encode_eq_spelled, kept, front, spelled_clear flags spare]

theorem rest_of_read (found : read octets = (.ok header, rest)) :
    rest = octets.drop header.size := by
  obtain ⟨_, flags, spare, _, _, _, rfl⟩ := read_eq_ok.mp found
  rw [← length_spelled flags spare header, List.drop_left]

theorem exists_read (enough : sizeOfFlags (octets.headD 0) ≤ octets.length) :
    ∃ header rest, read octets = (.ok header, rest) := by
  obtain ⟨flags, type, length, tail, rfl⟩ :=
    exists_fixed (Nat.le_trans (fixedSize_le_sizeOfFlags _) enough)
  rw [length_fixed, List.headD_cons, sizeOfFlags_eq] at enough
  have covered := Nat.le_of_add_le_add_left enough
  -- the check for the rest of the header covers just what is taken after it
  have takes := (Reader.Takes.u32.optional (hasFlag 8 flags)).bind fun teid =>
    Reader.Takes.u24.bind fun sequence => Reader.Takes.u8.bind fun _ => .pure
      { version := flags / 32, piggybacked := hasFlag 0x10 flags, type, length, teid, sequence :
        Header }
  have sum : (if hasFlag 8 flags then 4 else 0) + (3 + (1 + 0)) =
      if hasFlag 8 flags then 8 else 4 := by
    split <;> rfl
  rw [sum] at takes
  obtain ⟨header, found⟩ := takes.exists_eq_ok covered
  exact ⟨header, _, by rw [read_fixed, Reader.bind_ok (Reader.need_of_le covered), found]⟩

theorem value_eq_error {error : Error} : read.value octets = .error error ↔
    (octets.length < fixedSize ∨ octets.length < sizeOfFlags (octets.headD 0)) ∧
      error = missing (sizeOfFlags (octets.headD 0)) octets.length := by
  by_cases short : octets.length < sizeOfFlags (octets.headD 0)
  · obtain ⟨left, refused⟩ := read_of_short short
    rw [Reader.value, refused, Except.error.injEq, and_iff_right (.inr short), eq_comm]
  · have least := fixedSize_le_sizeOfFlags (octets.headD 0)
    obtain ⟨header, rest, found⟩ := exists_read (Nat.not_lt.mp short)
    rw [Reader.value, found]
    constructor
    · intro refused
      cases refused
    · rintro ⟨few, _⟩
      omega

/-- What was written is read again from its own octets and no others, up to the bits that do not
travel. What was read is written as the octets that it was read from, up to the spare bits. Nothing
is read exactly where there are fewer octets than the first four, or than the flag of the tunnel
endpoint among them announces, and this is what is reported. -/
theorem reading_inverts_writing :
    (∀ (header : Header) (rest : Octets), header.encode.length = header.size ∧
      read (header.encode ++ rest) =
        (.ok { header with
          version := header.version % 8
          sequence := header.sequence % sequenceBound }, rest)) ∧
    (∀ (octets : Octets) (header : Header) (rest : Octets), read octets = (.ok header, rest) →
      header.encode =
        ((octets.take header.size).modify 0 (· &&& 0xF8)).set (header.size - 1) 0 ∧
      rest = octets.drop header.size) ∧
    ∀ (octets : Octets) (error : Error), read.value octets = .error error ↔
      (octets.length < fixedSize ∨ octets.length < sizeOfFlags (octets.headD 0)) ∧
        error = missing (sizeOfFlags (octets.headD 0)) octets.length :=
  ⟨fun header rest => ⟨header.length_encode, read_encode header rest⟩,
    fun _ _ _ found => ⟨encode_of_read found, rest_of_read found⟩,
    fun _ _ => value_eq_error⟩

theorem reading_inverts_writing_spare :
    let octets : Octets := [0x5F, 96, 0, 8, 0, 0, 0, 1, 0, 0, 7, 0xFF, 9]
    let header : Header :=
      { piggybacked := true, type := 96, length := 8, teid := some 1, sequence := 7 }
    read octets = (.ok header, [9]) ∧
      header.encode = [0x58, 96, 0, 8, 0, 0, 0, 1, 0, 0, 7, 0] ∧
      read ({ header with version := 10, sequence := 0x1000007 }.encode ++ [9]) =
        (.ok header, [9]) ∧
      read.value [0x48, 32, 0, 8, 0, 0] = .error (.tooShort 8 2) := by
  intro octets header
  obtain ⟨back, again, missed⟩ := reading_inverts_writing
  have found : read octets = (.ok header, [9]) := by
    unfold octets header
    rfl
  have version : (10 : UInt8) % 8 = 2 := rfl
  have sequence : (0x1000007 : UInt32) % sequenceBound = 7 := rfl
  have travelled := (back { header with version := 10, sequence := 0x1000007 } [9]).2
  simp only [version, sequence] at travelled
  exact ⟨found, (again octets header [9] found).1, travelled,
    (missed _ _).mpr ⟨.inr (by decide), rfl⟩⟩

end TunnelControl.Header
