import TunnelControl.Message.Header

namespace TunnelControl.Header

variable {header : Header} {octets rest : Octets}

theorem fixedSize_le_size (header : Header) : fixedSize ≤ header.size := by
  unfold size fixedSize
  split <;> omega

theorem toNat_flags (header : Header) : header.flags.toNat =
    32 * (header.version.toNat % 8) + 16 * header.piggybacked.toNat +
      8 * header.teid.isSome.toNat := by
  unfold flags flag
  have bound : header.version.toNat % 8 < 8 := Nat.mod_lt _ (by decide)
  cases header.piggybacked <;> cases header.teid <;> simp <;> omega

theorem flags_version (header : Header) : header.flags / 32 = header.version % 8 := by
  rw [← UInt8.toNat_inj, UInt8.toNat_div, toNat_flags]
  cases header.piggybacked <;> cases header.teid <;> simp <;> omega

theorem hasFlag_iff {weight octet : UInt8} :
    hasFlag weight octet = true ↔ octet.toNat / weight.toNat % 2 = 1 := by
  unfold hasFlag
  rw [beq_iff_eq, ← UInt8.toNat_inj, UInt8.toNat_mod, UInt8.toNat_div]
  rfl

theorem flags_teid (header : Header) : hasFlag 8 header.flags = header.teid.isSome := by
  rw [Bool.eq_iff_iff, hasFlag_iff, toNat_flags]
  cases header.piggybacked <;> cases header.teid <;> simp <;> omega

theorem flags_piggybacked (header : Header) :
    hasFlag 0x10 header.flags = header.piggybacked := by
  rw [Bool.eq_iff_iff, hasFlag_iff, toNat_flags]
  cases header.piggybacked <;> cases header.teid <;> simp <;> omega

def spelled (flags spare : UInt8) (header : Header) : Octets :=
  flags :: header.type :: Octets.ofU16 header.length ++
    header.teid.elim [] Octets.ofU32 ++ Octets.ofU24 header.sequence ++ [spare]

theorem encode_eq_spelled (header : Header) : header.encode = spelled header.flags 0 header := rfl

@[simp] theorem length_spelled (flags spare : UInt8) (header : Header) :
    (spelled flags spare header).length = header.size := by
  cases h : header.teid <;>
    simp [spelled, size, h, Octets.ofU16, Octets.ofU24, Octets.ofU32]

theorem read_eq_ok : read octets = (.ok header, rest) ↔
    header.sequence.toNat < 0x1000000 ∧ ∃ flags spare, flags / 32 = header.version ∧
      hasFlag 0x10 flags = header.piggybacked ∧ hasFlag 8 flags = header.teid.isSome ∧
      octets = spelled flags spare header ++ rest := by
  simp only [read, Reader.bind_eq_ok, Reader.need_eq_ok, Reader.u8_eq_ok, Reader.u16_eq_ok,
    Reader.u24_eq_ok, Reader.optional_eq_ok, Reader.u32_eq_ok, Reader.pure_eq_ok]
  constructor
  · rintro ⟨_, _, ⟨_, rfl⟩, flags, _, rfl, type, _, rfl, length, _, rfl, _, _, ⟨_, rfl⟩, teid, _,
      ⟨addressed, found⟩, sequence, _, ⟨short, rfl⟩, spare, _, rfl, rfl, rfl⟩
    refine ⟨short, flags, spare, rfl, rfl, addressed.symm, ?_⟩
    cases teid <;> simp_all [spelled]
  · rintro ⟨short, flags, spare, version, piggybacked, addressed, rfl⟩
    have parts : spelled flags spare header ++ rest = flags :: header.type ::
        (Octets.ofU16 header.length ++ (header.teid.elim [] Octets.ofU32 ++
          (Octets.ofU24 header.sequence ++ spare :: rest))) := by
      simp [spelled]
    have enough : fixedSize ≤ (spelled flags spare header ++ rest).length := by
      rw [List.length_append, length_spelled]
      exact Nat.le_add_right_of_le header.fixedSize_le_size
    refine ⟨(), _, ⟨enough, rfl⟩, flags, _, parts, header.type, _, rfl, header.length, _, rfl,
      (), _, ⟨?_, rfl⟩, header.teid, Octets.ofU24 header.sequence ++ spare :: rest,
      ⟨addressed.symm, ?_⟩, header.sequence, _, ⟨short, rfl⟩, spare, _, rfl, ?_, rfl⟩
    · cases h : header.teid <;>
        simp [addressed, h, Octets.ofU24, Octets.ofU32] <;> omega
    · cases header.teid <;> rfl
    · rw [version, piggybacked]

theorem read_append (found : read octets = (.ok header, rest)) (more : Octets) :
    read (octets ++ more) = (.ok header, rest ++ more) := by
  obtain ⟨short, flags, spare, version, piggybacked, addressed, rfl⟩ := read_eq_ok.mp found
  exact read_eq_ok.mpr ⟨short, flags, spare, version, piggybacked, addressed,
    List.append_assoc _ rest more⟩

theorem read_encode (header : Header) (rest : Octets) :
    read (header.encode ++ rest) =
      (.ok { header with
        version := header.version % 8
        sequence := header.sequence % sequenceBound }, rest) := by
  have short : (header.sequence % sequenceBound).toNat < 0x1000000 :=
    Nat.mod_lt _ (by decide)
  have low : Octets.ofU24 (header.sequence % sequenceBound) = Octets.ofU24 header.sequence :=
    Octets.ofNat_mod 3 header.sequence.toNat
  refine read_eq_ok.mpr ⟨short, header.flags, 0, header.flags_version, header.flags_piggybacked,
    header.flags_teid, ?_⟩
  rw [encode_eq_spelled, spelled, spelled, low]

theorem read_encode_supported (header : Header) (version : header.version = supportedVersion)
    (rest : Octets) :
    read (header.encode ++ rest) =
      (.ok { header with sequence := header.sequence % sequenceBound }, rest) := by
  have kept : header.version % 8 = header.version := by
    rw [version]
    rfl
  rw [read_encode, kept]

def sizeOfFlags (flags : UInt8) : Nat := if hasFlag 8 flags then 12 else 8

theorem sizeOfFlags_eq (flags : UInt8) :
    sizeOfFlags flags = fixedSize + if hasFlag 8 flags then 8 else 4 := by
  unfold sizeOfFlags
  split <;> rfl

theorem fixedSize_le_sizeOfFlags (flags : UInt8) : fixedSize ≤ sizeOfFlags flags := by
  rw [sizeOfFlags_eq]
  exact Nat.le_add_right _ _

def missing (size available : Nat) : Error :=
  if available < fixedSize then .tooShort fixedSize available
  else .tooShort (size - fixedSize) (available - fixedSize)

theorem size_of_read (found : read octets = (.ok header, rest)) :
    sizeOfFlags (octets.headD 0) = header.size ∧ octets.length = header.size + rest.length := by
  obtain ⟨_, flags, spare, _, _, addressed, rfl⟩ := read_eq_ok.mp found
  constructor
  · rw [size, ← addressed]
    rfl
  · rw [List.length_append, length_spelled]

theorem exists_fixed (enough : fixedSize ≤ octets.length) :
    ∃ flags type length tail, octets = flags :: type :: (Octets.ofU16 length ++ tail) := by
  match octets, enough with
  | flags :: type :: high :: low :: tail, _ =>
      have read : Reader.u16 (high :: low :: tail) = (.ok _, tail) := rfl
      exact ⟨flags, type, _, tail, by rw [← Reader.u16_eq_ok.mp read]⟩

theorem length_fixed (flags type : UInt8) (length : UInt16) (tail : Octets) :
    (flags :: type :: (Octets.ofU16 length ++ tail)).length = fixedSize + tail.length := by
  simp only [List.length_cons, List.length_append, Octets.ofU16, Octets.length_ofNat, fixedSize]
  omega

theorem read_fixed (flags type : UInt8) (length : UInt16) (tail : Octets) :
    read (flags :: type :: (Octets.ofU16 length ++ tail)) = (do
      Reader.need (if hasFlag 8 flags then 8 else 4)
      let teid ← Reader.optional (hasFlag 8 flags) Reader.u32
      let sequence ← Reader.u24
      let _ ← Reader.u8
      return {
        version := flags / 32
        piggybacked := hasFlag 0x10 flags
        type, length, teid, sequence } : Reader Header) tail := by
  have enough : fixedSize ≤ (flags :: type :: (Octets.ofU16 length ++ tail)).length := by
    rw [length_fixed]
    exact Nat.le_add_right _ _
  unfold read
  rw [Reader.bind_ok (Reader.need_of_le enough), Reader.bind_ok (Reader.u8_cons _ _),
    Reader.bind_ok (Reader.u8_cons _ _), Reader.bind_ok (Reader.u16_append _ _)]

theorem read_of_few (few : octets.length < fixedSize) :
    read octets = (.error (.tooShort fixedSize octets.length), octets) := by
  simp [read, Reader.bind_apply, Reader.need, few]

theorem read_of_short (short : octets.length < sizeOfFlags (octets.headD 0)) :
    ∃ left, read octets =
      (.error (missing (sizeOfFlags (octets.headD 0)) octets.length), left) := by
  by_cases few : octets.length < fixedSize
  · rw [missing, if_pos few]
    exact ⟨_, read_of_few few⟩
  · obtain ⟨flags, type, length, tail, rfl⟩ := exists_fixed (Nat.not_lt.mp few)
    rw [missing, if_neg few]
    rw [length_fixed, List.headD_cons, sizeOfFlags_eq] at short ⊢
    have fewer := Nat.lt_of_add_lt_add_left short
    rw [Nat.add_sub_cancel_left, Nat.add_sub_cancel_left, read_fixed]
    exact ⟨tail, by simp [Reader.bind_apply, Reader.need, fewer]⟩

end TunnelControl.Header
