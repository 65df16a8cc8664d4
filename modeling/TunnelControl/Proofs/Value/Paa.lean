import TunnelControl.Proofs.Element.Carriage

namespace TunnelControl.Paa

variable {paa found : Paa} {octets rest : Octets}

inductive Readable : Paa → Prop where
  | ipv4 (address : Ipv4) : Readable (.ofIpv4 address)
  | ipv6 (prefixLength : UInt8) (address : Ipv6) : Readable (.ofIpv6 prefixLength address)
  | both (ipv4 : Ipv4) (prefixLength : UInt8) (ipv6 : Ipv6) :
      Readable (.ofBoth ipv4 prefixLength ipv6)
  | neither {pdnType : UInt8} (short : pdnType < 8)
      (other : pdnType ≠ 1 ∧ pdnType ≠ 2 ∧ pdnType ≠ 3) : Readable { pdnType }

def behind (paa : Paa) : Octets :=
  (paa.ipv6.elim [] fun ipv6 => paa.prefixLength.getD 64 :: ipv6.toOctets) ++
    paa.ipv4.elim [] Ipv4.toOctets

def readBehind (pdnType : UInt8) : Reader Paa :=
  match pdnType with
  | 1 => do return ofIpv4 (← Reader.ipv4)
  | 2 => do return ofIpv6 (← Reader.u8) (← Reader.ipv6)
  | 3 => do
      let prefixLength ← Reader.u8
      let ipv6 ← Reader.ipv6
      return ofBoth (← Reader.ipv4) prefixLength ipv6
  | _ => return { pdnType }

theorem readBehind_other {pdnType : UInt8} (other : pdnType ≠ 1 ∧ pdnType ≠ 2 ∧ pdnType ≠ 3) :
    readBehind pdnType = pure { pdnType } := by
  unfold readBehind
  split
  · exact absurd rfl other.1
  · exact absurd rfl other.2.1
  · exact absurd rfl other.2.2
  · rfl

theorem readBehind_eq_ok {pdnType : UInt8} (short : pdnType < 8) :
    readBehind pdnType octets = (.ok found, rest) ↔
      found.Readable ∧ pdnType = found.pdnType ∧ octets = found.behind ++ rest := by
  constructor
  · intro read
    unfold readBehind at read
    split at read
    · simp only [Reader.bind_eq_ok, Reader.ipv4_eq_ok, Reader.pure_eq_ok] at read
      obtain ⟨address, _, rfl, rfl, rfl⟩ := read
      exact ⟨.ipv4 address, rfl, rfl⟩
    · simp only [Reader.bind_eq_ok, Reader.u8_eq_ok, Reader.ipv6_eq_ok, Reader.pure_eq_ok] at read
      obtain ⟨prefixLength, _, rfl, address, _, rfl, rfl, rfl⟩ := read
      exact ⟨.ipv6 prefixLength address, rfl, by simp [behind, ofIpv6]⟩
    · simp only [Reader.bind_eq_ok, Reader.u8_eq_ok, Reader.ipv6_eq_ok, Reader.ipv4_eq_ok,
        Reader.pure_eq_ok] at read
      obtain ⟨prefixLength, _, rfl, ipv6, _, rfl, ipv4, _, rfl, rfl, rfl⟩ := read
      exact ⟨.both ipv4 prefixLength ipv6, rfl, by simp [behind, ofBoth]⟩
    · next first second third =>
        obtain ⟨rfl, rfl⟩ := Reader.pure_eq_ok.mp read
        exact ⟨.neither short ⟨first, second, third⟩, rfl, rfl⟩
  · rintro ⟨readable, rfl, rfl⟩
    cases readable with
    | ipv4 address =>
        exact Reader.bind_ok (Reader.ipv4_append ..) _
    | ipv6 prefixLength address =>
        show readBehind 2 (prefixLength :: (address.toOctets ++ [] ++ rest)) = _
        rw [List.append_nil]
        exact (Reader.bind_ok (Reader.u8_cons ..) _).trans
          (Reader.bind_ok (Reader.ipv6_append ..) _)
    | both ipv4 prefixLength ipv6 =>
        show readBehind 3 (prefixLength :: (ipv6.toOctets ++ ipv4.toOctets ++ rest)) = _
        rw [List.append_assoc]
        exact (Reader.bind_ok (Reader.u8_cons ..) _).trans
          ((Reader.bind_ok (Reader.ipv6_append ..) _).trans
            (Reader.bind_ok (Reader.ipv4_append ..) _))
    | neither _ other =>
        rw [readBehind_other other]
        rfl

theorem size_le (readable : found.Readable) :
    size found.pdnType ≤ found.behind.length + 1 := by
  cases readable with
  | ipv4 address => simp [size, behind, ofIpv4]
  | ipv6 prefixLength address => simp [size, behind, ofIpv6]
  | both ipv4 prefixLength ipv6 => simp [size, behind, ofBoth]
  | @neither pdnType _ other =>
      unfold size
      split <;> simp_all [behind]

theorem read_eq_ok : read octets = (.ok found, rest) ↔ found.Readable ∧
    ∃ first, first % 8 = found.pdnType ∧ octets = first :: (found.behind ++ rest) := by
  show (Reader.need 1 >>= fun _ => Reader.peek >>= fun first => Reader.need (size (first % 8)) >>=
    fun _ => Reader.u8 >>= fun _ => readBehind (first % 8)) octets = _ ↔ _
  have short (first : UInt8) : first % 8 < 8 := Nat.mod_lt _ (by decide)
  simp only [Reader.bind_eq_ok, Reader.need_eq_ok, Reader.peek_eq_ok, Reader.u8_eq_ok,
    readBehind_eq_ok (short _)]
  constructor
  · rintro ⟨_, _, ⟨_, rfl⟩, first, _, ⟨head, rfl⟩, _, _, ⟨_, rfl⟩, _, _, rfl, readable, kind, rfl⟩
    cases head
    exact ⟨readable, _, kind, rfl⟩
  · rintro ⟨readable, first, kind, rfl⟩
    have enough : size (first % 8) ≤ (first :: (found.behind ++ rest)).length := by
      have behind := size_le readable
      rw [kind, List.length_cons, List.length_append]
      omega
    exact ⟨(), _, ⟨by simp, rfl⟩, first, _, ⟨rfl, rfl⟩, (), _, ⟨enough, rfl⟩, first, _, rfl,
      readable, kind, rfl⟩

def cut (paa : Paa) : Paa :=
  { paa with
    pdnType := paa.pdnType % 8
    prefixLength := paa.ipv6.map fun _ => paa.prefixLength.getD 64 }

theorem encode_eq (paa : Paa) : paa.encode = paa.cut.pdnType :: paa.cut.behind := by
  cases h : paa.ipv6 <;> simp [encode, behind, cut, h]

theorem read_encode_of_readable (readable : paa.cut.Readable) (rest : Octets) :
    read (paa.encode ++ rest) = (.ok paa.cut, rest) := by
  rw [encode_eq]
  exact read_eq_ok.mpr ⟨readable, paa.cut.pdnType, Octets.mod_mod paa.pdnType 8, rfl⟩

inductive Allotted : Paa → Prop where
  | ipv4 (address : Ipv4) : Allotted (.ofIpv4 address)
  | ipv6 (prefixLength : UInt8) (address : Ipv6) : Allotted (.ofIpv6 prefixLength address)
  | both (ipv4 : Ipv4) (prefixLength : UInt8) (ipv6 : Ipv6) :
      Allotted (.ofBoth ipv4 prefixLength ipv6)

theorem read_encode (allotted : paa.Allotted) (rest : Octets) :
    read (paa.encode ++ rest) = (.ok paa, rest) := by
  cases allotted with
  | ipv4 address => exact @read_encode_of_readable (ofIpv4 address) (.ipv4 address) rest
  | ipv6 prefixLength address =>
      exact @read_encode_of_readable (ofIpv6 prefixLength address) (.ipv6 prefixLength address) rest
  | both ipv4 prefixLength ipv6 =>
      exact @read_encode_of_readable (ofBoth ipv4 prefixLength ipv6)
        (.both ipv4 prefixLength ipv6) rest

theorem address?_eq (paa : Paa) : paa.address? = (paa.ipv4.map .v4).or (paa.ipv6.map .v6) := by
  unfold address?
  cases paa.ipv4 <;> rfl

/-- Whether the addresses are those of a connection of their kind: kinds 1 and 3 have an IPv4
address, kinds 2 and 3 an IPv6 prefix. -/
structure Announced (paa : Paa) : Prop where
  ipv4 : paa.ipv4.isSome ↔ paa.pdnType % 8 = 1 ∨ paa.pdnType % 8 = 3
  ipv6 : paa.ipv6.isSome ↔ paa.pdnType % 8 = 2 ∨ paa.pdnType % 8 = 3

/-- Whether what was read tells what was written: the kind of connection in three bits, the
addresses, and the length of the prefix, which is 64 if none was given. -/
structure Kept (paa found : Paa) : Prop where
  pdnType : found.pdnType = paa.pdnType % 8
  ipv4 : found.ipv4 = paa.ipv4
  ipv6 : found.ipv6 = paa.ipv6
  prefixLength : paa.ipv6.isSome → found.prefixLength = some (paa.prefixLength.getD 64)

theorem Readable.announced (readable : found.Readable) : found.Announced := by
  cases readable with
  | ipv4 address => exact ⟨by simp [ofIpv4], by simp [ofIpv4]⟩
  | ipv6 prefixLength address => exact ⟨by simp [ofIpv6], by simp [ofIpv6]⟩
  | both ipv4 prefixLength ipv6 => exact ⟨by simp [ofBoth], by simp [ofBoth]⟩
  | @neither pdnType short other =>
      have whole : pdnType % 8 = pdnType := Octets.mod_of_lt short
      exact ⟨by simp [whole, other], by simp [whole, other]⟩

theorem Announced.readable (announced : paa.Announced) : paa.cut.Readable := by
  obtain ⟨pdnType, ipv4, prefixLength, ipv6⟩ := paa
  obtain ⟨four, six⟩ := announced
  cases ipv4 with
  | none =>
      cases ipv6 with
      | none =>
        refine .neither (Nat.mod_lt _ (by decide)) ?_
        simp_all
      | some address =>
        have kind : pdnType % 8 = 2 := by simp_all
        rw [cut, kind]
        exact .ipv6 _ address
  | some ipv4 =>
      cases ipv6 with
      | none =>
        have kind : pdnType % 8 = 1 := by simp_all
        rw [cut, kind]
        exact .ipv4 ipv4
      | some ipv6 =>
        have kind : pdnType % 8 = 3 := by
          refine (four.mp rfl).resolve_left fun one => ?_
          simp [one] at six
        rw [cut, kind]
        exact .both ipv4 _ ipv6

theorem kept_cut (paa : Paa) : paa.Kept paa.cut := by
  refine ⟨rfl, rfl, rfl, fun present => ?_⟩
  obtain ⟨address, found⟩ := Option.isSome_iff_exists.mp present
  simp [cut, found]

theorem Kept.announced (kept : paa.Kept found) (announced : found.Announced) :
    paa.Announced := by
  obtain ⟨ipv4, ipv6⟩ := announced
  rw [kept.ipv4, kept.pdnType, Octets.mod_mod] at ipv4
  rw [kept.ipv6, kept.pdnType, Octets.mod_mod] at ipv6
  exact ⟨ipv4, ipv6⟩

/-- The element of addresses gives back what travels of them if they are those of a connection of
their kind. If they are not, it gives an error or something else. -/
theorem kept_iff_announced (paa : Paa) : ∃ element, Element.of .paa paa = .ok element ∧
    ((∃ found, element.get .paa = .ok found ∧ paa.Kept found) ↔ paa.Announced) ∧
    (paa.Announced → element.get .paa = .ok paa.cut) := by
  have given : (Element.ofValue .paa 0 paa.encode).get .paa = read.value paa.encode :=
    Element.get_ofValue
  have back (announced : paa.Announced) :
      (Element.ofValue .paa 0 paa.encode).get .paa = .ok paa.cut := by
    have found := read_encode_of_readable announced.readable []
    rw [List.append_nil] at found
    rw [given]
    exact Reader.value_eq_ok.mpr ⟨[], found⟩
  refine ⟨.ofValue .paa 0 paa.encode, rfl, ⟨?_, ?_⟩, back⟩
  · rintro ⟨found, gives, kept⟩
    -- a reader finds nothing but the addresses of a connection of their kind
    have readable : found.Readable := by
      rw [given] at gives
      obtain ⟨rest, found_eq⟩ := Reader.value_eq_ok.mp gives
      exact (read_eq_ok.mp found_eq).1
    exact kept.announced readable.announced
  · intro announced
    exact ⟨paa.cut, back announced, paa.kept_cut⟩

theorem kept_iff_announced_both :
    let paa : Paa := { pdnType := 0xFB, ipv4 := some ⟨0x01020304⟩, ipv6 := some ⟨1⟩ }
    paa.Announced ∧ ∃ element, Element.of .paa paa = .ok element ∧
      element.get .paa = .ok (.ofBoth ⟨0x01020304⟩ 64 ⟨1⟩) := by
  intro paa
  have announced : paa.Announced := ⟨by decide, by decide⟩
  have travels : paa.cut = .ofBoth ⟨0x01020304⟩ 64 ⟨1⟩ := by decide
  obtain ⟨element, built, _, back⟩ := kept_iff_announced paa
  exact ⟨announced, element, built, travels ▸ back announced⟩

/-- Of an IPv4 connection that also has a prefix, an IPv4 address is read that starts with the
length of the prefix. -/
theorem not_kept_beside_prefix :
    let paa : Paa := {
      pdnType := 1
      ipv4 := some ⟨0x01020304⟩
      ipv6 := some ⟨0x20010000000000000000000000000007⟩ }
    ∃ element, Element.of .paa paa = .ok element ∧
      element.get .paa = .ok (.ofIpv4 ⟨0x40200100⟩) ∧
      ¬ ∃ found, element.get .paa = .ok found ∧ paa.Kept found := by
  intro paa
  have gives : (Element.ofValue .paa 0 paa.encode).get .paa = .ok (.ofIpv4 ⟨0x40200100⟩) := by
    decide +kernel
  refine ⟨.ofValue .paa 0 paa.encode, rfl, gives, ?_⟩
  rintro ⟨found, found_eq, kept⟩
  rw [gives] at found_eq
  cases found_eq
  exact absurd kept.ipv4 (by decide)

end TunnelControl.Paa
