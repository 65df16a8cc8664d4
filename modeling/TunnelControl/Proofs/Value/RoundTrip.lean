import TunnelControl.Element.Attribute
import TunnelControl.Proofs.Identity.Name
import TunnelControl.Proofs.Identity.Plmn
import TunnelControl.Proofs.Message.Header

namespace TunnelControl

variable {α : Type} {octets rest : Octets}

namespace Reader

@[simp] theorem ipv4_append (address : Ipv4) (rest : Octets) :
    ipv4 (address.toOctets ++ rest) = (.ok address, rest) :=
  ipv4_eq_ok.mpr rfl

@[simp] theorem ipv6_append (address : Ipv6) (rest : Octets) :
    ipv6 (address.toOctets ++ rest) = (.ok address, rest) :=
  ipv6_eq_ok.mpr rfl

end Reader

/-! ## Rates and priorities -/

namespace Ambr

theorem read_encode (ambr : Ambr) (rest : Octets) :
    read (ambr.encode ++ rest) = (.ok ambr, rest) := by
  have enough : 8 ≤ (ambr.encode ++ rest).length := by
    simp only [encode, Octets.ofU32, List.length_append, Octets.length_ofNat]
    omega
  rw [read, Reader.bind_ok (Reader.need_of_le enough), encode, List.append_assoc,
    Reader.bind_ok (Reader.u32_append ..), Reader.bind_ok (Reader.u32_append ..),
    Reader.pure_apply]

end Ambr

namespace BitRates

structure Fits (rates : BitRates) : Prop where
  maximumUp : rates.maximumUp < 0x10000000000
  maximumDown : rates.maximumDown < 0x10000000000
  guaranteedUp : rates.guaranteedUp < 0x10000000000
  guaranteedDown : rates.guaranteedDown < 0x10000000000

def cut (rates : BitRates) : BitRates :=
  { maximumUp := rates.maximumUp % 0x10000000000
    maximumDown := rates.maximumDown % 0x10000000000
    guaranteedUp := rates.guaranteedUp % 0x10000000000
    guaranteedDown := rates.guaranteedDown % 0x10000000000 }

theorem fits_cut (rates : BitRates) : rates.cut.Fits :=
  ⟨Nat.mod_lt _ (by decide), Nat.mod_lt _ (by decide), Nat.mod_lt _ (by decide),
    Nat.mod_lt _ (by decide)⟩

theorem encode_cut (rates : BitRates) : rates.cut.encode = rates.encode := by
  have low (n : UInt64) : Octets.ofU40 (n % 0x10000000000) = Octets.ofU40 n :=
    Octets.ofNat_mod 5 n.toNat
  simp only [encode, cut, low]

theorem read_eq_ok {rates : BitRates} :
    read octets = (.ok rates, rest) ↔ rates.Fits ∧ octets = rates.encode ++ rest := by
  simp only [read, encode, List.append_assoc, Reader.bind_eq_ok, Reader.u40_eq_ok,
    Reader.pure_eq_ok]
  constructor
  · rintro ⟨_, _, ⟨first, rfl⟩, _, _, ⟨second, rfl⟩, _, _, ⟨third, rfl⟩, _, _, ⟨fourth, rfl⟩, rfl,
      rfl⟩
    exact ⟨⟨first, second, third, fourth⟩, rfl⟩
  · rintro ⟨⟨first, second, third, fourth⟩, rfl⟩
    exact ⟨_, _, ⟨first, rfl⟩, _, _, ⟨second, rfl⟩, _, _, ⟨third, rfl⟩, _, _, ⟨fourth, rfl⟩, rfl,
      rfl⟩

theorem length_encode (rates : BitRates) : rates.encode.length = 20 := by
  simp [encode, Octets.ofU40]

end BitRates

/-! ## Octets of flags -/

theorem hasFlag_eq {weight octet : UInt8} {present : Bool}
    (bit : octet.toNat / weight.toNat % 2 = present.toNat) : hasFlag weight octet = present := by
  rw [Bool.eq_iff_iff, Header.hasFlag_iff, bit]
  cases present <;> decide

namespace Arp

theorem toNat_toOctet (arp : Arp) : arp.toOctet.toNat =
    64 * arp.canPreempt.toNat + arp.level.toNat % 16 * 4 + arp.canBePreempted.toNat := by
  unfold toOctet flag
  have bound : arp.level.toNat % 16 < 16 := Nat.mod_lt _ (by decide)
  cases arp.canPreempt <;> cases arp.canBePreempted <;> simp <;> omega

def cut (arp : Arp) : Arp := { arp with level := arp.level % 16 }

theorem ofOctet_toOctet (arp : Arp) : ofOctet arp.toOctet = arp.cut := by
  have first := Bool.toNat_lt arp.canPreempt
  have last := Bool.toNat_lt arp.canBePreempted
  have canPreempt : hasFlag 0x40 arp.toOctet = arp.canPreempt := by
    apply hasFlag_eq
    rw [toNat_toOctet]
    change _ / 64 % 2 = _
    omega
  have canBePreempted : hasFlag 1 arp.toOctet = arp.canBePreempted := by
    apply hasFlag_eq
    rw [toNat_toOctet]
    change _ / 1 % 2 = _
    omega
  have level : arp.toOctet / 4 % 16 = arp.level % 16 := by
    rw [← UInt8.toNat_inj, UInt8.toNat_mod, UInt8.toNat_div, UInt8.toNat_mod, toNat_toOctet]
    change _ / 4 % 16 = _ % 16
    omega
  rw [ofOctet, canPreempt, canBePreempted, level, cut]

end Arp

namespace BearerQos

theorem read_eq_ok {qos : BearerQos} : read octets = (.ok qos, rest) ↔
    qos.rates.Fits ∧ ∃ priority, Arp.ofOctet priority = qos.arp ∧
      octets = priority :: qos.qci :: (qos.rates.encode ++ rest) := by
  simp only [read, Reader.bind_eq_ok, Reader.need_eq_ok, Reader.u8_eq_ok, BitRates.read_eq_ok,
    Reader.pure_eq_ok]
  constructor
  · rintro ⟨_, _, ⟨_, rfl⟩, priority, _, rfl, qci, _, rfl, rates, _, ⟨fits, rfl⟩, rfl, rfl⟩
    exact ⟨fits, priority, rfl, rfl⟩
  · rintro ⟨fits, priority, same, rfl⟩
    have enough : 22 ≤ (priority :: qos.qci :: (qos.rates.encode ++ rest)).length := by
      simp only [List.length_cons, List.length_append, BitRates.length_encode]
      omega
    exact ⟨(), _, ⟨enough, rfl⟩, priority, _, rfl, qos.qci, _, rfl, qos.rates, _, ⟨fits, rfl⟩,
      by rw [same], rfl⟩

theorem read_encode {qos : BearerQos} (level : qos.arp.level < 16) (fits : qos.rates.Fits)
    (rest : Octets) : read (qos.encode ++ rest) = (.ok qos, rest) := by
  have whole : qos.arp.level % 16 = qos.arp.level := Octets.mod_of_lt level
  have same := Arp.ofOctet_toOctet qos.arp
  rw [Arp.cut, whole] at same
  exact read_eq_ok.mpr ⟨fits, _, same, rfl⟩

end BearerQos

/-! ## Addresses -/

namespace Fteid

def flags (fteid : Fteid) : UInt8 :=
  flag 0x80 fteid.ipv4.isSome + flag 0x40 fteid.ipv6.isSome + fteid.interface % 64

theorem toNat_flags (fteid : Fteid) : fteid.flags.toNat =
    128 * fteid.ipv4.isSome.toNat + 64 * fteid.ipv6.isSome.toNat + fteid.interface.toNat % 64 := by
  unfold flags flag
  have bound : fteid.interface.toNat % 64 < 64 := Nat.mod_lt _ (by decide)
  cases fteid.ipv4 <;> cases fteid.ipv6 <;> simp <;> omega

theorem flags_ipv4 (fteid : Fteid) : hasFlag 0x80 fteid.flags = fteid.ipv4.isSome := by
  apply hasFlag_eq
  have first := Bool.toNat_lt fteid.ipv4.isSome
  have second := Bool.toNat_lt fteid.ipv6.isSome
  rw [toNat_flags]
  change _ / 128 % 2 = _
  omega

theorem flags_ipv6 (fteid : Fteid) : hasFlag 0x40 fteid.flags = fteid.ipv6.isSome := by
  apply hasFlag_eq
  have second := Bool.toNat_lt fteid.ipv6.isSome
  rw [toNat_flags]
  change _ / 64 % 2 = _
  omega

theorem flags_interface (fteid : Fteid) : fteid.flags % 64 = fteid.interface % 64 := by
  rw [← UInt8.toNat_inj, UInt8.toNat_mod, UInt8.toNat_mod, toNat_flags]
  change _ % 64 = _ % 64
  omega

def cut (fteid : Fteid) : Fteid := { fteid with interface := fteid.interface % 64 }

theorem encode_append (fteid : Fteid) (rest : Octets) : fteid.encode ++ rest =
    fteid.flags :: (Octets.ofU32 fteid.teid ++
      (fteid.ipv4.elim [] Ipv4.toOctets ++ (fteid.ipv6.elim [] Ipv6.toOctets ++ rest))) := by
  simp [encode, flags]

theorem length_encode (fteid : Fteid) : fteid.encode.length = size fteid.flags := by
  rw [← List.append_nil fteid.encode, encode_append, size, flags_ipv4, flags_ipv6]
  cases fteid.ipv4 <;> cases fteid.ipv6 <;> simp [Octets.ofU32]

theorem flags_of_octet : ∀ octet : UInt8,
    flag 0x80 (hasFlag 0x80 octet) + flag 0x40 (hasFlag 0x40 octet) + octet % 64 % 64 = octet :=
  Octets.forall_octet (by decide +kernel)

theorem read_eq_ok {fteid : Fteid} : read octets = (.ok fteid, rest) ↔
    fteid.interface < 64 ∧ octets = fteid.encode ++ rest := by
  simp only [read, Reader.bind_eq_ok, Reader.need_eq_ok, Reader.peek_eq_ok, Reader.u8_eq_ok,
    Reader.u32_eq_ok, Reader.optional_eq_ok_of Reader.ipv4_eq_ok,
    Reader.optional_eq_ok_of Reader.ipv6_eq_ok, Reader.pure_eq_ok]
  constructor
  · rintro ⟨_, _, ⟨_, rfl⟩, _, _, ⟨_, rfl⟩, _, _, ⟨_, rfl⟩, octet, _, rfl, teid, _, rfl, ipv4, _,
      ⟨first, rfl⟩, ipv6, _, ⟨second, rfl⟩, rfl, rfl⟩
    refine ⟨Nat.mod_lt _ (by decide), ?_⟩
    rw [encode_append, flags, first, second, flags_of_octet]
  · rintro ⟨short, rfl⟩
    have whole : fteid.flags % 64 = fteid.interface :=
      fteid.flags_interface.trans (Octets.mod_of_lt short)
    have enough : size fteid.flags ≤ (fteid.encode ++ rest).length := by
      rw [List.length_append, length_encode]
      exact Nat.le_add_right ..
    have least : 5 ≤ size fteid.flags := by
      unfold size
      omega
    have written := fteid.encode_append rest
    exact ⟨(), _, ⟨Nat.le_trans least enough, rfl⟩, fteid.flags, _, ⟨by rw [written]; rfl, rfl⟩,
      (), _, ⟨enough, rfl⟩, fteid.flags, _, written, fteid.teid, _, rfl, fteid.ipv4, _,
      ⟨fteid.flags_ipv4.symm, rfl⟩, fteid.ipv6, rest, ⟨fteid.flags_ipv6.symm, rfl⟩,
      by rw [whole], rfl⟩

theorem read_encode (fteid : Fteid) (rest : Octets) :
    read (fteid.encode ++ rest) = (.ok fteid.cut, rest) := by
  refine read_eq_ok.mpr ⟨Nat.mod_lt _ (by decide), ?_⟩
  simp only [encode, cut, Octets.mod_mod]

theorem address?_eq (fteid : Fteid) :
    fteid.address? = (fteid.ipv4.map .v4).or (fteid.ipv6.map .v6) := by
  unfold address?
  cases fteid.ipv4 <;> rfl

end Fteid

/-! ## Locations -/

theorem Reader.optional_encodeOptional {encode : α → Except Error Octets} {read : Reader α}
    {shown : α → α}
    (back : ∀ {a octets}, encode a = .ok octets →
      ∀ rest, read (octets ++ rest) = (.ok (shown a), rest))
    {place : Option α} (encoded : Location.encodeOptional encode place = .ok octets)
    (rest : Octets) :
    optional place.isSome read (octets ++ rest) = (.ok (place.map shown), rest) := by
  cases place with
  | none =>
      cases encoded
      rfl
  | some a => exact optional_eq_ok.mpr ⟨rfl, back encoded rest⟩

namespace Place

theorem exists_encode_iff {place : Place} :
    (∃ octets, place.encode = .ok octets) ↔ place.plmn.Valid := by
  rw [← Plmn.exists_encode_iff]
  exact Except.exists_bind_ok_iff

theorem read_encode {place : Place} (encoded : place.encode = .ok octets) (rest : Octets) :
    read (octets ++ rest) = (.ok place, rest) := by
  obtain ⟨plmn, known, rfl⟩ := Except.bind_ok_eq_ok.mp encoded
  have enough :
      7 ≤ (plmn ++ (Octets.ofU16 place.lac ++ (Octets.ofU16 place.code ++ rest))).length := by
    simp only [List.length_append, Plmn.length_of_encode known, Octets.ofU16, Octets.length_ofNat]
    omega
  rw [List.append_assoc, List.append_assoc, read, Reader.bind_ok (Reader.need_of_le enough),
    Reader.bind_ok (Plmn.read_encode known _), Reader.bind_ok (Reader.u16_append ..),
    Reader.bind_ok (Reader.u16_append ..), Reader.pure_apply]

end Place

namespace Area

theorem exists_encode_iff {area : Area} :
    (∃ octets, area.encode = .ok octets) ↔ area.plmn.Valid := by
  rw [← Plmn.exists_encode_iff]
  exact Except.exists_bind_ok_iff

theorem read_encode {area : Area} (encoded : area.encode = .ok octets) (rest : Octets) :
    read (octets ++ rest) = (.ok area, rest) := by
  obtain ⟨plmn, known, rfl⟩ := Except.bind_ok_eq_ok.mp encoded
  have enough : 5 ≤ (plmn ++ (Octets.ofU16 area.code ++ rest)).length := by
    simp only [List.length_append, Plmn.length_of_encode known, Octets.ofU16, Octets.length_ofNat]
    omega
  rw [List.append_assoc, read, Reader.bind_ok (Reader.need_of_le enough),
    Reader.bind_ok (Plmn.read_encode known _), Reader.bind_ok (Reader.u16_append ..),
    Reader.pure_apply]

end Area

namespace EvolvedCell

def cut (cell : EvolvedCell) : EvolvedCell := { cell with eci := cell.eci % bound }

theorem exists_encode_iff {cell : EvolvedCell} :
    (∃ octets, cell.encode = .ok octets) ↔ cell.plmn.Valid := by
  rw [← Plmn.exists_encode_iff]
  exact Except.exists_bind_ok_iff

theorem read_encode {cell : EvolvedCell} (encoded : cell.encode = .ok octets) (rest : Octets) :
    read (octets ++ rest) = (.ok cell.cut, rest) := by
  obtain ⟨plmn, known, rfl⟩ := Except.bind_ok_eq_ok.mp encoded
  have enough : 7 ≤ (plmn ++ (Octets.ofU32 (cell.eci % bound) ++ rest)).length := by
    simp only [List.length_append, Plmn.length_of_encode known, Octets.ofU32, Octets.length_ofNat]
    omega
  have once : cell.eci % bound % bound = cell.eci % bound := by
    rw [← UInt32.toNat_inj, UInt32.toNat_mod, UInt32.toNat_mod, Nat.mod_mod]
  rw [List.append_assoc, read, Reader.bind_ok (Reader.need_of_le enough),
    Reader.bind_ok (Plmn.read_encode known _), Reader.bind_ok (Reader.u32_append ..), once,
    Reader.pure_apply]
  rfl

end EvolvedCell

theorem LocationFlags.ofOctet_toOctet (flags : LocationFlags) :
    ofOctet flags.toOctet = flags := by
  obtain ⟨cell, serviceArea, routingArea, trackingArea, evolvedCell, locationArea⟩ := flags
  revert cell serviceArea routingArea trackingArea evolvedCell locationArea
  decide

namespace Location

def cut (location : Location) : Location :=
  { location with evolvedCell := location.evolvedCell.map EvolvedCell.cut }

def plmns (location : Location) : List Plmn :=
  (location.cell.map Place.plmn).toList ++ (location.serviceArea.map Place.plmn).toList ++
    (location.routingArea.map Place.plmn).toList ++ (location.trackingArea.map Area.plmn).toList ++
    (location.evolvedCell.map EvolvedCell.plmn).toList ++
    (location.locationArea.map Area.plmn).toList

theorem encode_eq_ok {location : Location} : location.encode = .ok octets ↔
    ∃ cell, encodeOptional Place.encode location.cell = .ok cell ∧
    ∃ serviceArea, encodeOptional Place.encode location.serviceArea = .ok serviceArea ∧
    ∃ routingArea, encodeOptional Place.encode location.routingArea = .ok routingArea ∧
    ∃ trackingArea, encodeOptional Area.encode location.trackingArea = .ok trackingArea ∧
    ∃ evolvedCell, encodeOptional EvolvedCell.encode location.evolvedCell = .ok evolvedCell ∧
    ∃ locationArea, encodeOptional Area.encode location.locationArea = .ok locationArea ∧
      octets = location.flags.toOctet ::
        cell ++ serviceArea ++ routingArea ++ trackingArea ++ evolvedCell ++ locationArea := by
  show Except.bind _ (fun _ => Except.bind _ fun _ => Except.bind _ fun _ => Except.bind _ fun _ =>
    Except.bind _ fun _ => Except.bind _ fun _ => .ok _) = _ ↔ _
  simp only [Except.bind_eq_ok, Except.ok.injEq, @eq_comm _ octets]

theorem exists_encodeOptional_iff {encode : α → Except Error Octets} (plmn : α → Plmn)
    (each : ∀ a, (∃ octets, encode a = .ok octets) ↔ (plmn a).Valid) (place : Option α) :
    (∃ octets, encodeOptional encode place = .ok octets) ↔
      ∀ known ∈ (place.map plmn).toList, known.Valid := by
  cases place with
  | none => simp [encodeOptional]
  | some a => simp [encodeOptional, each]

theorem exists_encode_iff {location : Location} :
    (∃ octets, location.encode = .ok octets) ↔ ∀ plmn ∈ location.plmns, plmn.Valid := by
  have place := exists_encodeOptional_iff Place.plmn fun _ => Place.exists_encode_iff
  have area := exists_encodeOptional_iff Area.plmn fun _ => Area.exists_encode_iff
  have cell := exists_encodeOptional_iff EvolvedCell.plmn fun _ => EvolvedCell.exists_encode_iff
  simp only [plmns, List.forall_mem_append, ← place, ← area, ← cell]
  constructor
  · rintro ⟨octets, encoded⟩
    obtain ⟨_, first, _, second, _, third, _, fourth, _, fifth, _, sixth, _⟩ :=
      encode_eq_ok.mp encoded
    exact ⟨⟨⟨⟨⟨⟨_, first⟩, _, second⟩, _, third⟩, _, fourth⟩, _, fifth⟩, _, sixth⟩
  · rintro ⟨⟨⟨⟨⟨⟨_, first⟩, _, second⟩, _, third⟩, _, fourth⟩, _, fifth⟩, _, sixth⟩
    exact ⟨_, encode_eq_ok.mpr
      ⟨_, first, _, second, _, third, _, fourth, _, fifth, _, sixth, rfl⟩⟩

theorem read_encode {location : Location} (encoded : location.encode = .ok octets)
    (rest : Octets) : read (octets ++ rest) = (.ok location.cut, rest) := by
  obtain ⟨cell, first, serviceArea, second, routingArea, third, trackingArea, fourth, evolvedCell,
    fifth, locationArea, sixth, rfl⟩ := encode_eq_ok.mp encoded
  -- places keep what they are, the cell of the evolved network what travels of it
  have place {octets : Octets} {place : Option Place}
      (written : encodeOptional Place.encode place = .ok octets) (rest : Octets) :
      Reader.optional place.isSome Place.read (octets ++ rest) = (.ok place, rest) := by
    have found := Reader.optional_encodeOptional Place.read_encode written rest
    rwa [Option.map_id'] at found
  have area {octets : Octets} {area : Option Area}
      (written : encodeOptional Area.encode area = .ok octets) (rest : Octets) :
      Reader.optional area.isSome Area.read (octets ++ rest) = (.ok area, rest) := by
    have found := Reader.optional_encodeOptional Area.read_encode written rest
    rwa [Option.map_id'] at found
  simp only [List.cons_append, List.append_assoc]
  rw [read, Reader.bind_ok (Reader.need_of_le (by simp)), Reader.bind_ok (Reader.u8_cons ..)]
  simp only [LocationFlags.ofOctet_toOctet, flags]
  rw [Reader.bind_ok (place first _), Reader.bind_ok (place second _),
    Reader.bind_ok (place third _), Reader.bind_ok (area fourth _),
    Reader.bind_ok (Reader.optional_encodeOptional EvolvedCell.read_encode fifth _),
    Reader.bind_ok (area sixth _)]
  rfl

end Location

end TunnelControl
