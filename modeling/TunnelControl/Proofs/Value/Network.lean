import TunnelControl.Proofs.Element.Carriage

namespace TunnelControl

variable {octets rest : Octets}

namespace Place

theorem reflects_of_read {place : Place} (found : read octets = (.ok place, rest)) :
    place.plmn.Reflects (octets.take 3) ∧ rest = octets.drop 7 := by
  simp only [read, Reader.bind_eq_ok, Reader.need_eq_ok, Reader.u16_eq_ok, Reader.pure_eq_ok]
    at found
  obtain ⟨_, _, ⟨_, rfl⟩, plmn, _, network, lac, _, rfl, code, _, rfl, rfl, rfl⟩ := found
  obtain ⟨reflects, behind⟩ := Plmn.reflects_of_read network
  exact ⟨reflects, (congrArg (List.drop 4) behind).trans List.drop_drop⟩

end Place

namespace Area

theorem reflects_of_read {area : Area} (found : read octets = (.ok area, rest)) :
    area.plmn.Reflects (octets.take 3) ∧ rest = octets.drop 5 := by
  simp only [read, Reader.bind_eq_ok, Reader.need_eq_ok, Reader.u16_eq_ok, Reader.pure_eq_ok]
    at found
  obtain ⟨_, _, ⟨_, rfl⟩, plmn, _, network, code, _, rfl, rfl, rfl⟩ := found
  obtain ⟨reflects, behind⟩ := Plmn.reflects_of_read network
  exact ⟨reflects, (congrArg (List.drop 2) behind).trans List.drop_drop⟩

end Area

namespace EvolvedCell

theorem reflects_of_read {cell : EvolvedCell} (found : read octets = (.ok cell, rest)) :
    cell.plmn.Reflects (octets.take 3) ∧ rest = octets.drop 7 := by
  simp only [read, Reader.bind_eq_ok, Reader.need_eq_ok, Reader.u32_eq_ok, Reader.pure_eq_ok]
    at found
  obtain ⟨_, _, ⟨_, rfl⟩, plmn, _, network, eci, _, rfl, rfl, rfl⟩ := found
  obtain ⟨reflects, behind⟩ := Plmn.reflects_of_read network
  exact ⟨reflects, (congrArg (List.drop 4) behind).trans List.drop_drop⟩

end EvolvedCell

theorem TraceReference.reflects_of_read {trace : TraceReference}
    (found : read octets = (.ok trace, rest)) : trace.plmn.Reflects (octets.take 3) := by
  simp only [read, Reader.bind_eq_ok, Reader.need_eq_ok, Reader.pure_eq_ok] at found
  obtain ⟨_, _, ⟨_, rfl⟩, plmn, _, network, id, _, _, rfl, rfl⟩ := found
  exact (Plmn.reflects_of_read network).1

namespace Location

def networksOf (flags : UInt8) : (places : List (UInt8 × Nat)) → Octets → List Octets
  | [], _ => []
  | (bit, size) :: places, octets =>
      if hasFlag bit flags then octets.take 3 :: networksOf flags places (octets.drop size)
      else networksOf flags places octets

def networks : Octets → List Octets
  | [] => []
  | flags :: octets =>
      networksOf flags [(1, 7), (2, 7), (4, 7), (8, 5), (0x10, 7), (0x20, 5)] octets

theorem reflects_place {α : Type} {plmn : α → Plmn} {read : Reader α} {flags bit : UInt8}
    {size : Nat} {places : List (UInt8 × Nat)} {part : Option α} {plmns : List Plmn}
    (each : ∀ {octets a rest}, read octets = (.ok a, rest) →
      (plmn a).Reflects (octets.take 3) ∧ rest = octets.drop size)
    (found : Reader.optional (hasFlag bit flags) read octets = (.ok part, rest))
    (others : List.Forall₂ Plmn.Reflects plmns (networksOf flags places rest)) :
    List.Forall₂ Plmn.Reflects ((part.map plmn).toList ++ plmns)
      (networksOf flags ((bit, size) :: places) octets) := by
  obtain ⟨present, found⟩ := Reader.optional_eq_ok.mp found
  rw [networksOf, ← present]
  cases part with
  | none =>
      rw [show octets = rest from found]
      exact others
  | some a =>
      obtain ⟨reflects, rfl⟩ := each found
      exact .cons reflects others

theorem reflects_of_read {location : Location} (found : read octets = (.ok location, rest)) :
    List.Forall₂ Plmn.Reflects location.plmns (networks octets) := by
  simp only [read, Reader.bind_eq_ok, Reader.need_eq_ok, Reader.u8_eq_ok, Reader.pure_eq_ok]
    at found
  obtain ⟨_, _, ⟨_, rfl⟩, flags, _, rfl, cell, _, first, serviceArea, _, second, routingArea, _,
    third, trackingArea, _, fourth, evolvedCell, _, fifth, locationArea, _, sixth, rfl, rfl⟩ :=
      found
  simp only [plmns, List.append_assoc]
  have last : List.Forall₂ Plmn.Reflects (_ ++ []) (networksOf flags [(0x20, 5)] _) :=
    reflects_place Area.reflects_of_read sixth .nil
  rw [List.append_nil] at last
  exact reflects_place Place.reflects_of_read first <|
    reflects_place Place.reflects_of_read second <|
    reflects_place Place.reflects_of_read third <|
    reflects_place Area.reflects_of_read fourth <|
    reflects_place EvolvedCell.reflects_of_read fifth last

end Location

/-- An identity that was read is one, and is written as the octets that it was read from, exactly if
their nibbles are digits but perhaps for the one of a third network digit, which may be the filler.
So it is for all networks that elements give. -/
theorem Plmn.reflects_everywhere (octets : Octets) (element : Element) :
    (∀ plmn, Plmn.read.value octets = .ok plmn → plmn.Reflects (octets.take 3)) ∧
    (∀ plmn, element.get .servingNetwork = .ok plmn → plmn.Reflects (element.value.take 3)) ∧
    (∀ plmn, element.get .plmnId = .ok plmn → plmn.Reflects (element.value.take 3)) ∧
    (∀ trace, element.get .traceReference = .ok trace →
      trace.plmn.Reflects (element.value.take 3)) ∧
    ∀ location, element.get .location = .ok location →
      List.Forall₂ Plmn.Reflects location.plmns (Location.networks element.value) := by
  have alone {octets : Octets} {plmn : Plmn} (found : Plmn.read.value octets = .ok plmn) :
      plmn.Reflects (octets.take 3) := by
    obtain ⟨rest, found⟩ := Reader.value_eq_ok.mp found
    exact (reflects_of_read found).1
  refine ⟨fun plmn found => alone found, fun plmn given => ?_, fun plmn given => ?_,
    fun trace given => ?_, fun location given => ?_⟩
  · exact alone (Element.decode_of_get rfl given)
  · exact alone (Element.decode_of_get rfl given)
  · obtain ⟨rest, found⟩ := Reader.value_eq_ok.mp (Element.decode_of_get rfl given)
    exact TraceReference.reflects_of_read found
  · obtain ⟨rest, found⟩ := Reader.value_eq_ok.mp (Element.decode_of_get rfl given)
    exact Location.reflects_of_read found

theorem Plmn.reflects_everywhere_cell :
    let element := Element.ofValue .uli 0
      [0x18, 0x21, 0xF3, 0x54, 0, 1, 0x1A, 0xF2, 0x43, 0, 0, 0, 1]
    element.get .location = .ok {
        trackingArea := some ⟨⟨"123", "45"⟩, 1⟩
        evolvedCell := some ⟨⟨":12", "34"⟩, 1⟩ } ∧
      (⟨"123", "45"⟩ : Plmn).Reflects [0x21, 0xF3, 0x54] ∧
      (⟨":12", "34"⟩ : Plmn).Reflects [0x1A, 0xF2, 0x43] := by
  intro element
  have given : element.get .location = .ok {
      trackingArea := some ⟨⟨"123", "45"⟩, 1⟩
      evolvedCell := some ⟨⟨":12", "34"⟩, 1⟩ } := by
    decide +kernel
  obtain ⟨_, _, _, _, located⟩ := reflects_everywhere [] element
  have reflects := located _ given
  rw [show Location.networks element.value = [[0x21, 0xF3, 0x54], [0x1A, 0xF2, 0x43]] by
    decide +kernel] at reflects
  obtain ⟨area, reflects⟩ := List.forall₂_cons.mp reflects
  exact ⟨given, area, (List.forall₂_cons.mp reflects).1⟩

/-- A nibble of ten is read as the character after `9`, which is no digit. -/
theorem Plmn.not_valid_of_nibble_ten :
    Plmn.read.value [0x1A, 0xF2, 0x43] = .ok ⟨":12", "34"⟩ ∧
      ¬ ((⟨":12", "34"⟩ : Plmn).Valid ∧
        (⟨":12", "34"⟩ : Plmn).encode = .ok [0x1A, 0xF2, 0x43]) := by
  refine ⟨by decide +kernel, fun ⟨valid, _⟩ => ?_⟩
  exact absurd (valid.mcc_digits ':' (by decide)) (by decide)

end TunnelControl
