import TunnelControl.Proofs.Element.Carriage

namespace TunnelControl

variable {octets rest : Octets}

namespace Container

variable {container : Container} {containers : List Container}

inductive Spells : Octets → List Container → Prop where
  | nil : Spells [] []
  | cons {id : UInt16} {size : UInt8} {contents rest : Octets} {containers : List Container}
      (fits : contents.length = size.toNat) (after : Spells rest containers) :
      Spells (Octets.ofU16 id ++ size :: (contents ++ rest)) (⟨id, contents⟩ :: containers)

theorem encode_eq_ok : container.encode = .ok octets ↔
    ∃ size : UInt8, container.contents.length = size.toNat ∧
      octets = Octets.ofU16 container.id ++ size :: container.contents := by
  simp only [encode]
  constructor
  · intro encoded
    split at encoded
    · cases encoded
    · next short =>
        cases encoded
        exact ⟨_, (Nat.mod_eq_of_lt (by omega)).symm, rfl⟩
  · rintro ⟨size, fits, rfl⟩
    have short : ¬ 255 < container.contents.length := by
      have bound := size.toNat_lt
      omega
    rw [if_neg short, fits, UInt8.ofNat_toNat]

theorem read_eq_ok : read octets = (.ok container, rest) ↔
    ∃ size : UInt8, container.contents.length = size.toNat ∧
      octets = Octets.ofU16 container.id ++ size :: (container.contents ++ rest) := by
  simp only [read, Reader.bind_eq_ok, Reader.need_eq_ok, Reader.u8_eq_ok, Reader.u16_eq_ok,
    Reader.take_eq_ok, Reader.pure_eq_ok]
  constructor
  · rintro ⟨_, _, ⟨_, rfl⟩, id, _, rfl, size, _, rfl, _, _, ⟨_, rfl⟩, contents, _, ⟨fits, rfl⟩,
      rfl, rfl⟩
    exact ⟨size, fits, rfl⟩
  · rintro ⟨size, fits, rfl⟩
    have header :
        3 ≤ (Octets.ofU16 container.id ++ size :: (container.contents ++ rest)).length := by
      simp [Octets.ofU16]
      omega
    have enough : size.toNat ≤ (container.contents ++ rest).length := by
      rw [List.length_append, fits]
      exact Nat.le_add_right ..
    exact ⟨(), _, ⟨header, rfl⟩, _, _, rfl, size, _, rfl, (), _, ⟨enough, rfl⟩, _, _, ⟨fits, rfl⟩,
      rfl, rfl⟩

theorem all_read_iff_spells :
    Reader.all read octets = (containers, none) ↔ Spells octets containers := by
  induction containers generalizing octets with
  | nil =>
      rw [Reader.all_eq_nil read_advances]
      constructor
      · rintro rfl
        exact .nil
      · rintro ⟨⟩
        rfl
  | cons container containers ih =>
      simp only [Reader.all_eq_cons read_advances, read_eq_ok, ih]
      constructor
      · rintro ⟨rest, ⟨size, fits, rfl⟩, after⟩
        exact .cons fits after
      · rintro (_ | ⟨fits, after⟩)
        exact ⟨_, ⟨_, fits, rfl⟩, after⟩

theorem mapM_encode_iff_spells :
    (∃ parts, containers.mapM encode = .ok parts ∧ octets = parts.flatten) ↔
      Spells octets containers := by
  induction containers generalizing octets with
  | nil =>
      constructor
      · rintro ⟨_, ⟨⟩, rfl⟩
        exact .nil
      · rintro ⟨⟩
        exact ⟨[], rfl, rfl⟩
  | cons container containers ih =>
      simp only [Except.mapM_cons, Except.bind_eq_ok, encode_eq_ok]
      constructor
      · rintro ⟨_, ⟨_, ⟨size, fits, rfl⟩, others, written, ⟨⟩⟩, rfl⟩
        have after := ih.mp ⟨others, written, rfl⟩
        simpa using Spells.cons fits after
      · rintro (_ | ⟨fits, after⟩)
        obtain ⟨others, written, rfl⟩ := ih.mpr after
        exact ⟨_, ⟨_, ⟨_, fits, rfl⟩, others, written, rfl⟩, by simp⟩

theorem exists_spells_iff :
    (∃ octets, Spells octets containers) ↔
      ∀ container ∈ containers, container.contents.length ≤ 255 := by
  induction containers with
  | nil => simpa using ⟨[], .nil⟩
  | cons container containers ih =>
      rw [List.forall_mem_cons, ← ih]
      constructor
      · rintro ⟨_, _ | ⟨fits, after⟩⟩
        exact ⟨fits ▸ Nat.le_of_lt_succ (UInt8.toNat_lt _), _, after⟩
      · rintro ⟨short, rest, after⟩
        have fits : container.contents.length = (UInt8.ofNat container.contents.length).toNat :=
          (Nat.mod_eq_of_lt (Nat.lt_succ_of_le short)).symm
        exact ⟨_, .cons fits after⟩

end Container

namespace Pco

variable {pco : Pco}

def cut (pco : Pco) : Pco := { pco with protocol := pco.protocol % 8 }

theorem encode_eq_ok : pco.encode = .ok octets ↔
    ∃ rest, octets = (0x80 + pco.protocol % 8) :: rest ∧ Container.Spells rest pco.containers := by
  simp only [← Container.mapM_encode_iff_spells]
  constructor
  · intro encoded
    obtain ⟨parts, written, rfl⟩ := Except.bind_ok_eq_ok.mp encoded
    exact ⟨_, rfl, parts, written, rfl⟩
  · rintro ⟨_, rfl, parts, written, rfl⟩
    exact Except.bind_ok_eq_ok.mpr ⟨parts, written, rfl⟩

theorem decode_eq_ok : decode octets = .ok pco ↔
    ∃ first rest, octets = first :: rest ∧ first % 8 = pco.protocol ∧
      Container.Spells rest pco.containers := by
  cases octets with
  | nil => simp [decode, Reader.bind_apply, Reader.need]
  | cons first rest =>
      have read : (do Reader.need 1; Reader.u8 : Reader UInt8) (first :: rest) =
          (.ok first, rest) :=
        (Reader.bind_ok (Reader.need_of_le (by simp)) _).trans (Reader.u8_cons ..)
      simp only [decode, read, ← Container.all_read_iff_spells, List.cons.injEq]
      cases all_eq : Reader.all Container.read rest with
      | mk containers stop =>
          cases stop with
          | none =>
              constructor
              · rintro ⟨⟩
                exact ⟨first, rest, ⟨rfl, rfl⟩, rfl, all_eq⟩
              · rintro ⟨_, _, ⟨rfl, rfl⟩, kind, found⟩
                cases all_eq.symm.trans found
                rw [kind]
          | some error =>
              constructor
              · rintro ⟨⟩
              · rintro ⟨_, _, ⟨rfl, rfl⟩, _, found⟩
                cases all_eq.symm.trans found

theorem of_eq_ok {element : Element} : Element.of .pco pco = .ok element ↔
    ∃ rest, Container.Spells rest pco.containers ∧
      element = .ofValue .pco 0 ((0x80 + pco.protocol % 8) :: rest) := by
  rw [Element.of_eq_ok]
  constructor
  · rintro ⟨_, encoded, rfl⟩
    obtain ⟨rest, rfl, spells⟩ := encode_eq_ok.mp encoded
    exact ⟨rest, spells, rfl⟩
  · rintro ⟨rest, spells, rfl⟩
    exact ⟨_, encode_eq_ok.mpr ⟨rest, rfl, spells⟩, rfl⟩

theorem get_eq_ok {inst : UInt8} :
    (Element.ofValue .pco inst octets).get .pco = .ok pco ↔
      ∃ first rest, octets = first :: rest ∧ first % 8 = pco.protocol ∧
        Container.Spells rest pco.containers := by
  rw [← decode_eq_ok]
  exact Eq.congr_left Element.get_ofValue

/-- There is an element of options if the contents of each container fit, and it gives the options
back up to the spare bits of the protocol. An element gives options if containers stand behind the
octet of the protocol, and the element of these options has the same value up to the spare bits of
that octet. -/
theorem written_and_read :
    (∀ pco : Pco,
      ((∃ element, Element.of .pco pco = .ok element) ↔
        ∀ container ∈ pco.containers, container.contents.length ≤ 255) ∧
      ∀ element, Element.of .pco pco = .ok element → element.get .pco = .ok pco.cut) ∧
    ∀ inst octets,
      ((∃ pco, (Element.ofValue .pco inst octets).get .pco = .ok pco) ↔
        ∃ first rest containers, octets = first :: rest ∧ Container.Spells rest containers) ∧
      ∀ pco, (Element.ofValue .pco inst octets).get .pco = .ok pco →
        ∃ element, Element.of .pco pco = .ok element ∧
          element.value = octets.modify 0 fun first => 0x80 ||| (first &&& 7) := by
  simp only [of_eq_ok, get_eq_ok]
  refine ⟨fun pco => ⟨?_, ?_⟩, fun inst octets => ⟨?_, ?_⟩⟩
  · rw [← Container.exists_spells_iff]
    exact ⟨fun ⟨_, rest, spells, _⟩ => ⟨rest, spells⟩,
      fun ⟨rest, spells⟩ => ⟨_, rest, spells, rfl⟩⟩
  · have once : ∀ octet : UInt8, (0x80 + octet % 8) % 8 = octet % 8 :=
      Octets.forall_octet (by decide +kernel)
    rintro _ ⟨rest, spells, rfl⟩
    exact get_eq_ok.mpr ⟨_, rest, rfl, once pco.protocol, spells⟩
  · exact ⟨fun ⟨pco, first, rest, octets_eq, _, spells⟩ =>
        ⟨first, rest, pco.containers, octets_eq, spells⟩,
      fun ⟨first, rest, containers, octets_eq, spells⟩ =>
        ⟨⟨first % 8, containers⟩, first, rest, octets_eq, rfl, spells⟩⟩
  · have spare : ∀ octet : UInt8, 0x80 + octet % 8 % 8 = 0x80 ||| (octet &&& 7) :=
      Octets.forall_octet (by decide +kernel)
    rintro pco ⟨first, rest, rfl, kind, spells⟩
    refine ⟨_, ⟨rest, spells, rfl⟩, ?_⟩
    rw [← kind, spare]
    rfl

theorem written_and_read_empty :
    let pco : Pco := { protocol := 3, containers := [⟨0x0010, []⟩, ⟨0xFF00, [7]⟩] }
    (Element.ofValue .pco 0 [0x7B, 0, 0x10, 0, 0xFF, 0, 1, 7]).get .pco = .ok pco ∧
      ∃ element, Element.of .pco pco = .ok element ∧
        element.value = [0x83, 0, 0x10, 0, 0xFF, 0, 1, 7] ∧ element.get .pco = .ok pco := by
  intro pco
  have found : (Element.ofValue .pco 0 [0x7B, 0, 0x10, 0, 0xFF, 0, 1, 7]).get .pco = .ok pco := by
    decide +kernel
  obtain ⟨written, read⟩ := written_and_read
  obtain ⟨element, built, value⟩ := (read 0 _).2 pco found
  exact ⟨found, element, built, value, (written pco).2 element built⟩

end Pco

end TunnelControl
