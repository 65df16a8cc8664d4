import TunnelControl.Proofs.Element.Carriage

namespace TunnelControl

variable {α : Type} {octets rest : Octets}

namespace Attribute

/-- Whether the element of a value gives as much of it back as `cut` leaves, and a value that was
found in some octets is written as what `kept` leaves of them. -/
structure Inverts (attr : Attribute α) (cut : α → α) (kept : Octets → Octets) : Prop where
  gives : ∀ a, ∃ element, Element.of attr a = .ok element ∧ element.get attr = .ok (cut a)
  restores : ∀ inst octets a, (Element.ofValue attr.type inst octets).get attr = .ok a →
    ∃ element, Element.of attr a = .ok element ∧ element.value = kept octets

variable {attr : Attribute α} {encode : α → Octets} {read : Reader α} {cut : α → α}
  {kept : Octets → Octets}

theorem inverts_of_read (writes : attr.encode = fun a => .ok (encode a))
    (reads : attr.decode = read.value) (back : ∀ a, read (encode a) = (.ok (cut a), []))
    (again : ∀ {octets a rest}, read octets = (.ok a, rest) → encode a = kept octets) :
    attr.Inverts cut kept := by
  have built (a : α) : Element.of attr a = .ok (.ofValue attr.type 0 (encode a)) :=
    Element.of_eq_ok.mpr ⟨encode a, congrFun writes a, rfl⟩
  refine ⟨fun a => ⟨_, built a, ?_⟩, fun inst octets a found => ⟨_, built a, ?_⟩⟩
  · rw [Element.get_ofValue, reads]
    exact Reader.value_eq_ok.mpr ⟨[], back a⟩
  · rw [Element.get_ofValue, reads] at found
    obtain ⟨rest, found⟩ := Reader.value_eq_ok.mp found
    exact again found

end Attribute

/-! ## Locations -/

namespace Location

/-- There is an element of a location if all its networks have an encoding. It gives the location
back up to the identity of its cell, and so does one with further octets. -/
theorem read_back (location : Location) :
    ((∃ element, Element.of .location location = .ok element) ↔
      ∀ plmn ∈ location.plmns, plmn.Valid) ∧
    ∀ element, Element.of .location location = .ok element →
      element.get .location = .ok location.cut ∧
      ∀ inst more, (Element.ofValue .uli inst (element.value ++ more)).get .location =
        .ok location.cut := by
  constructor
  · rw [← exists_encode_iff]
    exact Except.exists_bind_ok_iff
  · intro element built
    obtain ⟨octets, encoded, rfl⟩ := Element.of_eq_ok.mp built
    have gives (inst : UInt8) (more : Octets) :
        (Element.ofValue .uli inst (octets ++ more)).get .location = .ok location.cut := by
      have found := Reader.value_eq_ok.mpr ⟨more, read_encode encoded more⟩
      exact Element.get_ofValue.trans found
    have alone := gives 0 []
    rw [List.append_nil] at alone
    exact ⟨alone, gives⟩

theorem read_back_cell :
    let location : Location := { evolvedCell := some ⟨⟨"001", "010"⟩, 0xF0000001⟩ }
    ∃ element, Element.of .location location = .ok element ∧
      (Element.ofValue .uli 0 (element.value ++ [7])).get .location =
        .ok { evolvedCell := some ⟨⟨"001", "010"⟩, 1⟩ } := by
  intro location
  obtain ⟨built, gives⟩ := read_back location
  have valid : ∀ plmn ∈ location.plmns, plmn.Valid := by
    rintro plmn (_ | ⟨_, ⟨⟩⟩)
    exact ⟨by simp, by simp, rfl, .inr rfl⟩
  obtain ⟨element, element_eq⟩ := built.mpr valid
  exact ⟨element, element_eq, (gives element element_eq).2 0 [7]⟩

end Location

/-! ## Tunnel endpoints -/

theorem Fteid.encode_of_read {fteid : Fteid} (found : read octets = (.ok fteid, rest)) :
    fteid.encode = octets.take (size (octets.headD 0)) := by
  obtain ⟨_, rfl⟩ := read_eq_ok.mp found
  have first : (fteid.encode ++ rest).headD 0 = fteid.flags := by
    rw [encode_append]
    rfl
  rw [first, ← length_encode, List.take_left]

/-! ## Qualities of service -/

namespace FlowQos

def cut (qos : FlowQos) : FlowQos := { qos with rates := qos.rates.cut }

theorem read_eq_ok {qos : FlowQos} : read octets = (.ok qos, rest) ↔
    qos.rates.Fits ∧ octets = qos.encode ++ rest := by
  simp only [read, Reader.bind_eq_ok, Reader.need_eq_ok, Reader.u8_eq_ok, BitRates.read_eq_ok,
    Reader.pure_eq_ok]
  constructor
  · rintro ⟨_, _, ⟨_, rfl⟩, qci, _, rfl, rates, _, ⟨fits, rfl⟩, rfl, rfl⟩
    exact ⟨fits, rfl⟩
  · rintro ⟨fits, rfl⟩
    have enough : 21 ≤ (qos.encode ++ rest).length := by
      simp only [encode, List.cons_append, List.length_cons, List.length_append,
        BitRates.length_encode]
      omega
    exact ⟨(), _, ⟨enough, rfl⟩, qos.qci, _, rfl, qos.rates, _, ⟨fits, rfl⟩, rfl, rfl⟩

theorem read_encode (qos : FlowQos) : read qos.encode = (.ok qos.cut, []) := by
  refine read_eq_ok.mpr ⟨qos.rates.fits_cut, ?_⟩
  rw [List.append_nil, encode, encode, cut, BitRates.encode_cut]

theorem encode_of_read {qos : FlowQos} (found : read octets = (.ok qos, rest)) :
    qos.encode = octets.take 21 := by
  obtain ⟨_, rfl⟩ := read_eq_ok.mp found
  have length : qos.encode.length = 21 := congrArg (· + 1) qos.rates.length_encode
  rw [← length, List.take_left]

end FlowQos

namespace BearerQos

def cut (qos : BearerQos) : BearerQos :=
  { qos with arp := qos.arp.cut, rates := qos.rates.cut }

theorem read_encode_cut (qos : BearerQos) : read qos.encode = (.ok qos.cut, []) := by
  refine read_eq_ok.mpr ⟨qos.rates.fits_cut, _, qos.arp.ofOctet_toOctet, ?_⟩
  rw [List.append_nil, encode, cut, BitRates.encode_cut]

theorem encode_of_read {qos : BearerQos} (found : read octets = (.ok qos, rest)) :
    qos.encode = (octets.take 22).modify 0 (· &&& 0x7D) := by
  obtain ⟨_, priority, arp, rfl⟩ := read_eq_ok.mp found
  have spare : ∀ octet, (Arp.ofOctet octet).toOctet = octet &&& 0x7D :=
    Octets.forall_octet (by decide +kernel)
  have length := qos.rates.length_encode
  rw [encode, ← arp, spare, List.take_succ_cons, List.take_succ_cons, ← length, List.take_left]
  rfl

end BearerQos

/-! ## Verdicts -/

namespace Offending

def cut (offending : Offending) : Offending := { offending with inst := offending.inst % 16 }

theorem read_eq_ok {offending : Offending} : read octets = (.ok offending, rest) ↔
    ∃ fourth, fourth % 16 = offending.inst ∧
      octets = offending.type :: (Octets.ofU16 offending.length ++ fourth :: rest) := by
  simp only [read, Reader.bind_eq_ok, Reader.u8_eq_ok, Reader.u16_eq_ok, Reader.pure_eq_ok]
  constructor
  · rintro ⟨type, _, rfl, length, _, rfl, fourth, _, rfl, rfl, rfl⟩
    exact ⟨fourth, rfl, rfl⟩
  · rintro ⟨fourth, inst, rfl⟩
    exact ⟨_, _, rfl, _, _, rfl, fourth, _, rfl, by rw [inst], rfl⟩

theorem encode_eq (offending : Offending) : offending.encode =
    offending.type :: (Octets.ofU16 offending.length ++ [offending.inst % 16]) := rfl

@[simp] theorem length_encode (offending : Offending) : offending.encode.length = 4 := by
  simp [encode, Octets.ofU16]

end Offending

namespace Verdict

def cut (verdict : Verdict) : Verdict :=
  { verdict with offending := verdict.offending.map Offending.cut }

def flags (verdict : Verdict) : UInt8 :=
  flag 4 verdict.pce + flag 2 verdict.bce + flag 1 verdict.cs

theorem hasFlag_flags (verdict : Verdict) : hasFlag 4 verdict.flags = verdict.pce ∧
    hasFlag 2 verdict.flags = verdict.bce ∧ hasFlag 1 verdict.flags = verdict.cs := by
  unfold flags
  generalize verdict.pce = pce, verdict.bce = bce, verdict.cs = cs
  revert pce bce cs
  decide

theorem flags_of_octet : ∀ octet : UInt8,
    flag 4 (hasFlag 4 octet) + flag 2 (hasFlag 2 octet) + flag 1 (hasFlag 1 octet) = octet &&& 7 :=
  Octets.forall_octet (by decide +kernel)

theorem read_eq_ok {verdict : Verdict} : read octets = (.ok verdict, rest) ↔
    ∃ second more, octets = verdict.cause :: second :: more ∧
      (hasFlag 4 second = verdict.pce ∧ hasFlag 2 second = verdict.bce ∧
        hasFlag 1 second = verdict.cs) ∧
      verdict.offending.isSome = decide (4 ≤ more.length) ∧
      verdict.offending.elim (more = rest) fun offending =>
        Offending.read more = (.ok offending, rest) := by
  simp only [read, Reader.bind_eq_ok, Reader.need_eq_ok, Reader.u8_eq_ok, Reader.left_eq_ok,
    Reader.optional_eq_ok, Reader.pure_eq_ok]
  constructor
  · rintro ⟨_, _, ⟨_, rfl⟩, cause, _, rfl, second, more, rfl, _, _, ⟨rfl, rfl⟩, offending, _,
      ⟨present, found⟩, rfl, rfl⟩
    exact ⟨second, more, rfl, ⟨rfl, rfl, rfl⟩, present, found⟩
  · rintro ⟨second, more, rfl, ⟨pce, bce, cs⟩, present, found⟩
    exact ⟨(), _, ⟨by simp, rfl⟩, _, _, rfl, second, more, rfl, _, _, ⟨rfl, rfl⟩, _, _,
      ⟨present, found⟩, by rw [pce, bce, cs], rfl⟩

theorem read_encode (verdict : Verdict) : read verdict.encode = (.ok verdict.cut, []) := by
  refine read_eq_ok.mpr ⟨verdict.flags, _, rfl, verdict.hasFlag_flags, ?_⟩
  unfold cut
  cases verdict.offending with
  | none => exact ⟨rfl, rfl⟩
  | some offending =>
      have once : offending.inst % 16 % 16 = offending.inst % 16 := Octets.mod_mod offending.inst 16
      exact ⟨by simp, Offending.read_eq_ok.mpr ⟨_, once, offending.encode_eq⟩⟩

theorem encode_of_read {verdict : Verdict} (found : read octets = (.ok verdict, rest)) :
    verdict.encode =
      ((octets.take (if 6 ≤ octets.length then 6 else 2)).modify 1 (· &&& 7)).modify 5
        (· &&& 0x0F) := by
  obtain ⟨second, more, rfl, ⟨pce, bce, cs⟩, present, found⟩ := read_eq_ok.mp found
  have second_eq : verdict.flags = second &&& 7 := by
    rw [flags, ← pce, ← bce, ← cs, flags_of_octet]
  have written : verdict.encode =
      verdict.cause :: verdict.flags :: verdict.offending.elim [] Offending.encode := rfl
  rw [written, second_eq]
  cases h : verdict.offending with
  | none =>
      have few : ¬ 4 ≤ more.length := by simpa [h] using present
      have short : ¬ 6 ≤ (verdict.cause :: second :: more).length := by
        simp only [List.length_cons]
        omega
      rw [if_neg short]
      rfl
  | some offending =>
      have enough : 4 ≤ more.length := by simpa [h] using present
      have long : 6 ≤ (verdict.cause :: second :: more).length := by
        simp only [List.length_cons]
        omega
      rw [h] at found
      obtain ⟨fourth, inst, rfl⟩ := Offending.read_eq_ok.mp found
      have spare : ∀ octet : UInt8, octet % 16 % 16 = octet &&& 0x0F :=
        Octets.forall_octet (by decide +kernel)
      rw [if_pos long, Option.elim_some, Offending.encode_eq, ← inst, spare]
      rfl

end Verdict

/-! ## Both ways -/

/-- Writing loses the bits that do not travel, reading the spare bits and what stands behind the
octets of a value. -/
theorem Attribute.inverts_each :
    fteid.Inverts Fteid.cut (fun octets => octets.take (Fteid.size (octets.headD 0))) ∧
    flowQos.Inverts FlowQos.cut (·.take 21) ∧
    bearerQos.Inverts BearerQos.cut (fun octets => (octets.take 22).modify 0 (· &&& 0x7D)) ∧
    verdict.Inverts Verdict.cut (fun octets =>
      ((octets.take (if 6 ≤ octets.length then 6 else 2)).modify 1 (· &&& 7)).modify 5
        (· &&& 0x0F)) := by
  have whole (fteid : Fteid) : Fteid.read fteid.encode = (.ok fteid.cut, []) := by
    simpa using fteid.read_encode []
  exact ⟨inverts_of_read rfl rfl whole Fteid.encode_of_read,
    inverts_of_read rfl rfl FlowQos.read_encode FlowQos.encode_of_read,
    inverts_of_read rfl rfl BearerQos.read_encode_cut BearerQos.encode_of_read,
    inverts_of_read rfl rfl Verdict.read_encode Verdict.encode_of_read⟩

theorem Attribute.inverts_each_spare :
    (∃ element, Element.of .flowQos { qci := 9, rates.maximumUp := 0x10000000005 } = .ok element ∧
      element.get .flowQos = .ok { qci := 9, rates.maximumUp := 5 }) ∧
    ∃ found, (Element.ofValue .cause 0 [16, 0xFF, 1, 0, 3, 0xF5, 9, 9]).get .verdict = .ok found ∧
      ∃ element, Element.of .verdict found = .ok element ∧
        element.value = [16, 7, 1, 0, 3, 5] := by
  obtain ⟨_, flow, _, verdict⟩ := inverts_each
  have found : (Element.ofValue .cause 0 [16, 0xFF, 1, 0, 3, 0xF5, 9, 9]).get .verdict = .ok {
      cause := 16
      pce := true
      bce := true
      cs := true
      offending := some { type := .imsi, length := 3, inst := 5 } } := by
    decide +kernel
  exact ⟨flow.gives _, _, found, verdict.restores 0 _ _ found⟩

end TunnelControl
