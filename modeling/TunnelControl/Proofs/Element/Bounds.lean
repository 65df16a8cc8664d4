import TunnelControl.Element.Attribute
import TunnelControl.Proofs.Element.Grammar
import TunnelControl.Proofs.Octets.Bounds

namespace TunnelControl

open Reader

theorem Plmn.bounded_read : Guarded Plmn.read ∧ Takes 3 Plmn.read := by
  have octets := Takes.u8.bind fun first => Takes.u8.bind fun second => Takes.u8.bind fun third =>
    .pure (ofOctets first second third)
  exact ⟨.need octets.within, .need (Nat.le_refl 3) octets⟩

theorem BitRates.takes_read : Takes 20 BitRates.read :=
  Takes.u40.bind fun _ => Takes.u40.bind fun _ => Takes.u40.bind fun _ => Takes.u40.bind fun _ =>
    .pure _

theorem Offending.takes_read : Takes 4 Offending.read :=
  Takes.u8.bind fun _ => Takes.u16.bind fun _ => Takes.u8.bind fun _ => .pure _

theorem Place.guarded_read : Guarded Place.read :=
  .need (Plmn.bounded_read.2.bind fun _ => Takes.u16.bind fun _ => Takes.u16.bind fun _ =>
    .pure _).within

theorem Area.guarded_read : Guarded Area.read :=
  .need (Plmn.bounded_read.2.bind fun _ => Takes.u16.bind fun _ => .pure _).within

theorem EvolvedCell.guarded_read : Guarded EvolvedCell.read :=
  .need (Plmn.bounded_read.2.bind fun _ => Takes.u32.bind fun _ => .pure _).within

theorem Location.guarded_read : Guarded Location.read :=
  .need (.before Takes.u8 fun _ =>
    (Place.guarded_read.optional _).bind fun _ => (Place.guarded_read.optional _).bind fun _ =>
    (Place.guarded_read.optional _).bind fun _ => (Area.guarded_read.optional _).bind fun _ =>
    (EvolvedCell.guarded_read.optional _).bind fun _ =>
    (Area.guarded_read.optional _).bind fun _ => .pure _)

theorem TraceReference.guarded_read : Guarded TraceReference.read :=
  .need (Plmn.bounded_read.2.bind fun _ => Takes.u24.bind fun _ => .pure _).within

theorem Ambr.guarded_read : Guarded Ambr.read :=
  .need (Takes.u32.bind fun _ => Takes.u32.bind fun _ => .pure _).within

theorem TimeZone.guarded_read : Guarded TimeZone.read :=
  .need (Takes.u8.bind fun _ => Takes.u8.bind fun _ => .pure _).within

theorem FlowQos.guarded_read : Guarded FlowQos.read :=
  .need (Takes.u8.bind fun _ => BitRates.takes_read.bind fun _ => .pure _).within

theorem BearerQos.guarded_read : Guarded BearerQos.read :=
  .need (Takes.u8.bind fun _ => Takes.u8.bind fun _ => BitRates.takes_read.bind fun _ =>
    .pure _).within

theorem Extension.guarded_read : Guarded Extension.read :=
  .need (.before Takes.u16 fun _ => Guarded.remaining.bind fun _ => .pure _)

theorem Verdict.guarded_read : Guarded Verdict.read := by
  refine .need (.bind Takes.u8 fun _ => .before Takes.u8 fun _ => .left fun left => ?_)
  -- the offending element is only taken if there is room for it
  have room : (if decide (4 ≤ left) then 4 else 0) + 0 ≤ left := by
    split <;> simp_all
  exact ((Offending.takes_read.optional _).bind fun _ => .pure _).within.mono room

theorem Fteid.guarded_read : Guarded Fteid.read := by
  refine .need (Within.mono (.sized fun flags => ?_) (by decide))
  have takes := Takes.u32.bind fun teid =>
    (Takes.ipv4.optional (hasFlag 0x80 flags)).bind fun ipv4 =>
    (Takes.ipv6.optional (hasFlag 0x40 flags)).bind fun ipv6 =>
    .pure { interface := flags % 64, teid, ipv4, ipv6 : Fteid }
  -- both the check and what is taken are counted by the same two flags
  refine takes.within.mono ?_
  unfold size
  omega

theorem Paa.guarded_read : Guarded Paa.read := by
  refine .need (.sized fun first => ?_)
  generalize first % 8 = kind
  split
  · exact (Takes.ipv4.bind fun _ => .pure _).within
  · exact (Takes.u8.bind fun _ => Takes.ipv6.bind fun _ => .pure _).within
  · exact (Takes.u8.bind fun _ => Takes.ipv6.bind fun _ => Takes.ipv4.bind fun _ =>
      .pure _).within
  · exact (Guarded.pure _).within

theorem Name.within_readLabel : Within 1 Name.readLabel :=
  .before Takes.u8 fun _ => .need (Takes.take _).within

theorem Name.decode_ne_overrun (octets : Octets) : Name.decode octets ≠ .error .overrun := by
  have guarded := all_guarded within_readLabel octets
  unfold decode
  split
  · nofun
  · nofun
  · next stop read =>
      rw [read] at guarded
      simpa using guarded

theorem Container.guarded_read : Guarded Container.read :=
  .need (.bind Takes.u16 fun _ => .before Takes.u8 fun _ =>
    .need ((Takes.take _).bind fun _ => .pure _).within)

theorem Pco.decode_ne_overrun (octets : Octets) : Pco.decode octets ≠ .error .overrun := by
  have first : Guarded (do Reader.need 1; Reader.u8 : Reader UInt8) := .need Takes.u8.within
  unfold decode
  split
  · next error rest read => simpa using first.error_ne read
  · next first rest read =>
      have guarded := all_guarded (Container.guarded_read.within) rest
      split
      · nofun
      · next stop read =>
          rw [read] at guarded
          simpa using guarded

def IpAddress.unfit : Reader IpAddress := fun octets =>
  (.error (.malformed (.addressSize octets.length)), octets)

def IpAddress.read : Reader IpAddress := do
  let left ← Reader.left
  if left = 4 then return .v4 (← Reader.ipv4)
  if left = 16 then return .v6 (← Reader.ipv6)
  Reader.need 4
  unfit

theorem IpAddress.guarded_read : Guarded IpAddress.read := by
  refine .left fun left => ?_
  by_cases four : left = 4
  · subst four
    exact (Takes.ipv4.bind fun _ => .pure _).within
  by_cases sixteen : left = 16
  · subst sixteen
    exact (Takes.ipv6.bind fun _ => .pure _).within
  have unfit : Guarded unfit := nofun
  rw [if_neg four, if_neg sixteen]
  exact (Guarded.need unfit.within).within

namespace Attribute

theorem decode_ipAddress (octets : Octets) :
    ipAddress.decode octets = IpAddress.read.value octets := by
  have taken : ∀ n, octets.length = n → take n octets = (.ok octets, []) := by
    rintro n rfl
    simpa using take_append octets []
  unfold ipAddress IpAddress.read Reader.value
  by_cases four : octets.length = 4
  · have found : Reader.ipv4 octets = (.ok (.ofOctets octets), []) := bind_ok (taken 4 four) _
    simp [bind_apply, left, four, found]
  by_cases sixteen : octets.length = 16
  · have found : Reader.ipv6 octets = (.ok (.ofOctets octets), []) := bind_ok (taken 16 sixteen) _
    simp [bind_apply, left, sixteen, found]
  by_cases few : octets.length < 4 <;> simp [bind_apply, left, four, sixteen, few, need,
    IpAddress.unfit]

def Bounded {α : Type} (attr : Attribute α) : Prop :=
  ∀ octets, attr.decode octets ≠ .error .overrun

theorem bounded_digits (type : ElementType) : (digits type).Bounded :=
  Guarded.need (Guarded.within (Guarded.remaining.bind fun _ => .pure _))

theorem bounded_octet (type : ElementType) (keep : UInt8 → UInt8) : (octet type keep).Bounded :=
  Guarded.need (Takes.u8.bind fun _ => .pure _).within

theorem bounded_u16 (type : ElementType) : (u16 type).Bounded :=
  Guarded.need Takes.u16.within

def all : List (Sigma Attribute) := [
  ⟨_, imsi⟩, ⟨_, msisdn⟩, ⟨_, mei⟩, ⟨_, recovery⟩, ⟨_, ebi⟩, ⟨_, ratType⟩, ⟨_, pdnType⟩,
  ⟨_, selectionMode⟩, ⟨_, apnRestriction⟩, ⟨_, nodeType⟩, ⟨_, delayValue⟩, ⟨_, pti⟩,
  ⟨_, nodeFeatures⟩, ⟨_, arp⟩, ⟨_, chargingCharacteristics⟩, ⟨_, portNumber⟩, ⟨_, chargingId⟩,
  ⟨_, ambr⟩, ⟨_, ueTimeZone⟩, ⟨_, apn⟩, ⟨_, fqdn⟩, ⟨_, indication⟩, ⟨_, ipAddress⟩,
  ⟨_, privateExtension⟩, ⟨_, verdict⟩, ⟨_, cause⟩, ⟨_, fteid⟩, ⟨_, bearerQos⟩, ⟨_, flowQos⟩,
  ⟨_, paa⟩, ⟨_, pco⟩, ⟨_, servingNetwork⟩, ⟨_, plmnId⟩, ⟨_, traceReference⟩, ⟨_, location⟩]

theorem bounded : ∀ attr ∈ all, attr.2.Bounded := by
  -- one entry after the other, in the order of the list
  simp only [all, List.forall_mem_cons]
  refine ⟨bounded_digits _, bounded_digits _, bounded_digits _, bounded_octet _ _,
    bounded_octet .ebi _, bounded_octet _ _, bounded_octet _ _, bounded_octet _ _,
    bounded_octet _ _, bounded_octet _ _, bounded_octet _ _, bounded_octet _ _, bounded_octet _ _,
    Guarded.need (Takes.u8.bind fun _ => .pure _).within, bounded_u16 _, bounded_u16 _,
    Guarded.need Takes.u32.within, Ambr.guarded_read, TimeZone.guarded_read,
    Name.decode_ne_overrun, Name.decode_ne_overrun, Guarded.remaining, ?_,
    Extension.guarded_read, Verdict.guarded_read, bounded_octet .cause _, Fteid.guarded_read,
    BearerQos.guarded_read, FlowQos.guarded_read, Paa.guarded_read, Pco.decode_ne_overrun,
    Plmn.bounded_read.1, Plmn.bounded_read.1,
    TraceReference.guarded_read, Location.guarded_read, nofun⟩
  intro octets
  rw [decode_ipAddress]
  exact IpAddress.guarded_read octets

end Attribute

namespace Element

variable {groups : Groups} {level : Nat} {octets : Octets} {error : Error}

theorem Fault.ne_overrun (fault : Fault groups level octets error) : error ≠ .overrun := by
  induction fault with
  | header left few => nofun
  | value announced exceeds => nofun
  | depth grouped fits => nofun
  | inside grouped fits fault ih => exact ih
  | after sound fault ih => exact ih

theorem decodeAll_ne_overrun (groups : Groups) (octets : Octets) :
    decodeAll groups octets ≠ .error .overrun :=
  fun refused => Fault.ne_overrun (forest_eq_error.mp refused) rfl

theorem carrier_ne_overrun {α : Type} (attr : Attribute α) (element : Element) :
    element.carrier attr ≠ .error .overrun := by
  unfold carrier
  split
  · nofun
  · split
    · split <;> nofun
    · nofun

theorem get_ne_overrun {α : Type} {attr : Attribute α} (bounded : attr.Bounded)
    (element : Element) : element.get attr ≠ .error .overrun :=
  bind_ne_overrun (carrier_ne_overrun attr element) fun holder => bounded holder.value

end Element

end TunnelControl
