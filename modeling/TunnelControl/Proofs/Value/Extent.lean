import TunnelControl.Proofs.Element.Bounds
import TunnelControl.Proofs.Element.Carriage

namespace TunnelControl

namespace Reader

variable {α β : Type} {m n : Nat} {read : Reader α} {octets : Octets} {first : UInt8}
  {size : UInt8 → Nat}

def FallsShort (read : Reader α) (octets : Octets) : Prop :=
  ∃ needed available rest, available < needed ∧
    read octets = (.error (.tooShort needed available), rest)

theorem fallsShort_need (few : octets.length < n) (next : Unit → Reader β) :
    FallsShort (need n >>= next) octets :=
  ⟨n, octets.length, octets, few, by simp [bind_apply, need, few]⟩

theorem FallsShort.bind (short : FallsShort read octets) (next : α → Reader β) :
    FallsShort (read >>= next) octets := by
  obtain ⟨needed, available, rest, few, stopped⟩ := short
  exact ⟨needed, available, rest, few, by rw [bind_apply, stopped]⟩

structure Asks (n : Nat) (read : Reader α) : Prop where
  takes : Takes n read
  short : ∀ octets : Octets, octets.length < n → FallsShort read octets

namespace Asks

theorem pure (a : α) : Asks 0 (pure a : Reader α) := ⟨.pure a, nofun⟩

theorem need {next : Unit → Reader β} (takes : Takes n (next ())) : Asks n (need n >>= next) :=
  ⟨.need (Nat.le_refl n) takes, fun _ few => fallsShort_need few next⟩

theorem bind {next : α → Reader β} (one : Asks m read) (other : ∀ a, Asks n (next a)) :
    Asks (m + n) (read >>= next) := by
  refine ⟨one.takes.bind fun a => (other a).takes, fun octets few => ?_⟩
  by_cases enough : m ≤ octets.length
  · -- the first reader finds its octets, and the second one misses some
    obtain ⟨a, found⟩ := one.takes.exists_eq_ok enough
    have left : (octets.drop m).length < n := by
      rw [List.length_drop]
      omega
    obtain ⟨needed, available, rest, short, stopped⟩ := (other a).short (octets.drop m) left
    exact ⟨needed, available, rest, short, by rw [bind_ok found, stopped]⟩
  · exact (one.short octets (Nat.lt_of_not_le enough)).bind next

theorem optional (asks : Asks n read) (present : Bool) :
    Asks (if present then n else 0) (optional present read) := by
  cases present with
  | false => exact .pure none
  | true => exact asks.bind fun a => .pure (some a)

end Asks

def Reaches (size : UInt8 → Nat) (octets : Octets) : Prop :=
  ∃ first, octets.head? = some first ∧ size first ≤ octets.length

structure Sized (size : UInt8 → Nat) (read : Reader α) : Prop where
  positive : ∀ first, 0 < size first
  takes : ∀ first more, (first :: more).length = size first →
    ∃ a, ∀ rest, read (first :: more ++ rest) = (.ok a, rest)
  short : ∀ octets, ¬ Reaches size octets → FallsShort read octets

theorem Asks.sized (asks : Asks n read) (positive : 0 < n) : Sized (fun _ => n) read where
  positive _ := positive
  takes first more length := asks.takes (first :: more) length
  short octets few := by
    apply asks.short
    by_contra enough
    obtain ⟨first, more, rfl⟩ := List.exists_cons_of_length_pos
      (Nat.lt_of_lt_of_le positive (Nat.le_of_not_lt enough))
    exact few ⟨first, rfl, Nat.le_of_not_lt enough⟩

namespace Sized

theorem behind {next : UInt8 → Reader β} (asks : ∀ first, Asks (size first) (next first)) :
    Sized (fun first => 1 + size first) (Reader.need 1 >>= fun _ => u8 >>= next) where
  positive first := by omega
  takes first more length := by
    rw [List.length_cons, Nat.add_comm, Nat.add_left_cancel_iff] at length
    obtain ⟨a, found⟩ := (asks first).takes more length
    refine ⟨a, fun rest => ?_⟩
    rw [bind_ok (need_of_le (by simp)), List.cons_append, bind_ok (u8_cons first _)]
    exact found rest
  short octets few := by
    cases octets with
    | nil => exact fallsShort_need Nat.zero_lt_one _
    | cons first more =>
        have less : more.length < size first := by
          by_contra enough
          refine few ⟨first, rfl, ?_⟩
          show 1 + size first ≤ more.length + 1
          omega
        obtain ⟨needed, available, rest, short, stopped⟩ := (asks first).short more less
        refine ⟨needed, available, rest, short, ?_⟩
        rw [bind_ok (need_of_le (by simp)), bind_ok (u8_cons first more), stopped]

theorem ahead {next : UInt8 → UInt8 → Reader β} (positive : 0 < m)
    (least : ∀ first, m ≤ size first) (takes : ∀ first, Takes (size first - 1) (next first first)) :
    Sized size (Reader.need m >>= fun _ => peek >>= fun first =>
      Reader.need (size first) >>= fun _ => u8 >>= next first) where
  positive first := Nat.lt_of_lt_of_le positive (least first)
  takes first more length := by
    have behind : more.length = size first - 1 := by
      rw [← length]
      rfl
    obtain ⟨a, found⟩ := takes first more behind
    refine ⟨a, fun rest => ?_⟩
    have enough : size first ≤ (first :: more ++ rest).length := by
      rw [List.length_append]
      omega
    rw [bind_ok (need_of_le ((least first).trans enough)),
      bind_ok (show peek (first :: more ++ rest) = (.ok first, first :: more ++ rest) from rfl),
      bind_ok (need_of_le enough), List.cons_append, bind_ok (u8_cons first _)]
    exact found rest
  short octets few := by
    by_cases some : m ≤ octets.length
    · obtain ⟨first, more, rfl⟩ :=
        List.exists_cons_of_length_pos (Nat.lt_of_lt_of_le positive some)
      have less : (first :: more).length < size first := by
        by_contra enough
        exact few ⟨first, rfl, Nat.le_of_not_lt enough⟩
      obtain ⟨needed, available, rest, short, stopped⟩ :=
        fallsShort_need less fun _ => u8 >>= next first
      refine ⟨needed, available, rest, short, ?_⟩
      rw [bind_ok (need_of_le some),
        bind_ok (show peek (first :: more) = (.ok first, first :: more) from rfl), stopped]
    · exact fallsShort_need (Nat.lt_of_not_le some) _

theorem value_eq (sized : Sized size read) (begins : octets.head? = some first)
    (enough : size first ≤ octets.length) :
    ∃ a, ∀ other : Octets, other.take (size first) = octets.take (size first) →
      read.value other = .ok a := by
  obtain ⟨more, rfl⟩ : ∃ more, octets = first :: more := List.head?_eq_some_iff.mp begins
  have positive := sized.positive first
  obtain ⟨rest, front⟩ : ∃ rest, (first :: more).take (size first) = first :: rest :=
    ⟨_, List.take_cons positive⟩
  have length : (first :: rest).length = size first := by
    rw [← front, List.length_take]
    omega
  obtain ⟨a, found⟩ := sized.takes first rest length
  refine ⟨a, fun other same => ?_⟩
  rw [← List.take_append_drop (size first) other, same, front, value, found]

end Sized

end Reader

open Reader

theorem Plmn.asks_read : Asks 3 Plmn.read :=
  .need (Takes.u8.bind fun _ => Takes.u8.bind fun _ => Takes.u8.bind fun _ => .pure _)

theorem Ambr.asks_read : Asks 8 Ambr.read :=
  .need (Takes.u32.bind fun _ => Takes.u32.bind fun _ => .pure _)

theorem TimeZone.asks_read : Asks 2 TimeZone.read :=
  .need (Takes.u8.bind fun _ => Takes.u8.bind fun _ => .pure _)

theorem FlowQos.asks_read : Asks 21 FlowQos.read :=
  .need (Takes.u8.bind fun _ => BitRates.takes_read.bind fun _ => .pure _)

theorem BearerQos.asks_read : Asks 22 BearerQos.read :=
  .need (Takes.u8.bind fun _ => Takes.u8.bind fun _ => BitRates.takes_read.bind fun _ => .pure _)

theorem TraceReference.asks_read : Asks 6 TraceReference.read :=
  .need (Plmn.asks_read.takes.bind fun _ => Takes.u24.bind fun _ => .pure _)

theorem Place.asks_read : Asks 7 Place.read :=
  .need (Plmn.asks_read.takes.bind fun _ => Takes.u16.bind fun _ => Takes.u16.bind fun _ => .pure _)

theorem Area.asks_read : Asks 5 Area.read :=
  .need (Plmn.asks_read.takes.bind fun _ => Takes.u16.bind fun _ => .pure _)

theorem EvolvedCell.asks_read : Asks 7 EvolvedCell.read :=
  .need (Plmn.asks_read.takes.bind fun _ => Takes.u32.bind fun _ => .pure _)

namespace Location

def size (first : UInt8) : Nat :=
  let flags := LocationFlags.ofOctet first
  let part (present : Bool) (octets : Nat) := if present then octets else 0
  1 + part flags.cell 7 + part flags.serviceArea 7 + part flags.routingArea 7 +
    part flags.trackingArea 5 + part flags.evolvedCell 7 + part flags.locationArea 5

theorem sized_read : Sized size Location.read := by
  -- each place is only checked for when the ones in front of it were read
  have sized := Sized.behind fun first =>
    let flags := LocationFlags.ofOctet first
    (Place.asks_read.optional flags.cell).bind fun cell =>
    (Place.asks_read.optional flags.serviceArea).bind fun serviceArea =>
    (Place.asks_read.optional flags.routingArea).bind fun routingArea =>
    (Area.asks_read.optional flags.trackingArea).bind fun trackingArea =>
    (EvolvedCell.asks_read.optional flags.evolvedCell).bind fun evolvedCell =>
    (Area.asks_read.optional flags.locationArea).bind fun locationArea =>
    .pure { cell, serviceArea, routingArea, trackingArea, evolvedCell, locationArea : Location }
  convert sized using 2 with first
  · simp only [size, Nat.add_assoc, Nat.add_zero]
  · rfl

end Location

theorem Fteid.sized_read : Sized Fteid.size Fteid.read := by
  refine .ahead (by decide) (fun flags => ?_) fun flags => ?_
  · unfold size
    omega
  · have takes := Takes.u32.bind fun teid =>
      (Takes.ipv4.optional (hasFlag 0x80 flags)).bind fun ipv4 =>
      (Takes.ipv6.optional (hasFlag 0x40 flags)).bind fun ipv6 =>
      .pure { interface := flags % 64, teid, ipv4, ipv6 : Fteid }
    -- both the check and what is taken are counted by the same two flags
    convert takes using 1
    unfold size
    omega

theorem Paa.sized_read : Sized (fun first => Paa.size (first % 8)) Paa.read := by
  refine .ahead (by decide) (fun first => ?_) fun first => ?_
  · unfold size
    split <;> decide
  · generalize first % 8 = kind
    split
    · exact Takes.ipv4.bind fun _ => .pure _
    · exact Takes.u8.bind fun _ => Takes.ipv6.bind fun _ => .pure _
    · exact Takes.u8.bind fun _ => Takes.ipv6.bind fun _ => Takes.ipv4.bind fun _ => .pure _
    · have first : size kind = 1 := by
        unfold size
        split <;> simp_all
      rw [first]
      exact .pure _

namespace Attribute

variable {α : Type} {attr : Attribute α} {size : UInt8 → Nat} {read : Reader α}

/-- Whether the values of an attribute take as many octets as the first one tells: they are read
exactly if these are there, nothing that follows them makes a difference, and otherwise it is
reported that octets are missing. -/
structure Extends (attr : Attribute α) (size : UInt8 → Nat) : Prop where
  accepted : ∀ element : Element, element.type = attr.type →
    ((∃ a, element.get attr = .ok a) ↔ Reaches size element.value)
  refused : ∀ element : Element, element.type = attr.type → ¬ Reaches size element.value →
    ∃ needed available, available < needed ∧
      element.get attr = .error (.tooShort needed available)
  settled : ∀ element other : Element, element.type = attr.type → other.type = attr.type →
    ∀ first, element.value.head? = some first → size first ≤ element.value.length →
      other.value.take (size first) = element.value.take (size first) →
      other.get attr = element.get attr
  appended : ∀ (element : Element) (a : α), element.type = attr.type →
    element.get attr = .ok a → ∀ (inst : UInt8) (more : Octets),
      (Element.ofValue attr.type inst (element.value ++ more)).get attr = .ok a

theorem extends_of_sized (reads : attr.decode = read.value) (sized : Sized size read) :
    attr.Extends size := by
  have get_eq {element : Element} (own : element.type = attr.type) :
      element.get attr = read.value element.value := by
    rw [Element.get_of_type own, reads]
  have refused (element : Element) (own : element.type = attr.type)
      (few : ¬ Reaches size element.value) : ∃ needed available, available < needed ∧
        element.get attr = .error (.tooShort needed available) := by
    obtain ⟨needed, available, rest, short, stopped⟩ := sized.short element.value few
    exact ⟨needed, available, short, by rw [get_eq own, value, stopped]⟩
  have accepted (element : Element) (own : element.type = attr.type) :
      (∃ a, element.get attr = .ok a) ↔ Reaches size element.value := by
    constructor
    · rintro ⟨a, found⟩
      by_contra few
      obtain ⟨_, _, _, stopped⟩ := refused element own few
      cases found.symm.trans stopped
    · rintro ⟨first, begins, enough⟩
      obtain ⟨a, found⟩ := sized.value_eq begins enough
      exact ⟨a, (get_eq own).trans (found _ rfl)⟩
  have settled (element other : Element) (own : element.type = attr.type)
      (same : other.type = attr.type) (first : UInt8) (begins : element.value.head? = some first)
      (enough : size first ≤ element.value.length)
      (front : other.value.take (size first) = element.value.take (size first)) :
      other.get attr = element.get attr := by
    obtain ⟨a, found⟩ := sized.value_eq begins enough
    rw [get_eq same, get_eq own, found _ front, found _ rfl]
  refine ⟨accepted, refused, settled, fun element a own found inst more => ?_⟩
  obtain ⟨first, begins, enough⟩ := (accepted element own).mp ⟨a, found⟩
  refine (settled element _ own rfl first begins enough ?_).trans found
  exact List.take_append_of_le_length enough

theorem extends_of_asks {n : Nat} (reads : attr.decode = read.value) (asks : Asks n read)
    (positive : 0 < n) : attr.Extends fun _ => n :=
  extends_of_sized reads (asks.sized positive)

theorem extents :
    fteid.Extends Fteid.size ∧
    location.Extends Location.size ∧
    paa.Extends (fun first => Paa.size (first % 8)) ∧
    bearerQos.Extends (fun _ => 22) ∧
    flowQos.Extends (fun _ => 21) ∧
    ambr.Extends (fun _ => 8) ∧
    traceReference.Extends (fun _ => 6) ∧
    servingNetwork.Extends (fun _ => 3) ∧
    plmnId.Extends (fun _ => 3) ∧
    chargingId.Extends (fun _ => 4) ∧
    ueTimeZone.Extends (fun _ => 2) := by
  have number : Asks 4 (do Reader.need 4; Reader.u32) := .need Takes.u32
  exact ⟨extends_of_sized rfl Fteid.sized_read, extends_of_sized rfl Location.sized_read,
    extends_of_sized rfl Paa.sized_read, extends_of_asks rfl BearerQos.asks_read (by decide),
    extends_of_asks rfl FlowQos.asks_read (by decide),
    extends_of_asks rfl Ambr.asks_read (by decide),
    extends_of_asks rfl TraceReference.asks_read (by decide),
    extends_of_asks rfl Plmn.asks_read (by decide), extends_of_asks rfl Plmn.asks_read (by decide),
    extends_of_asks rfl number (by decide), extends_of_asks rfl TimeZone.asks_read (by decide)⟩

end Attribute

end TunnelControl
