import Mathlib.Data.List.Nodup
import TunnelControl.Proofs.Element.RoundTrip
import TunnelControl.Proofs.Message.Bucketing
import TunnelControl.Proofs.Value.RoundTrip

namespace TunnelControl

variable {α κ : Type} {octets : Octets}

namespace Attribute

variable (type : ElementType) {a found : α}

def Gives (attr : Attribute α) (a found : α) : Prop :=
  ∀ octets, attr.encode a = .ok octets → attr.decode octets = .ok found

theorem gives_checked {encode : α → Except Error Octets} {read : Reader α}
    (back : ∀ {octets}, encode a = .ok octets → ∀ rest, read (octets ++ rest) = (.ok found, rest)) :
    (checked type encode read).Gives a found := by
  intro octets encoded
  have read := back encoded []
  rw [List.append_nil] at read
  exact congrArg Prod.fst read

theorem gives_total {encode : α → Octets} {read : Reader α}
    (back : ∀ rest, read (encode a ++ rest) = (.ok found, rest)) :
    (total type encode read).Gives a found := by
  show (checked type (fun a => .ok (encode a)) read).Gives a found
  apply gives_checked type
  rintro octets ⟨⟩
  exact back

theorem gives_octet (keep : UInt8 → UInt8) (n : UInt8) :
    (octet type keep).Gives n (keep (keep n)) :=
  gives_total type fun rest =>
    (Reader.bind_ok (Reader.need_of_le (by simp)) _).trans (Reader.bind_ok (Reader.u8_cons ..) _)

theorem gives_digits {text : String} (filled : text ≠ "") : (digits type).Gives text text := by
  intro octets encoded
  obtain ⟨first, others, rfl⟩ :=
    List.exists_cons_of_ne_nil (Digits.ne_nil_of_encode encoded filled)
  have read := Digits.decode_encode encoded
  have enough : 1 ≤ (first :: others).length := by simp
  show (Prod.fst ((do Reader.need 1; _ : Reader String) (first :: others))) = _
  rw [Reader.bind_ok (Reader.need_of_le enough)]
  exact congrArg Except.ok read

theorem gives_name {name : String} (leads : Name.Leads name) :
    (Attribute.name type).Gives name name :=
  fun _ encoded => Name.decode_encode leads encoded

end Attribute

namespace Element

variable {attr : Attribute α} {inst : UInt8}

theorem get_of_type {element : Element} (own : element.type = attr.type) :
    element.get attr = attr.decode element.value := by
  rw [get, carrier, own, beq_self_eq_true, if_pos rfl]
  rfl

theorem get_ofValue : (ofValue attr.type inst octets).get attr = attr.decode octets :=
  get_of_type rfl

theorem decode_of_get {element : Element} {a : α} (direct : attr.throughBearer = false)
    (found : element.get attr = .ok a) : attr.decode element.value = .ok a := by
  by_cases own : element.type = attr.type
  · rwa [get_of_type own] at found
  · rw [get, carrier, direct, beq_false_of_ne own] at found
    cases found

theorem of_eq_ok {a : α} {element : Element} : of attr a = .ok element ↔
    ∃ octets, attr.encode a = .ok octets ∧ element = .ofValue attr.type 0 octets :=
  Except.bind_ok_eq_ok

theorem get_through_bearer {children : List Element} {child : Element}
    (through : attr.throughBearer = true) (inner : attr.type ≠ .bearerContext)
    (first : children.find? (·.type = attr.type) = some child) :
    (ofChildren .bearerContext inst children).get attr = child.get attr := by
  have own : child.type = attr.type := by simpa using List.find?_some first
  have found : (ofChildren .bearerContext inst children).carrier attr = .ok child := by
    have other : ((ofChildren .bearerContext inst children).type == attr.type) = false :=
      beq_false_of_ne inner.symm
    have head : ((ofChildren .bearerContext inst children).findAll attr.type).head? = some child :=
      (List.head?_filter ..).trans first
    rw [carrier, other, through, head]
    rfl
  have same : child.carrier attr = .ok child := by
    rw [carrier, own, beq_self_eq_true]
    rfl
  rw [get, get, found, same]

end Element

structure Carried where
  {α : Type}
  attr : Attribute α
  value : α
  inst : UInt8 := 0

namespace Carried

def element (carried : Carried) : Except Error Element :=
  return (← Element.of carried.attr carried.value).withInst carried.inst

variable {carried : Carried} {element : Element}

def key (carried : Carried) : ElementType × UInt8 := (carried.attr.type, carried.inst % 16)

theorem element_eq_ok : carried.element = .ok element ↔
    ∃ octets, carried.attr.encode carried.value = .ok octets ∧
      element = .ofValue carried.attr.type carried.inst octets := by
  show (Except.bind (Except.bind _ _) fun element => .ok _) = _ ↔ _
  rw [Except.bind_ok_eq_ok]
  constructor
  · rintro ⟨plain, built, rfl⟩
    obtain ⟨octets, encoded, rfl⟩ := Element.of_eq_ok.mp built
    exact ⟨octets, encoded, rfl⟩
  · rintro ⟨octets, encoded, rfl⟩
    exact ⟨_, Element.of_eq_ok.mpr ⟨octets, encoded, rfl⟩, rfl⟩

theorem exists_element_iff : (∃ element, carried.element = .ok element) ↔
    ∃ octets, carried.attr.encode carried.value = .ok octets := by
  simp only [element_eq_ok]
  exact ⟨fun ⟨_, octets, encoded, _⟩ => ⟨octets, encoded⟩,
    fun ⟨octets, encoded⟩ => ⟨_, octets, encoded, rfl⟩⟩

theorem key_of_element (built : carried.element = .ok element) : element.key = carried.key := by
  obtain ⟨_, _, rfl⟩ := element_eq_ok.mp built
  rfl

theorem get_of_element {found : carried.α} (built : carried.element = .ok element)
    (gives : carried.attr.Gives carried.value found) : element.get carried.attr = .ok found := by
  obtain ⟨octets, encoded, rfl⟩ := element_eq_ok.mp built
  rw [Element.get_ofValue]
  exact gives octets encoded

theorem conforms {groups : Groups} {level : Nat} (built : carried.element = .ok element)
    (plain : groups.contains carried.attr.type = false) : element.Conforms groups level := by
  obtain ⟨octets, _, rfl⟩ := element_eq_ok.mp built
  exact .leaf plain carried.inst octets

end Carried

variable {mark : Element → κ} {level : Nat} {wanted elements : List Element} {element : Element}

/-- Whether elements are the wanted ones in any order, and others that have other marks and are
groups just as their types are grouped. -/
inductive Among (mark : Element → κ) (level : Nat) (wanted elements : List Element) : Prop where
  | mix (others : List Element) (order : elements.Perm (wanted ++ others))
      (apart : ∀ other ∈ others, mark other ∉ wanted.map mark)
      (conform : ∀ other ∈ others, other.Conforms .standard level)

namespace Among

theorem refl (mark : Element → κ) (level : Nat) (wanted : List Element) :
    Among mark level wanted wanted :=
  .mix [] (by rw [List.append_nil]) (List.forall_mem_nil _) (List.forall_mem_nil _)

theorem find?_eq [DecidableEq κ] (among : Among mark level wanted elements)
    (distinct : (wanted.map mark).Nodup) (member : element ∈ wanted) :
    elements.find? (mark · = mark element) = some element := by
  obtain ⟨others, order, apart, _⟩ := among
  have inside : element ∈ elements := order.mem_iff.mpr (List.mem_append_left others member)
  obtain ⟨first, found⟩ : ∃ first, elements.find? (mark · = mark element) = some first := by
    rw [← Option.isSome_iff_exists, List.find?_isSome]
    exact ⟨element, inside, decide_eq_true rfl⟩
  have same : mark first = mark element := by simpa using List.find?_some found
  rcases List.mem_append.mp (order.mem_iff.mp (List.mem_of_find?_eq_some found)) with own | other
  · rw [found, List.inj_on_of_nodup_map distinct own member same]
  · exact absurd (same ▸ List.mem_map_of_mem member) (apart first other)

theorem conforms (among : Among mark level wanted elements)
    (wanted_conform : ∀ element ∈ wanted, element.Conforms .standard level) :
    ∀ element ∈ elements, element.Conforms .standard level := by
  obtain ⟨others, order, _, conform⟩ := among
  intro element member
  rcases List.mem_append.mp (order.mem_iff.mp member) with own | other
  · exact wanted_conform element own
  · exact conform element other

end Among

end TunnelControl
