import TunnelControl.Proofs.Element.RoundTrip

namespace TunnelControl.Element

variable {groups : Groups} {level : Nat} {element : Element} {elements : List Element}

mutual

def depth : Element → Nat
  | leaf _ _ _ => 0
  | group _ _ _ children => depths children + 1

def depths : List Element → Nat
  | [] => 0
  | element :: elements => max (depth element) (depths elements)

end

theorem depths_le_iff : depths elements ≤ level ↔ ∀ element ∈ elements, depth element ≤ level := by
  induction elements with
  | nil => simp [depths]
  | cons element elements ih => rw [depths, Nat.max_le, ih, List.forall_mem_cons]

inductive Built (groups : Groups) : Element → Prop where
  | leaf {type : ElementType} (plain : groups.contains type = false) (inst : UInt8)
      (value : Octets) : Built groups (.ofValue type inst value)
  | group {type : ElementType} {children : List Element} (grouped : groups.contains type = true)
      (inst : UInt8) (inside : ∀ child ∈ children, Built groups child) :
      Built groups (.ofChildren type inst children)

theorem conforms_iff :
    Conforms groups level element ↔ Built groups element ∧ depth element ≤ level := by
  constructor
  · intro conforms
    induction conforms with
    | leaf plain inst value => exact ⟨.leaf plain inst value, Nat.zero_le _⟩
    | group grouped inst _ ih =>
        refine ⟨.group grouped inst fun child member => (ih child member).1, ?_⟩
        exact Nat.succ_le_succ (depths_le_iff.mpr fun child member => (ih child member).2)
  · rintro ⟨built, bound⟩
    induction built generalizing level with
    | leaf plain inst value => exact .leaf plain inst value
    | @group type children grouped inst _ ih =>
        have bound : depths children + 1 ≤ level := bound
        obtain ⟨level, rfl⟩ := Nat.exists_eq_add_one.mpr (Nat.lt_of_lt_of_le (Nat.succ_pos _) bound)
        apply Conforms.group grouped inst
        intro child member
        exact ih child member (depths_le_iff.mp (Nat.le_of_succ_le_succ bound) child member)

def TooDeep (groups : Groups) (level : Nat) (octets : Octets) : Prop :=
  ∃ type, groups.contains type = true ∧
    Fault groups level octets (.malformed (.nestedTooDeep type))

theorem tooDeep_concat (built : ∀ element ∈ elements, Built groups element)
    (fits : ∀ element ∈ elements, element.value.length ≤ maxValue)
    (each : ∀ element ∈ elements, level < depth element →
      ∀ rest, TooDeep groups level (element.octets ++ rest))
    (deep : level < depths elements) : TooDeep groups level (concat elements) := by
  -- the elements before the first one that is too deep are read, so that one is what is refused
  induction elements with
  | nil => cases deep
  | cons element elements ih =>
      by_cases first : level < depth element
      · exact each element List.mem_cons_self first (concat elements)
      · have later : level < depths elements := by
          rw [depths] at deep
          omega
        obtain ⟨type, grouped, fault⟩ := ih
          (fun other member => built other (List.mem_cons_of_mem _ member))
          (fun other member => fits other (List.mem_cons_of_mem _ member))
          (fun other member => each other (List.mem_cons_of_mem _ member)) later
        have conforms : Conforms groups level element :=
          conforms_iff.mpr ⟨built element List.mem_cons_self, Nat.not_lt.mp first⟩
        have sound := conforms.spells (fits element List.mem_cons_self)
        exact ⟨type, grouped, .after sound fault⟩

theorem Built.tooDeep (built : Built groups element) (fits : element.value.length ≤ maxValue)
    (deep : level < depth element) (rest : Octets) :
    TooDeep groups level (element.octets ++ rest) := by
  induction built generalizing level rest with
  | leaf => cases deep
  | @group type children grouped inst inside ih =>
      rw [octets_of_inst inst rfl]
      cases level with
      | zero => exact ⟨type, grouped, .depth grouped fits⟩
      | succ level =>
          have inner (child : Element) (member : child ∈ children) :
              child.value.length ≤ maxValue := fits_of_concat fits member
          have below : level < depths children := Nat.lt_of_succ_lt_succ deep
          obtain ⟨refused, refusable, fault⟩ := tooDeep_concat inside inner
            (fun child member => ih child member (inner child member)) below
          exact ⟨refused, refusable, .inside grouped fits fault⟩

/-- Built elements are written, and what was written is read back as long as no more than eight
groups lie inside each other; the ninth one is refused. -/
theorem decodeAll_boundary (built : ∀ element ∈ elements, Built groups element)
    (fits : ∀ element ∈ elements, element.value.length ≤ maxValue) :
    ∃ parts, elements.mapM encode = .ok parts ∧
      (depths elements ≤ maxDepth →
        decodeAll groups parts.flatten = .ok elements ∧
        ∀ element ∈ elements, ∃ octets, element.encode = .ok octets ∧
          ∀ rest, read groups (octets ++ rest) = (.ok element, rest)) ∧
      (maxDepth < depths elements →
        ∃ type, groups.contains type = true ∧
          decodeAll groups parts.flatten = .error (.malformed (.nestedTooDeep type))) := by
  refine ⟨_, mapM_encode_eq_ok.mpr ⟨fits, rfl⟩, fun bound => ?_, fun deep => ?_⟩
  · have conform (element : Element) (member : element ∈ elements) :
        Conforms groups maxDepth element :=
      conforms_iff.mpr ⟨built element member, depths_le_iff.mp bound element member⟩
    refine ⟨decodeAll_concat conform fits, fun element member => ?_⟩
    have spells := (conform element member).spells (fits element member)
    exact ⟨_, encode_eq_ok.mpr ⟨fits element member, rfl⟩, spells.read_append⟩
  · obtain ⟨type, grouped, fault⟩ := tooDeep_concat built fits
      (fun element member => (built element member).tooDeep (fits element member)) deep
    exact ⟨type, grouped, fault.forest_eq⟩

theorem decodeAll_boundary_empty_group :
    let nested (outside : Nat) : Element :=
      Nat.repeat (fun inner => .ofChildren .bearerContext 0 [inner]) outside
        (.ofChildren .pdnConnection 1 [])
    let elements (outside : Nat) : List Element := [.ofValue .ebi 0 [5], nested outside]
    (∀ outside, ∀ element ∈ elements outside, Built .standard element) ∧
      (∀ element ∈ elements 7, element.value.length ≤ maxValue) ∧
      (∀ element ∈ elements 8, element.value.length ≤ maxValue) ∧
      (∃ parts, (elements 7).mapM encode = .ok parts ∧
        decodeAll .standard parts.flatten = .ok (elements 7)) ∧
      ∃ parts, (elements 8).mapM encode = .ok parts ∧
        ∃ type, Groups.standard.contains type = true ∧
          decodeAll .standard parts.flatten = .error (.malformed (.nestedTooDeep type)) := by
  intro nested elements
  have built (outside : Nat) : ∀ element ∈ elements outside, Built .standard element := by
    have tower : Built .standard (nested outside) := by
      induction outside with
      | zero => exact .group (by decide) 1 (by simp)
      | succ outside ih => exact .group (by decide) 0 (by simpa using ih)
    simpa [elements] using And.intro (Built.leaf (by decide) 0 [5]) tower
  have fitsSeven : ∀ element ∈ elements 7, element.value.length ≤ maxValue := by decide
  have fitsEight : ∀ element ∈ elements 8, element.value.length ≤ maxValue := by decide
  obtain ⟨seven, writtenSeven, within, _⟩ := decodeAll_boundary (built 7) fitsSeven
  obtain ⟨eight, writtenEight, _, beyond⟩ := decodeAll_boundary (built 8) fitsEight
  exact ⟨built, fitsSeven, fitsEight, ⟨seven, writtenSeven, (within (by decide)).1⟩,
    eight, writtenEight, beyond (by decide)⟩

end TunnelControl.Element
