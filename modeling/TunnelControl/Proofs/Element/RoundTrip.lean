import TunnelControl.Proofs.Element.Grammar

namespace TunnelControl.Element

variable {groups : Groups} {level : Nat} {element : Element} {elements : List Element}

/-- Elements that were built as leaves and groups just as their types are grouped, with at most
`level` groups inside each other. -/
inductive Conforms (groups : Groups) : (level : Nat) → Element → Prop where
  | leaf {level : Nat} {type : ElementType} (plain : groups.contains type = false) (inst : UInt8)
      (value : Octets) : Conforms groups level (.ofValue type inst value)
  | group {level : Nat} {type : ElementType} {children : List Element}
      (grouped : groups.contains type = true) (inst : UInt8)
      (inside : ∀ child ∈ children, Conforms groups level child) :
      Conforms groups (level + 1) (.ofChildren type inst children)

theorem value_le_totalSize (member : element ∈ elements) :
    element.value.length ≤ totalSize elements := by
  induction elements with
  | nil => cases member
  | cons first rest ih =>
      rw [totalSize, size]
      rcases List.mem_cons.mp member with rfl | member
      · omega
      · have inside := ih member
        omega

theorem fits_of_concat {children : List Element} {child : Element}
    (fits : (concat children).length ≤ maxValue) (member : child ∈ children) :
    child.value.length ≤ maxValue := by
  rw [length_concat] at fits
  exact Nat.le_trans (value_le_totalSize member) fits

theorem Conforms.spells (conforms : Conforms groups level element)
    (fits : element.value.length ≤ maxValue) :
    Spells groups level element.octets [element] := by
  induction conforms with
  | leaf plain inst value => exact .ofValue plain fits inst
  | @group level type children grouped inst inside ih =>
      apply Spells.ofGroup grouped fits inst
      -- the children fit because their parent does
      exact Spells.of_each fun child member => ih child member (fits_of_concat fits member)

theorem decodeAll_concat (conform : ∀ element ∈ elements, Conforms groups maxDepth element)
    (fits : ∀ element ∈ elements, element.value.length ≤ maxValue) :
    decodeAll groups (concat elements) = .ok elements := by
  apply Spells.forest_eq
  apply Spells.of_each
  exact fun element member => (conform element member).spells (fits element member)

end TunnelControl.Element
