import TunnelControl.Proofs.Element.Grammar

namespace TunnelControl

namespace Groups

variable {small large : Groups} {type : ElementType}

def Within (small large : Groups) : Prop :=
  ∀ type, small.contains type = true → large.contains type = true

theorem Within.plain (within : small.Within large) (plain : large.contains type = false) :
    small.contains type = false := by
  rw [← Bool.not_eq_true] at plain ⊢
  exact mt (within type) plain

theorem within_insert (groups : Groups) (type : ElementType) :
    groups.Within (groups.insert type) := by
  intro other member
  rw [contains_insert, member, Bool.or_true]

theorem standard_within (extra : List ElementType) : standard.Within (withExtra extra) := by
  unfold withExtra
  generalize standard = groups
  induction extra generalizing groups with
  | nil => exact fun _ member => member
  | cons type extra ih =>
      exact fun other member =>
        ih (groups.insert type) other (within_insert groups type other member)

end Groups

namespace Element

variable {small large groups : Groups} {level : Nat} {octets : Octets} {element : Element}
  {elements : List Element}

mutual

def prune (groups : Groups) : Element → Element
  | leaf type inst value => leaf type inst value
  | group type inst value children =>
      if groups.contains type then group type inst value (pruneAll groups children)
      else leaf type inst value

def pruneAll (groups : Groups) : List Element → List Element
  | [] => []
  | element :: elements => prune groups element :: pruneAll groups elements

end

theorem pruneAll_eq_map (groups : Groups) (elements : List Element) :
    pruneAll groups elements = elements.map (prune groups) := by
  induction elements with
  | nil => rfl
  | cons element elements ih => rw [pruneAll, ih, List.map_cons]

theorem prune_group {type : ElementType} {inst : UInt8} {value : Octets} {children : List Element}
    (grouped : groups.contains type = true) :
    prune groups (.group type inst value children) =
      .group type inst value (children.map (prune groups)) := by
  rw [prune, if_pos grouped, pruneAll_eq_map]

theorem prune_plain {type : ElementType} {inst : UInt8} {value : Octets} {children : List Element}
    (plain : groups.contains type = false) :
    prune groups (.group type inst value children) = .leaf type inst value := by
  rw [prune, plain, if_neg Bool.false_ne_true]

@[simp] theorem frame_prune (groups : Groups) (element : Element) :
    (prune groups element).frame = element.frame := by
  cases element with
  | leaf => rfl
  | group type inst value children =>
      cases grouped : groups.contains type with
      | true => rw [prune_group grouped]; rfl
      | false => rw [prune_plain grouped]; rfl

theorem Spells.prune (within : small.Within large) (spells : Spells large level octets elements) :
    Spells small level octets (elements.map (prune small)) := by
  -- a group that is none any more is a leaf at whatever depth it lies, and the groups inside the
  -- others still lie as deep as they did at most
  induction spells with
  | nil => exact .nil
  | leaf plain fits _ after => exact .leaf (within.plain plain) fits after
  | @group level type fourth value rest children elements _ fits _ _ inside after =>
      rw [List.map_cons]
      cases grouped : small.contains type with
      | true =>
          rw [prune_group grouped]
          exact .group grouped fits inside after
      | false =>
          rw [prune_plain grouped]
          exact .leaf grouped fits after

theorem decodeAll_prune (within : small.Within large)
    (decoded : decodeAll large octets = .ok elements) :
    decodeAll small octets = .ok (elements.map (prune small)) :=
  (Spells.prune within (forest_eq_ok.mp decoded)).forest_eq

end Element

end TunnelControl
