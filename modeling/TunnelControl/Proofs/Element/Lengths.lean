import TunnelControl.Proofs.Element.Content

namespace TunnelControl.Element

variable {groups : Groups} {octets rest : Octets} {element : Element} {elements : List Element}
  {received : Groups → Octets → Prop}

/-- Whether octets are these elements one after the other, where the two octets behind each type
are the number of octets of the value, inside groups too. -/
inductive Measured : Octets → List Element → Prop where
  | nil : Measured [] []
  | leaf {type : ElementType} {inst fourth : UInt8} {size value rest : Octets}
      {elements : List Element} (width : size.length = 2)
      (announced : Octets.toNat size = value.length) (low : fourth % 16 = inst)
      (after : Measured rest elements) :
      Measured (type :: size ++ fourth :: value ++ rest) (.leaf type inst value :: elements)
  | group {type : ElementType} {inst fourth : UInt8} {size value rest : Octets}
      {children elements : List Element} (width : size.length = 2)
      (announced : Octets.toNat size = value.length) (low : fourth % 16 = inst)
      (inside : Measured value children) (after : Measured rest elements) :
      Measured (type :: size ++ fourth :: value ++ rest)
        (.group type inst value children :: elements)

theorem announced_of_fits {value : Octets} (fits : value.length ≤ maxValue) :
    Octets.toNat (Octets.ofNat 2 value.length) = value.length :=
  (Octets.toNat_ofNat 2 _).trans (Nat.mod_eq_of_lt (Nat.lt_succ_of_le fits))

theorem length_of_fourths {fourths : List UInt8}
    (insts : fourths.map (· % 16) = elements.map inst) :
    (List.zipWith spelledWith fourths elements).flatten.length = totalSize elements := by
  induction elements generalizing fourths with
  | nil => rw [List.zipWith_nil_right]; rfl
  | cons element elements ih =>
      obtain ⟨fourth, others, rfl, _, insts⟩ := List.map_eq_cons_iff.mp insts
      rw [List.zipWith_cons_cons, List.flatten_cons, List.length_append, ih insts, spelledWith,
        Frame.length_spelled, totalSize, size]

theorem measured_of_each {fourths : List UInt8}
    (insts : fourths.map (· % 16) = elements.map inst)
    (each : ∀ element ∈ elements, ∀ fourth, fourth % 16 = element.inst → ∀ {rest others},
      Measured rest others → Measured (spelledWith fourth element ++ rest) (element :: others)) :
    Measured (List.zipWith spelledWith fourths elements).flatten elements := by
  induction elements generalizing fourths with
  | nil =>
      rw [List.zipWith_nil_right]
      exact .nil
  | cons element elements ih =>
      obtain ⟨fourth, others, rfl, low, insts⟩ := List.map_eq_cons_iff.mp insts
      rw [List.zipWith_cons_cons, List.flatten_cons]
      apply each element List.mem_cons_self fourth low
      exact ih insts fun other member => each other (List.mem_cons_of_mem _ member)

theorem Loose.measured (loose : Loose element) (fits : element.value.length ≤ maxValue)
    {fourth : UInt8} (low : fourth % 16 = element.inst) (after : Measured rest elements) :
    Measured (spelledWith fourth element ++ rest) (element :: elements) := by
  induction loose generalizing fourth rest elements with
  | leaf => exact .leaf (Octets.length_ofNat ..) (announced_of_fits fits) low after
  | @group type inst value children _ repeats _ ih =>
      obtain ⟨fourths, insts, rfl⟩ := repeats
      refine .group (Octets.length_ofNat ..) (announced_of_fits fits) low ?_ after
      apply measured_of_each insts
      intro child member fourth low rest others after
      have whole := length_of_fourths insts
      have within := value_le_totalSize member
      exact ih child member (Nat.le_trans (whole ▸ within) fits) low after

theorem measured_concat (loose : ∀ element ∈ elements, Loose element)
    (fits : ∀ element ∈ elements, element.value.length ≤ maxValue) :
    Measured (concat elements) elements := by
  obtain ⟨fourths, insts, same⟩ := repeats_concat loose
  rw [same]
  apply measured_of_each insts
  intro element member fourth low rest others after
  exact (loose element member).measured (fits element member) low after

theorem obtained_of_decodeAll (read : decodeAll groups octets = .ok elements) :
    ∀ element ∈ elements, Obtained (fun _ _ => True) element := by
  intro element member
  have alone := (forest_eq_ok.mp read : Spells groups maxDepth octets elements).each member
  exact .read trivial (alone.read_append [])

end TunnelControl.Element
