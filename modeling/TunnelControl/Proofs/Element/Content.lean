import TunnelControl.Proofs.Element.Editing

namespace TunnelControl.Element

variable {groups : Groups} {level : Nat} {octets value rest : Octets} {element : Element}
  {elements children : List Element} {received : Groups → Octets → Prop}

/-- Elements that an application can get hold of, while it reads none but the octets that are
`received`, with the groups it reads them with. -/
inductive Obtained (received : Groups → Octets → Prop) : Element → Prop where
  | leaf (type : ElementType) (inst : UInt8) (value : Octets) :
      Obtained received (.ofValue type inst value)
  | group {children : List Element} (type : ElementType) (inst : UInt8)
      (inside : ∀ child ∈ children, Obtained received child) :
      Obtained received (.ofChildren type inst children)
  | read {groups : Groups} {octets rest : Octets} {element : Element}
      (arrived : received groups octets) (found : read groups octets = (.ok element, rest)) :
      Obtained received element
  | edit {edit : Edit} {element : Element} (earlier : Obtained received element)
      (added : ∀ child, edit = .add child → Obtained received child) :
      Obtained received (edit.apply element).2
  | withInst {element : Element} (inst : UInt8) (earlier : Obtained received element) :
      Obtained received (element.withInst inst)
  | child {element child : Element} (earlier : Obtained received element)
      (member : child ∈ element.children) : Obtained received child

def Repeats (octets : Octets) (elements : List Element) : Prop :=
  ∃ fourths : List UInt8, fourths.map (· % 16) = elements.map inst ∧
    octets = (List.zipWith spelledWith fourths elements).flatten

inductive Loose : Element → Prop where
  | leaf {type : ElementType} {inst : UInt8} {value : Octets} (low : inst % 16 = inst) :
      Loose (.leaf type inst value)
  | group {type : ElementType} {inst : UInt8} {value : Octets} {children : List Element}
      (low : inst % 16 = inst) (repeats : Repeats value children)
      (inside : ∀ child ∈ children, Loose child) : Loose (.group type inst value children)

theorem Loose.inst_mod (loose : Loose element) : element.inst % 16 = element.inst := by
  cases loose with
  | leaf low => exact low
  | group low => exact low

theorem Loose.inside (loose : Loose element) : ∀ child ∈ element.children, Loose child := by
  cases loose with
  | leaf => simp [children]
  | group _ _ inside => exact inside

theorem repeats_concat (loose : ∀ element ∈ elements, Loose element) :
    Repeats (concat elements) elements := by
  have low : (elements.map inst).map (· % 16) = elements.map inst := by
    rw [List.map_map]
    exact List.map_congr_left fun element member => (loose element member).inst_mod
  refine ⟨elements.map inst, low, ?_⟩
  have written := map_octets_of_insts low
  rw [low] at written
  exact congrArg List.flatten written

theorem Loose.of_spells (spells : Spells groups level octets elements) :
    ∀ element ∈ elements, Loose element := by
  induction spells with
  | nil => simp
  | leaf _ _ _ ih => exact List.forall_mem_cons.mpr ⟨.leaf (Octets.mod_mod ..), ih⟩
  | group _ _ inside _ loose ih =>
      exact List.forall_mem_cons.mpr ⟨.group (Octets.mod_mod ..) inside.fourths loose, ih⟩

theorem Loose.edit {edit : Edit} (loose : Loose element)
    (added : ∀ child, edit = .add child → Loose child) : Loose (edit.apply element).2 := by
  have inside := Edit.forall_children loose.inside added
  rcases edit.apply_cases element with same | ⟨_, _, _, _, others, rfl, rebuilt⟩
  · rwa [same]
  · rw [rebuilt] at inside ⊢
    exact .group loose.inst_mod (repeats_concat inside) inside

theorem Loose.of_obtained (obtained : Obtained received element) : Loose element := by
  induction obtained with
  | leaf type inst => exact .leaf (Octets.mod_mod inst 16)
  | group type inst _ inside => exact .group (Octets.mod_mod inst 16) (repeats_concat inside) inside
  | read _ found =>
      obtain ⟨_, _, spells⟩ := spells_of_read found
      exact of_spells spells _ List.mem_cons_self
  | edit _ _ loose added => exact loose.edit added
  | withInst inst _ loose =>
      cases loose with
      | leaf _ => exact .leaf (Octets.mod_mod inst 16)
      | group _ repeats inside => exact .group (Octets.mod_mod inst 16) repeats inside
  | child _ member loose => exact loose.inside _ member

inductive Exact : Element → Prop where
  | leaf (type : ElementType) (inst : UInt8) (value : Octets) : Exact (.leaf type inst value)
  | group {type : ElementType} {inst : UInt8} {value : Octets} {children : List Element}
      (holds : (∀ child ∈ children, child.value.length ≤ maxValue) →
        ∃ parts, children.mapM encode = .ok parts ∧ value = parts.flatten)
      (inside : ∀ child ∈ children, Exact child) : Exact (.group type inst value children)

theorem Exact.inside (exact : Exact element) : ∀ child ∈ element.children, Exact child := by
  cases exact with
  | leaf => simp [children]
  | group _ inside => exact inside

theorem Exact.of_concat {type : ElementType} {inst : UInt8}
    (inside : ∀ child ∈ children, Exact child) :
    Exact (.group type inst (concat children) children) :=
  .group (fun fits => ⟨_, mapM_encode_eq_ok.mpr ⟨fits, rfl⟩, rfl⟩) inside

theorem exact_group_iff {type : ElementType} {inst : UInt8}
    (fits : ∀ child ∈ children, child.value.length ≤ maxValue) :
    Exact (.group type inst value children) ↔
      value = concat children ∧ ∀ child ∈ children, Exact child := by
  constructor
  · rintro (_ | ⟨holds, inside⟩)
    obtain ⟨parts, written, same⟩ := holds fits
    obtain ⟨_, rfl⟩ := mapM_encode_eq_ok.mp written
    exact ⟨same, inside⟩
  · rintro ⟨rfl, inside⟩
    exact .of_concat inside

theorem Exact.edit {edit : Edit} (exact : Exact element)
    (added : ∀ child, edit = .add child → Exact child) : Exact (edit.apply element).2 := by
  have inside := Edit.forall_children exact.inside added
  rcases edit.apply_cases element with same | ⟨_, _, _, _, others, _, rebuilt⟩
  · rwa [same]
  · rw [rebuilt] at inside ⊢
    exact .of_concat inside

/-- Whether octets are elements one after the other in which no spare bit is set, at any depth. -/
inductive Clear (groups : Groups) : Octets → Prop where
  | nil : Clear groups []
  | leaf {type : ElementType} {fourth : UInt8} {value rest : Octets}
      (plain : groups.contains type = false) (fits : value.length ≤ maxValue)
      (clear : fourth < 16) (after : Clear groups rest) :
      Clear groups (Frame.spelled type fourth value ++ rest)
  | group {type : ElementType} {fourth : UInt8} {value rest : Octets}
      (grouped : groups.contains type = true) (fits : value.length ≤ maxValue)
      (clear : fourth < 16) (inside : Clear groups value) (after : Clear groups rest) :
      Clear groups (Frame.spelled type fourth value ++ rest)

section spelled

variable {type : ElementType} {fourth : UInt8}

theorem spelled_append_inj {otherType : ElementType} {otherFourth : UInt8}
    {otherValue otherRest : Octets} (fits : value.length ≤ maxValue)
    (otherFits : otherValue.length ≤ maxValue)
    (same : Frame.spelled type fourth value ++ rest =
      Frame.spelled otherType otherFourth otherValue ++ otherRest) :
    type = otherType ∧ fourth = otherFourth ∧ value = otherValue ∧ rest = otherRest := by
  have read : Frame.read (Frame.spelled type fourth value ++ rest) = _ :=
    Frame.read_spelled (Nat.lt_succ_of_le fits) rest
  rw [same, Frame.read_spelled (Nat.lt_succ_of_le otherFits)] at read
  simp only [Prod.mk.injEq, Except.ok.injEq, Frame.mk.injEq] at read
  obtain ⟨⟨rfl, _, rfl⟩, rfl⟩ := read
  have front := List.append_cancel_right same
  simp only [Frame.spelled, List.cons_append, List.cons.injEq, List.append_cancel_left_eq] at front
  exact ⟨rfl, front.2.1, rfl, rfl⟩

theorem clear_spelled_iff (fits : value.length ≤ maxValue) :
    Clear groups (Frame.spelled type fourth value ++ rest) ↔
      fourth < 16 ∧ (groups.contains type = true → Clear groups value) ∧ Clear groups rest := by
  constructor
  · intro clear
    generalize same : Frame.spelled type fourth value ++ rest = octets at clear
    cases clear with
    | nil => cases same
    | leaf plain otherFits clear after =>
        obtain ⟨rfl, rfl, rfl, rfl⟩ := spelled_append_inj fits otherFits same
        exact ⟨clear, fun grouped => by simp [plain] at grouped, after⟩
    | group _ otherFits clear inside after =>
        obtain ⟨rfl, rfl, rfl, rfl⟩ := spelled_append_inj fits otherFits same
        exact ⟨clear, fun _ => inside, after⟩
  · rintro ⟨clear, inside, after⟩
    cases grouped : groups.contains type with
    | false => exact .leaf grouped fits clear after
    | true => exact .group grouped fits clear (inside grouped) after

theorem low_iff : fourth % 16 = fourth ↔ fourth < 16 := by
  rw [← UInt8.toNat_inj, UInt8.toNat_mod, UInt8.lt_iff_toNat_lt]
  exact Nat.mod_eq_iff_lt (by decide)

theorem spelled_eq_concat_iff (fits : value.length ≤ maxValue)
    (frame : element.frame = ⟨type, fourth % 16, value⟩) :
    Frame.spelled type fourth value ++ rest = concat (element :: elements) ↔
      fourth < 16 ∧ rest = concat elements := by
  have written : concat (element :: elements) =
      Frame.spelled type (fourth % 16 % 16) value ++ concat elements := by
    change element.frame.octets ++ _ = _
    rw [frame]
    rfl
  rw [written, Octets.mod_mod, ← low_iff]
  constructor
  · intro same
    obtain ⟨_, low, _, after⟩ := spelled_append_inj fits fits same
    exact ⟨low.symm, after⟩
  · rintro ⟨low, rfl⟩
    rw [low]

end spelled

theorem Clear.iff_of_spells (spells : Spells groups level octets elements) :
    Clear groups octets ↔ octets = concat elements ∧ ∀ element ∈ elements, Exact element := by
  induction spells with
  | nil => simp [Clear.nil, concat]
  | @leaf _ type fourth value rest elements plain fits _ ih =>
      have written : Frame.spelled type fourth value ++ rest =
          concat (.leaf type (fourth % 16) value :: elements) ↔ _ := spelled_eq_concat_iff fits rfl
      rw [clear_spelled_iff fits, ih, List.forall_mem_cons, written]
      simp [plain, Exact.leaf, and_assoc]
  | @group _ type fourth value rest children elements grouped fits inside _ ihInside ih =>
      have written : Frame.spelled type fourth value ++ rest =
          concat (.group type (fourth % 16) value children :: elements) ↔ _ :=
        spelled_eq_concat_iff fits rfl
      rw [clear_spelled_iff fits, ih, List.forall_mem_cons, written, ihInside,
        exact_group_iff fun _ => inside.fits]
      simp only [grouped, forall_const]
      constructor
      · rintro ⟨clear, inner, same, after⟩
        exact ⟨⟨clear, same⟩, inner, after⟩
      · rintro ⟨⟨clear, same⟩, inner, after⟩
        exact ⟨clear, inner, same, after⟩

theorem exact_iff_of_read (found : read groups octets = (.ok element, rest)) :
    Exact element ↔ (element.isGroup = true → Clear groups element.value) := by
  obtain ⟨_, _, spells⟩ := spells_of_read found
  cases spells with
  | leaf => exact iff_of_true (.leaf _ _ _) nofun
  | group _ _ inside =>
      rw [exact_group_iff fun _ => inside.fits, ← Clear.iff_of_spells inside]
      exact ⟨fun clear _ => clear, fun clear => clear rfl⟩

/-- Groups hold the octets of their children but for spare bits. All of them hold exactly what is
written of their children, at every depth, if and only if no spare bit is set inside the groups that
are received. -/
theorem exact_iff_clear (received : Groups → Octets → Prop) :
    (∀ element, Obtained received element → Loose element) ∧
    ((∀ element, Obtained received element → Exact element) ↔
      ∀ groups octets element rest, received groups octets →
        read groups octets = (.ok element, rest) → element.isGroup = true →
          Clear groups element.value) := by
  refine ⟨fun _ => .of_obtained, fun exact groups octets element rest arrived found => ?_,
    fun clear element obtained => ?_⟩
  · exact (exact_iff_of_read found).mp (exact element (.read arrived found))
  · induction obtained with
    | leaf type inst value => exact .leaf type _ value
    | group type inst _ inside => exact .of_concat inside
    | read arrived found =>
        exact (exact_iff_of_read found).mpr (clear _ _ _ _ arrived found)
    | edit _ _ exact added => exact exact.edit added
    | withInst inst _ exact =>
        cases exact with
        | leaf type _ value => exact .leaf type _ value
        | group holds inside => exact .group holds inside
    | child _ member exact => exact exact.inside _ member

theorem exact_iff_clear_outside :
    let received (groups : Groups) (octets : Octets) : Prop :=
      groups = .standard ∧ octets = [93, 0, 5, 0xF1, 73, 0, 1, 0, 5]
    let element : Element := .group .bearerContext 1 [73, 0, 1, 0, 5] [.leaf .ebi 0 [5]]
    Obtained received element ∧ Clear .standard element.value ∧
      (∀ element, Obtained received element → Exact element) ∧ Exact element := by
  intro received element
  have arrived : received .standard [93, 0, 5, 0xF1, 73, 0, 1, 0, 5] := ⟨rfl, rfl⟩
  have obtained : Obtained received element := @Obtained.read _ _ _ [] _ arrived rfl
  have clear : Clear .standard element.value :=
    @Clear.leaf .standard ElementType.ebi 0 [5] [] (by decide) (by decide) (by decide) .nil
  have exact : ∀ element, Obtained received element → Exact element := by
    apply (exact_iff_clear received).2.mpr
    rintro _ _ other rest ⟨rfl, rfl⟩ found _
    cases found
    exact clear
  exact ⟨obtained, clear, exact, exact element obtained⟩

/-- A bearer context that is received with spare bits set in front of the bearer's identity holds
other octets than are written of it. -/
theorem not_exact_spare :
    let received (groups : Groups) (octets : Octets) : Prop :=
      groups = .standard ∧ octets = [93, 0, 5, 0, 73, 0, 1, 0x70, 5]
    let element : Element := .group .bearerContext 0 [73, 0, 1, 0x70, 5] [.leaf .ebi 0 [5]]
    Obtained received element ∧ element.value = [73, 0, 1, 0x70, 5] ∧
      (∀ child ∈ element.children, child.value.length ≤ maxValue) ∧
      element.children.mapM encode = .ok [[73, 0, 1, 0, 5]] ∧ ¬ Exact element := by
  intro received element
  have arrived : received .standard [93, 0, 5, 0, 73, 0, 1, 0x70, 5] := ⟨rfl, rfl⟩
  have fits : ∀ child ∈ element.children, child.value.length ≤ maxValue := by decide
  refine ⟨@Obtained.read _ _ _ [] _ arrived rfl, rfl, fits, rfl, fun exact => ?_⟩
  have same := ((exact_group_iff fits).mp exact).1
  exact absurd same (by decide)

end TunnelControl.Element
