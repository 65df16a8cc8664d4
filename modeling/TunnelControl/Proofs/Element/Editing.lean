import TunnelControl.Proofs.Element.Nesting

namespace TunnelControl.Element

variable {groups : Groups} {level : Nat} {octets : Octets} {element : Element}
  {elements children : List Element}

/-! ## Edits -/

inductive Edit where
  | add (child : Element)
  | remove (type : ElementType) (inst : UInt8)

namespace Edit

def apply : Edit → Element → Except Error (Option Element) × Element
  | add child, element =>
      match addChild child element with
      | .ok after => (.ok none, after)
      | .error error => (.error error, element)
  | remove type inst, element =>
      match removeChild type inst element with
      | .ok (removed, after) => (.ok removed, after)
      | .error error => (.error error, element)

def run (edits : List Edit) (element : Element) : Element :=
  edits.foldl (fun element edit => (edit.apply element).2) element

inductive Does (element : Element) : Edit → Option Element → Element → Prop where
  | append {child after : Element} (children : after.children = element.children ++ [child]) :
      Does element (.add child) none after
  | erase {type : ElementType} {inst : UInt8} {front back : List Element} {removed after : Element}
      (found : element.children = front ++ removed :: back) (key : removed.hasKey type inst = true)
      (first : ∀ child ∈ front, child.hasKey type inst = false)
      (children : after.children = front ++ back) :
      Does element (.remove type inst) (some removed) after
  | miss {type : ElementType} {inst : UInt8}
      (absent : ∀ child ∈ element.children, child.hasKey type inst = false) :
      Does element (.remove type inst) none element

variable {type : ElementType} {inst : UInt8} {value : Octets}

theorem apply_leaf (edit : Edit) : edit.apply (leaf type inst value) =
    (.error (.malformed (.notGrouped type)), leaf type inst value) := by
  cases edit <;> rfl

theorem apply_group (edit : Edit) (type : ElementType) (inst : UInt8) (value : Octets)
    (children : List Element) :
    (∃ removed others,
      edit.apply (group type inst value children) =
        (.ok removed, group type inst (concat others) others) ∧
      edit.Does (group type inst value children) removed
        (group type inst (concat others) others) ∧
      ∀ child ∈ others, child ∈ children ∨ edit = .add child) ∨
    (edit.apply (group type inst value children) = (.ok none, group type inst value children) ∧
      edit.Does (group type inst value children) none (group type inst value children)) := by
  cases edit with
  | add child =>
      refine .inl ⟨none, children ++ [child], rfl, .append rfl, fun other member => ?_⟩
      rcases List.mem_append.mp member with member | member
      · exact .inl member
      · exact .inr (congrArg add (List.mem_singleton.mp member).symm)
  | remove childType childInst =>
      cases found : children.find? (hasKey childType childInst) with
      | none =>
          have absent : ∀ child ∈ children, child.hasKey childType childInst = false := by
            simpa using List.find?_eq_none.mp found
          refine .inr ⟨?_, .miss absent⟩
          simp only [apply, removeChild, found]
      | some removed =>
          obtain ⟨key, front, back, rfl, first⟩ := List.find?_eq_some_iff_append.mp found
          have first : ∀ child ∈ front, child.hasKey childType childInst = false := by
            simpa using first
          have erased : (front ++ removed :: back).eraseP (hasKey childType childInst) =
              front ++ back := by
            rw [List.eraseP_append_right _ (by simpa using first), List.eraseP_cons_of_pos key]
          refine .inl ⟨some removed, front ++ back, ?_, .erase rfl key first rfl, ?_⟩
          · simp only [apply, removeChild, found, erased]
          · intro child member
            refine .inl ?_
            rcases List.mem_append.mp member with member | member
            · exact List.mem_append_left _ member
            · exact List.mem_append_right _ (List.mem_cons_of_mem _ member)

theorem does_of_isGroup (edit : Edit) (isGroup : element.isGroup = true) :
    ∃ removed after, edit.apply element = (.ok removed, after) ∧
      edit.Does element removed after := by
  cases element with
  | leaf => cases isGroup
  | group type inst value children =>
      rcases edit.apply_group type inst value children with
        ⟨removed, others, applied, does, _⟩ | ⟨applied, does⟩
      · exact ⟨removed, _, applied, does⟩
      · exact ⟨none, _, applied, does⟩

theorem apply_cases (edit : Edit) (element : Element) :
    (edit.apply element).2 = element ∨
      ∃ type inst value children others, element = group type inst value children ∧
        (edit.apply element).2 = group type inst (concat others) others := by
  cases element with
  | leaf type inst value => exact .inl (congrArg Prod.snd (apply_leaf edit))
  | group type inst value children =>
      rcases edit.apply_group type inst value children with ⟨_, others, applied, _⟩ | ⟨applied, _⟩
      · exact .inr ⟨type, inst, value, children, others, rfl, congrArg Prod.snd applied⟩
      · exact .inl (congrArg Prod.snd applied)

theorem forall_children {property : Element → Prop} {edit : Edit}
    (kept : ∀ child ∈ element.children, property child)
    (added : ∀ child, edit = .add child → property child) :
    ∀ child ∈ (edit.apply element).2.children, property child := by
  cases element with
  | leaf type inst value => rwa [apply_leaf]
  | group type inst value children =>
      rcases edit.apply_group type inst value children with
        ⟨_, others, applied, _, origin⟩ | ⟨applied, _⟩
      · rw [applied]
        exact fun child member => (origin child member).elim (kept child) (added child)
      · rwa [applied]

end Edit

/-! ## What is read of a value -/

theorem Spells.depths_le (spells : Spells groups level octets elements) :
    depths elements ≤ level := by
  induction spells with
  | nil => exact Nat.zero_le _
  | leaf _ _ _ ih => exact Nat.max_le.mpr ⟨Nat.zero_le _, ih⟩
  | group _ _ _ _ inside ih => exact Nat.max_le.mpr ⟨Nat.succ_le_succ inside, ih⟩

theorem Spells.relevel {other : Nat} (spells : Spells groups level octets elements)
    (shallow : depths elements ≤ other) : Spells groups other octets elements := by
  induction spells generalizing other with
  | nil => exact .nil
  | leaf plain fits _ ih =>
      exact .leaf plain fits (ih (Nat.le_trans (Nat.le_max_right _ _) shallow))
  | group grouped fits _ _ inside ih =>
      obtain ⟨deep, after⟩ := Nat.max_le.mp shallow
      obtain ⟨other, rfl⟩ := Nat.exists_eq_add_one.mpr (Nat.lt_of_lt_of_le (Nat.succ_pos _) deep)
      exact .group grouped fits (inside (Nat.le_of_succ_le_succ deep)) (ih after)

structure Owned (groups : Groups) (value : Octets) (children : List Element) : Prop where
  length : value.length = totalSize children
  spells : value.length ≤ maxValue → ∀ level, depths children ≤ level →
    Spells groups level value children

inductive Sound (groups : Groups) : Element → Prop where
  | leaf {type : ElementType} {inst : UInt8} {value : Octets}
      (plain : groups.contains type = false) (low : inst % 16 = inst) :
      Sound groups (.leaf type inst value)
  | group {type : ElementType} {inst : UInt8} {value : Octets} {children : List Element}
      (grouped : groups.contains type = true) (low : inst % 16 = inst)
      (owned : Owned groups value children) (inside : ∀ child ∈ children, Sound groups child) :
      Sound groups (.group type inst value children)

namespace Sound

theorem spells (sound : Sound groups element) (fits : element.value.length ≤ maxValue)
    (shallow : depth element ≤ level) : Spells groups level element.octets [element] := by
  cases sound with
  | @leaf type inst value plain low =>
      have single : Spells groups level _ _ := Spells.ofValue plain fits inst
      rwa [ofValue, low] at single
  | @group type inst value children grouped low owned _ =>
      obtain ⟨level, rfl⟩ := Nat.exists_eq_add_one.mpr (Nat.lt_of_lt_of_le (Nat.succ_pos _) shallow)
      have inside := owned.spells fits level (Nat.le_of_succ_le_succ shallow)
      have single := Spells.ofGroup grouped fits inst inside
      rwa [low] at single

theorem of_spells (spells : Spells groups level octets elements) :
    ∀ element ∈ elements, Sound groups element := by
  induction spells with
  | nil => simp
  | leaf plain _ _ ih => exact List.forall_mem_cons.mpr ⟨.leaf plain (Octets.mod_mod ..), ih⟩
  | group grouped _ inside _ sound ih =>
      refine List.forall_mem_cons.mpr ⟨.group grouped (Octets.mod_mod ..) ⟨?_, ?_⟩ sound, ih⟩
      · exact inside.totalSize_eq.symm
      · exact fun _ level shallow => inside.relevel shallow

end Sound

theorem Owned.concat (sound : ∀ child ∈ children, Sound groups child) :
    Owned groups (concat children) children := by
  refine ⟨length_concat children, fun fits level shallow => Spells.of_each fun child member => ?_⟩
  -- the children fit because their parent does
  exact (sound child member).spells (fits_of_concat fits member)
    (depths_le_iff.mp shallow child member)

theorem spells_of_read {rest : Octets} (found : read groups octets = (.ok element, rest)) :
    ∃ front, octets = front ++ rest ∧ Spells groups maxDepth front [element] := by
  obtain ⟨frame, _, framed, same⟩ := Reader.bind_eq_ok.mp found
  obtain ⟨interpreted, rfl⟩ := Prod.mk.inj same
  obtain ⟨fits, spare, inst, rfl⟩ := Frame.read_eq_ok.mp framed
  refine ⟨_, rfl, forest_eq_ok.mp ?_⟩
  have alone : Frame.read _ = (.ok frame, []) := Frame.read_eq_ok.mpr
    ⟨fits, spare, inst, (List.append_nil _).symm⟩
  rw [forest_of_read alone, interpreted]
  rfl

/-! ## Elements that are edited -/

/-- Elements that suit a set of groups: read with it, or built as leaves and groups just as their
types are grouped, and whatever is made of such elements. -/
inductive Suits (groups : Groups) : Element → Prop where
  | read {octets rest : Octets} {element : Element}
      (found : read groups octets = (.ok element, rest)) : Suits groups element
  | leaf {type : ElementType} (plain : groups.contains type = false) (inst : UInt8)
      (value : Octets) : Suits groups (.ofValue type inst value)
  | group {type : ElementType} {children : List Element} (grouped : groups.contains type = true)
      (inst : UInt8) (inside : ∀ child ∈ children, Suits groups child) :
      Suits groups (.ofChildren type inst children)
  | edit {edit : Edit} {element : Element} (earlier : Suits groups element)
      (added : ∀ child, edit = .add child → Suits groups child) :
      Suits groups (edit.apply element).2
  | withInst {element : Element} (inst : UInt8) (earlier : Suits groups element) :
      Suits groups (element.withInst inst)
  | child {element child : Element} (earlier : Suits groups element)
      (member : child ∈ element.children) : Suits groups child

structure Kept (groups : Groups) (element : Element) : Prop where
  isGroup : element.isGroup = true
  owned : Owned groups element.value element.children
  sound : ∀ child ∈ element.children, Sound groups child

theorem Kept.of_sound {type : ElementType} {inst : UInt8}
    (sound : ∀ child ∈ children, Sound groups child) :
    Kept groups (.group type inst (concat children) children) :=
  ⟨rfl, .concat sound, sound⟩

theorem Kept.edit {edit : Edit} (kept : Kept groups element)
    (added : ∀ child, edit = .add child → Sound groups child) :
    Kept groups (edit.apply element).2 := by
  have sound := Edit.forall_children kept.sound added
  rcases edit.apply_cases element with same | ⟨_, _, _, _, others, _, rebuilt⟩
  · rwa [same]
  · rw [rebuilt] at sound ⊢
    exact .of_sound sound

theorem Sound.edit {edit : Edit} (sound : Sound groups element)
    (added : ∀ child, edit = .add child → Sound groups child) :
    Sound groups (edit.apply element).2 := by
  cases sound with
  | leaf plain low => exact (Edit.apply_leaf edit) ▸ .leaf plain low
  | @group type inst value children grouped low owned inside =>
      have kept : Kept groups (edit.apply (.group type inst value children)).2 :=
        Kept.edit ⟨rfl, owned, inside⟩ added
      rcases edit.apply_cases (.group type inst value children) with
        same | ⟨_, _, _, _, others, own, rebuilt⟩
      · rw [same]
        exact .group grouped low owned inside
      · cases own
        rw [rebuilt] at kept ⊢
        exact .group grouped low kept.owned kept.sound

theorem Sound.of_suits (suits : Suits groups element) : Sound groups element := by
  induction suits with
  | read found =>
      obtain ⟨_, _, spells⟩ := spells_of_read found
      exact of_spells spells _ List.mem_cons_self
  | leaf plain inst => exact .leaf plain (Octets.mod_mod inst 16)
  | group grouped inst _ inside =>
      exact .group grouped (Octets.mod_mod inst 16) (.concat inside) inside
  | edit _ _ sound added => exact sound.edit added
  | withInst inst _ sound =>
      cases sound with
      | leaf plain _ => exact .leaf plain (Octets.mod_mod inst 16)
      | group grouped _ owned inside => exact .group grouped (Octets.mod_mod inst 16) owned inside
  | child _ member sound =>
      cases sound with
      | leaf => cases member
      | group _ _ _ inside => exact inside _ member

/-! ## Sequences of edits -/

structure Fitting (groups : Groups) (child : Element) : Prop where
  suits : Suits groups child
  shallow : depth child ≤ maxDepth

/-- A group to start from, which was read, or built of children that suit the groups. -/
inductive Opened (groups : Groups) : Element → Prop where
  | read {octets rest : Octets} {element : Element}
      (found : read groups octets = (.ok element, rest)) (isGroup : element.isGroup = true) :
      Opened groups element
  | built {children : List Element} (type : ElementType) (inst : UInt8)
      (inside : ∀ child ∈ children, Fitting groups child) :
      Opened groups (.ofChildren type inst children)

theorem Opened.kept (opened : Opened groups element) :
    Kept groups element ∧ depths element.children ≤ maxDepth := by
  cases opened with
  | read found isGroup =>
      obtain ⟨_, _, spells⟩ := spells_of_read found
      have shallow : depth element ≤ maxDepth :=
        depths_le_iff.mp spells.depths_le element List.mem_cons_self
      cases Sound.of_suits (.read found) with
      | leaf => cases isGroup
      | group _ _ owned inside => exact ⟨⟨rfl, owned, inside⟩, Nat.le_of_succ_le shallow⟩
  | built type inst inside =>
      refine ⟨.of_sound fun child member => .of_suits (inside child member).suits, ?_⟩
      exact depths_le_iff.mpr fun child member => (inside child member).shallow

theorem Kept.run {edits : List Edit} (kept : Kept groups element)
    (shallow : depths element.children ≤ maxDepth)
    (added : ∀ child, .add child ∈ edits → Fitting groups child) :
    Kept groups (Edit.run edits element) ∧ depths (Edit.run edits element).children ≤ maxDepth := by
  induction edits generalizing element with
  | nil => exact ⟨kept, shallow⟩
  | cons edit edits ih =>
      have first (child : Element) (adds : edit = .add child) : Fitting groups child :=
        added child (adds ▸ List.mem_cons_self)
      apply ih (kept.edit fun child adds => .of_suits (first child adds).suits)
      · exact depths_le_iff.mpr (Edit.forall_children (depths_le_iff.mp shallow)
          fun child adds => (first child adds).shallow)
      · exact fun child member => added child (List.mem_cons_of_mem _ member)

/-- After any edits of a group its value is as long as its children, and they are read from it as
long as it fits a frame; a further edit does to the children what it is to do to a list, and leaves
the whole group alone if there is nothing to take out. Edits of leaves are refused. -/
theorem editing_children (groups : Groups) :
    (∀ element, Opened groups element →
      ∀ edits : List Edit, (∀ child, .add child ∈ edits → Fitting groups child) →
        let reached := Edit.run edits element
        reached.value.length = totalSize reached.children ∧
        (reached.value.length ≤ maxValue →
          decodeAll groups reached.value = .ok reached.children) ∧
        ∀ edit : Edit, ∃ removed after,
          edit.apply reached = (.ok removed, after) ∧ edit.Does reached removed after) ∧
    ∀ element : Element, element.isGroup = false → ∀ edit : Edit,
      edit.apply element = (.error (.malformed (.notGrouped element.type)), element) := by
  constructor
  · intro element opened edits added reached
    obtain ⟨kept, shallow⟩ := opened.kept
    obtain ⟨kept, shallow⟩ := kept.run shallow added
    refine ⟨kept.owned.length, fun fits => ?_, fun edit => ?_⟩
    · exact (kept.owned.spells fits maxDepth shallow).forest_eq
    · exact edit.does_of_isGroup kept.isGroup
  · intro element isLeaf edit
    cases element with
    | leaf type inst value => exact Edit.apply_leaf edit
    | group => cases isLeaf

theorem editing_children_spare :
    let element : Element := .group .bearerContext 1 [73, 0, 1, 0x70, 5] [.leaf .ebi 0 [5]]
    let nested : Element := .ofChildren .pdnConnection 2 []
    let kept := Edit.run [.remove .ebi 1] element
    let grown := Edit.run [.remove .ebi 1, .add nested] element
    Opened .standard element ∧ Fitting .standard nested ∧
      kept = element ∧ decodeAll .standard kept.value = .ok kept.children ∧
      grown.value = [73, 0, 1, 0, 5, 109, 0, 0, 2] ∧
      grown.value.length = totalSize grown.children ∧
      decodeAll .standard grown.value = .ok grown.children ∧
      (∃ removed after, Edit.apply (.remove .ebi 0) grown = (.ok removed, after) ∧
        Edit.Does grown (.remove .ebi 0) removed after) ∧
      Edit.apply (.add nested) (.ofValue .ebi 0 [5]) =
        (.error (.malformed (.notGrouped ElementType.ebi)), .ofValue .ebi 0 [5]) := by
  intro element nested kept grown
  have opened : Opened .standard element :=
    @Opened.read _ [93, 0, 5, 0xA1, 73, 0, 1, 0x70, 5] [] element rfl rfl
  have fitting : Fitting .standard nested := ⟨.group (by decide) 2 (by simp), by decide⟩
  obtain ⟨edited, refused⟩ := editing_children .standard
  obtain ⟨_, before, _⟩ := edited element opened [.remove .ebi 1] (by simp)
  obtain ⟨length, after, further⟩ :=
    edited element opened [.remove .ebi 1, .add nested] (by simpa using fitting)
  exact ⟨opened, fitting, rfl, before (by decide), by decide, length, after (by decide),
    further (.remove .ebi 0), refused (.ofValue .ebi 0 [5]) rfl (.add nested)⟩

end TunnelControl.Element
