import TunnelControl.Element.Basic
import TunnelControl.Proofs.Result

/-!
Which octets are elements one after the other, and what is wrong with those that are not, is said
here without a reader.
-/

namespace TunnelControl

namespace Frame

variable {type : ElementType} {fourth : UInt8} {size : Nat} {value octets rest : Octets}

def spelled (type : ElementType) (fourth : UInt8) (value : Octets) : Octets :=
  type :: Octets.ofNat 2 value.length ++ fourth :: value

@[simp] theorem length_spelled : (spelled type fourth value).length = 4 + value.length := by
  simp [spelled]
  omega

theorem read_spelled (fits : value.length < 65536) (rest : Octets) :
    read (spelled type fourth value ++ rest) = (.ok ⟨type, fourth % 16, value⟩, rest) := by
  have size : (UInt16.ofNat value.length).toNat = value.length := Nat.mod_eq_of_lt fits
  exact read_eq_ok.mpr ⟨fits, fourth, rfl, by simp [spelled, Octets.ofU16, size]⟩

theorem read_short (few : octets.length < 4) :
    read octets = (.error (.tooShort 4 octets.length), octets) := by
  simp [read, Reader.bind_apply, Reader.need, few]

theorem read_overrun (announced : size < 65536) (exceeds : rest.length < size) :
    read (type :: Octets.ofNat 2 size ++ fourth :: rest) =
      (.error (.tooShort size rest.length), rest) := by
  have kept : (UInt16.ofNat size).toNat = size := Nat.mod_eq_of_lt announced
  have word : Octets.ofNat 2 size = Octets.ofU16 (UInt16.ofNat size) := by
    rw [Octets.ofU16, kept]
  have enough : 4 ≤ (type :: (Octets.ofU16 (UInt16.ofNat size) ++ fourth :: rest)).length := by
    simp [Octets.ofU16]
    omega
  unfold read
  rw [word, List.cons_append, Reader.bind_ok (Reader.need_of_le enough),
    Reader.bind_ok (Reader.u8_cons _ _), Reader.bind_ok (Reader.u16_append _ _),
    Reader.bind_ok (Reader.u8_cons _ _), kept]
  simp [Reader.bind_apply, Reader.need, exceeds]

end Frame

namespace Element

variable {groups : Groups} {level : Nat} {frame : Frame} {octets front rest written : Octets}
  {element : Element} {elements others : List Element} {error : Error}

theorem encode_eq_ok : element.encode = .ok written ↔
    element.value.length ≤ maxValue ∧ written = element.octets := by
  unfold encode
  split
  · next long => simp [Nat.not_le.mpr long]
  · next fits =>
      rw [Except.ok.injEq, eq_comm]
      exact (and_iff_right (Nat.not_lt.mp fits)).symm

theorem mapM_encode_eq_ok {parts : List Octets} :
    elements.mapM encode = .ok parts ↔
      (∀ element ∈ elements, element.value.length ≤ maxValue) ∧
        parts = elements.map Element.octets := by
  have aligned : List.Forall₂ (· = ·) parts (elements.map octets) ↔
      List.Forall₂ (· = octets ·) parts elements := List.forall₂_map_right_iff
  rw [List.forall₂_eq_eq_eq] at aligned
  simp only [Except.mapM_eq_ok, encode_eq_ok, List.forall₂_and_left, aligned]
  exact and_congr_right fun _ => ⟨List.Forall₂.flip, List.Forall₂.flip⟩

/-- Whether octets are these elements one after the other, with whatever stands in the upper half of
each fourth octet. At most `level` groups lie inside each other. -/
inductive Spells (groups : Groups) : (level : Nat) → Octets → List Element → Prop where
  | nil {level : Nat} : Spells groups level [] []
  | leaf {level : Nat} {type : ElementType} {fourth : UInt8} {value rest : Octets}
      {elements : List Element} (plain : groups.contains type = false)
      (fits : value.length ≤ maxValue) (after : Spells groups level rest elements) :
      Spells groups level (Frame.spelled type fourth value ++ rest)
        (.leaf type (fourth % 16) value :: elements)
  | group {level : Nat} {type : ElementType} {fourth : UInt8} {value rest : Octets}
      {children elements : List Element} (grouped : groups.contains type = true)
      (fits : value.length ≤ maxValue) (inside : Spells groups level value children)
      (after : Spells groups (level + 1) rest elements) :
      Spells groups (level + 1) (Frame.spelled type fourth value ++ rest)
        (.group type (fourth % 16) value children :: elements)

/-- What is wrong first with octets that are no elements, from left to right and with an element
before what is inside it. At most `level` groups may lie inside each other. -/
inductive Fault (groups : Groups) : (level : Nat) → Octets → Error → Prop where
  | header {level : Nat} {octets : Octets} (left : octets ≠ []) (few : octets.length < 4) :
      Fault groups level octets (.tooShort 4 octets.length)
  | value {level size : Nat} {type : ElementType} {fourth : UInt8} {rest : Octets}
      (announced : size ≤ maxValue) (exceeds : rest.length < size) :
      Fault groups level (type :: Octets.ofNat 2 size ++ fourth :: rest)
        (.tooShort size rest.length)
  | depth {type : ElementType} {fourth : UInt8} {value rest : Octets}
      (grouped : groups.contains type = true) (fits : value.length ≤ maxValue) :
      Fault groups 0 (Frame.spelled type fourth value ++ rest) (.malformed (.nestedTooDeep type))
  | inside {level : Nat} {type : ElementType} {fourth : UInt8} {value rest : Octets} {error : Error}
      (grouped : groups.contains type = true) (fits : value.length ≤ maxValue)
      (fault : Fault groups level value error) :
      Fault groups (level + 1) (Frame.spelled type fourth value ++ rest) error
  | after {level : Nat} {front rest : Octets} {elements : List Element} {error : Error}
      (sound : Spells groups level front elements) (fault : Fault groups level rest error) :
      Fault groups level (front ++ rest) error

theorem Spells.frame_leaf {type : ElementType} {value : Octets}
    (plain : groups.contains type = false) (fits : value.length ≤ maxValue) (fourth : UInt8) :
    Spells groups level (Frame.spelled type fourth value) [.leaf type (fourth % 16) value] := by
  have single : Spells groups level (Frame.spelled type fourth value ++ []) _ :=
    .leaf plain fits .nil
  rwa [List.append_nil] at single

theorem Spells.frame_group {type : ElementType} {value : Octets} {children : List Element}
    (grouped : groups.contains type = true) (fits : value.length ≤ maxValue)
    (inside : Spells groups level value children) (fourth : UInt8) :
    Spells groups (level + 1) (Frame.spelled type fourth value)
      [.group type (fourth % 16) value children] := by
  have single : Spells groups (level + 1) (Frame.spelled type fourth value ++ []) _ :=
    .group grouped fits inside .nil
  rwa [List.append_nil] at single

theorem header_cases (enough : 4 ≤ octets.length) :
    (∃ type fourth value rest, value.length ≤ maxValue ∧
      octets = Frame.spelled type fourth value ++ rest) ∨
    ∃ type size fourth rest, size ≤ maxValue ∧ rest.length < size ∧
      octets = type :: Octets.ofNat 2 size ++ fourth :: rest := by
  obtain ⟨type, high, low, fourth, tail, rfl⟩ :
      ∃ type high low fourth tail, octets = type :: high :: low :: fourth :: tail := by
    match octets, enough with
    | type :: high :: low :: fourth :: tail, _ => exact ⟨type, high, low, fourth, tail, rfl⟩
  have announced : Octets.toNat [high, low] ≤ maxValue :=
    Nat.le_of_lt_succ (Octets.toNat_lt [high, low])
  have word : Octets.ofNat 2 (Octets.toNat [high, low]) = [high, low] :=
    Octets.ofNat_toNat [high, low]
  by_cases exceeds : tail.length < Octets.toNat [high, low]
  · exact .inr ⟨type, _, fourth, tail, announced, exceeds, by rw [word]; rfl⟩
  · have length : (tail.take (Octets.toNat [high, low])).length = Octets.toNat [high, low] := by
      rw [List.length_take]
      omega
    refine .inl ⟨type, fourth, tail.take (Octets.toNat [high, low]),
      tail.drop (Octets.toNat [high, low]), by rw [length]; exact announced, ?_⟩
    simp [Frame.spelled, length, word]

theorem spells_or_fault (groups : Groups) (level : Nat) (octets : Octets) :
    (∃ elements, Spells groups level octets elements) ∨
      ∃ error, Fault groups level octets error := by
  by_cases few : octets.length < 4
  · by_cases none : octets = []
    · exact .inl ⟨[], none ▸ .nil⟩
    · exact .inr ⟨_, .header none few⟩
  rcases header_cases (Nat.not_lt.mp few) with
    ⟨type, fourth, value, rest, fits, same⟩ | ⟨type, size, fourth, rest, announced, exceeds, same⟩
  · -- a value may open fewer groups than what it stands in, and what follows a frame is shorter
    have shorter : rest.length < octets.length := by
      rw [same, List.length_append, Frame.length_spelled]
      omega
    rw [same]
    cases grouped : groups.contains type with
    | false =>
        rcases spells_or_fault groups level rest with ⟨elements, after⟩ | ⟨error, fault⟩
        · exact .inl ⟨_, .leaf grouped fits after⟩
        · exact .inr ⟨error, .after (.frame_leaf grouped fits fourth) fault⟩
    | true =>
        cases level with
        | zero => exact .inr ⟨_, .depth grouped fits⟩
        | succ level =>
            rcases spells_or_fault groups level value with ⟨children, inside⟩ | ⟨error, fault⟩
            · rcases spells_or_fault groups (level + 1) rest with
                ⟨elements, after⟩ | ⟨error, fault⟩
              · exact .inl ⟨_, .group grouped fits inside after⟩
              · exact .inr ⟨error, .after (.frame_group grouped fits inside fourth) fault⟩
            · exact .inr ⟨error, .inside grouped fits fault⟩
  · rw [same]
    exact .inr ⟨_, .value announced exceeds⟩
termination_by (level, octets.length)
decreasing_by all_goals omega

def spelledWith (fourth : UInt8) (element : Element) : Octets :=
  Frame.spelled element.type fourth element.value

theorem octets_of_inst (fourth : UInt8) (inst : element.inst = fourth % 16) :
    element.octets = Frame.spelled element.type (fourth % 16) element.value := by
  change Frame.spelled element.type (element.inst % 16) element.value = _
  rw [inst, Octets.mod_mod]

theorem map_octets_of_insts {fourths : List UInt8}
    (insts : fourths.map (· % 16) = elements.map inst) :
    elements.map Element.octets = List.zipWith spelledWith (fourths.map (· % 16)) elements := by
  rw [insts, List.zipWith_map_left, List.zipWith_self]
  apply List.map_congr_left
  intro element member
  have kept : element.inst ∈ fourths.map (· % 16) := insts ▸ List.mem_map_of_mem member
  obtain ⟨fourth, _, same⟩ := List.mem_map.mp kept
  rw [octets_of_inst fourth same.symm, same]
  rfl

namespace Spells

theorem append (first : Spells groups level front elements)
    (second : Spells groups level rest others) :
    Spells groups level (front ++ rest) (elements ++ others) := by
  induction first with
  | nil => exact second
  | leaf plain fits _ ih =>
      rw [List.append_assoc]
      exact .leaf plain fits (ih second)
  | group grouped fits inside _ _ ih =>
      rw [List.append_assoc]
      exact .group grouped fits inside (ih second)

theorem ofValue {type : ElementType} {value : Octets} (plain : groups.contains type = false)
    (fits : value.length ≤ maxValue) (inst : UInt8) :
    Spells groups level (Element.ofValue type inst value).octets [.ofValue type inst value] := by
  have single : Spells groups level _ _ := frame_leaf plain fits (inst % 16)
  rw [Octets.mod_mod] at single
  rw [octets_of_inst inst rfl]
  exact single

theorem ofGroup {type : ElementType} {value : Octets} {children : List Element}
    (grouped : groups.contains type = true) (fits : value.length ≤ maxValue) (inst : UInt8)
    (inside : Spells groups level value children) :
    Spells groups (level + 1) (Element.group type (inst % 16) value children).octets
      [.group type (inst % 16) value children] := by
  have single := frame_group grouped fits inside (inst % 16)
  rw [Octets.mod_mod] at single
  rw [octets_of_inst inst rfl]
  exact single

theorem each (spells : Spells groups level octets elements) (member : element ∈ elements) :
    Spells groups level element.octets [element] := by
  induction spells with
  | nil => cases member
  | leaf plain fits _ ih =>
      rcases List.mem_cons.mp member with rfl | member
      · exact .ofValue plain fits _
      · exact ih member
  | group grouped fits inside _ _ ih =>
      rcases List.mem_cons.mp member with rfl | member
      · exact .ofGroup grouped fits _ inside
      · exact ih member

theorem of_each (each : ∀ element ∈ elements, Spells groups level element.octets [element]) :
    Spells groups level (concat elements) elements := by
  induction elements with
  | nil => exact .nil
  | cons element elements ih =>
      have rest := ih fun other member => each other (List.mem_cons_of_mem _ member)
      exact (each element List.mem_cons_self).append rest

theorem totalSize_eq (spells : Spells groups level octets elements) :
    totalSize elements = octets.length := by
  induction spells with
  | nil => rfl
  | leaf _ _ _ ih => simp [Element.totalSize, size, Element.value, ih]
  | group _ _ _ _ _ ih => simp [Element.totalSize, size, Element.value, ih]

theorem fits (spells : Spells groups level octets elements) (member : element ∈ elements) :
    element.value.length ≤ maxValue := by
  have single := spells.each member
  generalize element.octets = own at single
  cases single with
  | leaf _ fits _ => exact fits
  | group _ fits _ _ => exact fits

theorem fourths (spells : Spells groups level octets elements) :
    ∃ fourths : List UInt8, fourths.map (· % 16) = elements.map inst ∧
      octets = (List.zipWith spelledWith fourths elements).flatten := by
  induction spells with
  | nil => exact ⟨[], rfl, rfl⟩
  | @leaf _ _ fourth _ _ _ _ _ _ ih =>
      obtain ⟨fourths, insts, rfl⟩ := ih
      exact ⟨fourth :: fourths, congrArg (fourth % 16 :: ·) insts, rfl⟩
  | @group _ _ fourth _ _ _ _ _ _ _ _ _ ih =>
      obtain ⟨fourths, insts, rfl⟩ := ih
      exact ⟨fourth :: fourths, congrArg (fourth % 16 :: ·) insts, rfl⟩

end Spells

section forest

variable {interpret : Frame → Except Error Element}

@[simp] theorem forest_nil : forest interpret [] = .ok [] := rfl

theorem forest_of_read (read : Frame.read octets = (.ok frame, rest)) :
    forest interpret octets = do
      let element ← interpret frame
      let elements ← forest interpret rest
      return element :: elements := by
  cases octets with
  | nil => cases read
  | cons octet octets =>
      unfold forest
      rw [Reader.all_cons Frame.read_advances, read]
      simp only [List.mapM_cons]
      cases interpret frame with
      | error error => rfl
      | ok element =>
          cases (Reader.all Frame.read rest).1.mapM interpret with
          | error error => rfl
          | ok elements => cases (Reader.all Frame.read rest).2 <;> rfl

theorem forest_of_fault (left : octets ≠ []) (read : Frame.read octets = (.error error, rest)) :
    forest interpret octets = .error error := by
  cases octets with
  | nil => exact absurd rfl left
  | cons octet octets =>
      unfold forest
      rw [Reader.all_cons Frame.read_advances, read]
      rfl

end forest

theorem ofFrame_plain (plain : groups.contains frame.type = false) :
    ofFrame groups level frame = .ok (leaf frame.type frame.inst frame.value) := by
  rw [ofFrame.eq_def]
  simp only [plain]
  rfl

theorem ofFrame_grouped (grouped : groups.contains frame.type = true) :
    ofFrame groups (level + 1) frame =
      (forest (ofFrame groups level) frame.value).map
        (group frame.type frame.inst frame.value) := by
  rw [ofFrame.eq_def]
  simp only [grouped, if_true]
  cases forest (ofFrame groups level) frame.value <;> rfl

theorem ofFrame_too_deep (grouped : groups.contains frame.type = true) :
    ofFrame groups 0 frame = .error (.malformed (.nestedTooDeep frame.type)) := by
  rw [ofFrame.eq_def]
  simp only [grouped, if_true]

theorem Spells.forest_append (spells : Spells groups level front elements) (rest : Octets) :
    forest (ofFrame groups level) (front ++ rest) =
      (forest (ofFrame groups level) rest).map (elements ++ ·) := by
  induction spells generalizing rest with
  | nil =>
      rw [List.nil_append]
      cases forest (ofFrame groups _) rest <;> rfl
  | @leaf level type fourth value after _ plain fits _ ih =>
      rw [List.append_assoc, forest_of_read (Frame.read_spelled (Nat.lt_succ_of_le fits) _),
        ofFrame_plain plain, ih]
      cases forest (ofFrame groups level) rest <;> rfl
  | @group level type fourth value after children _ grouped fits _ _ inside ih =>
      have owned : forest (ofFrame groups level) value = .ok children := by
        simpa [Except.map] using inside []
      rw [List.append_assoc, forest_of_read (Frame.read_spelled (Nat.lt_succ_of_le fits) _),
        ofFrame_grouped grouped, owned, ih]
      cases forest (ofFrame groups (level + 1)) rest <;> rfl

theorem Spells.forest_eq (spells : Spells groups level octets elements) :
    forest (ofFrame groups level) octets = .ok elements := by
  simpa [Except.map] using spells.forest_append []

theorem Spells.frame_eq (spells : Spells groups level octets [element]) (rest : Octets) :
    Frame.read (octets ++ rest) = (.ok element.frame, rest) ∧
      ofFrame groups level element.frame = .ok element := by
  cases spells with
  | leaf plain fits after =>
      cases after
      rw [List.append_nil]
      exact ⟨Frame.read_spelled (Nat.lt_succ_of_le fits) rest, ofFrame_plain plain⟩
  | group grouped fits inside after =>
      cases after
      rw [List.append_nil]
      refine ⟨Frame.read_spelled (Nat.lt_succ_of_le fits) rest, (ofFrame_grouped grouped).trans ?_⟩
      exact congrArg (Except.map _) inside.forest_eq

theorem Spells.read_append (spells : Spells groups maxDepth octets [element]) (rest : Octets) :
    read groups (octets ++ rest) = (.ok element, rest) := by
  obtain ⟨found, interpreted⟩ := spells.frame_eq rest
  rw [← interpreted]
  exact Reader.bind_ok found _

theorem Fault.forest_eq (fault : Fault groups level octets error) :
    forest (ofFrame groups level) octets = .error error := by
  induction fault with
  | header left few => exact forest_of_fault left (Frame.read_short few)
  | value announced exceeds =>
      exact forest_of_fault (by simp) (Frame.read_overrun (Nat.lt_succ_of_le announced) exceeds)
  | depth grouped fits =>
      rw [forest_of_read (Frame.read_spelled (Nat.lt_succ_of_le fits) _), ofFrame_too_deep grouped]
      rfl
  | inside grouped fits _ ih =>
      rw [forest_of_read (Frame.read_spelled (Nat.lt_succ_of_le fits) _), ofFrame_grouped grouped,
        ih]
      rfl
  | after sound _ ih =>
      rw [sound.forest_append, ih]
      rfl

theorem forest_eq_ok :
    forest (ofFrame groups level) octets = .ok elements ↔ Spells groups level octets elements := by
  refine ⟨fun accepted => ?_, Spells.forest_eq⟩
  rcases spells_or_fault groups level octets with ⟨others, spells⟩ | ⟨error, fault⟩
  · cases accepted.symm.trans spells.forest_eq
    exact spells
  · cases accepted.symm.trans fault.forest_eq

theorem forest_eq_error :
    forest (ofFrame groups level) octets = .error error ↔ Fault groups level octets error := by
  refine ⟨fun refused => ?_, Fault.forest_eq⟩
  rcases spells_or_fault groups level octets with ⟨elements, spells⟩ | ⟨other, fault⟩
  · cases refused.symm.trans spells.forest_eq
  · cases refused.symm.trans fault.forest_eq
    exact fault

/-- Octets are read exactly if they are elements one after the other, at most eight groups inside
each other, and then as these elements, of which all but the spare nibbles is written back. Of other
octets the first fault is reported. -/
theorem decodeAll_grammar (groups : Groups) (octets : Octets) :
    (∀ elements, decodeAll groups octets = .ok elements ↔
      Spells groups maxDepth octets elements) ∧
    (∀ elements, decodeAll groups octets = .ok elements →
      ∃ fourths : List UInt8, fourths.map (· % 16) = elements.map inst ∧
        octets = (List.zipWith spelledWith fourths elements).flatten ∧
        elements.mapM encode =
          .ok (List.zipWith spelledWith (fourths.map (· % 16)) elements)) ∧
    ∀ error, decodeAll groups octets = .error error ↔ Fault groups maxDepth octets error := by
  refine ⟨fun elements => forest_eq_ok, fun elements accepted => ?_, fun error => forest_eq_error⟩
  have spells : Spells groups maxDepth octets elements := forest_eq_ok.mp accepted
  obtain ⟨fourths, insts, same⟩ := spells.fourths
  refine ⟨fourths, insts, same, mapM_encode_eq_ok.mpr ⟨fun _ => spells.fits, ?_⟩⟩
  exact (map_octets_of_insts insts).symm

theorem decodeAll_grammar_spare :
    let octets : Octets := [93, 0, 5, 0xA1, 73, 0, 1, 0x70, 5]
    let elements : List Element := [.group 93 1 [73, 0, 1, 0x70, 5] [.leaf 73 0 [5]]]
    decodeAll .standard octets = .ok elements ∧ Spells .standard maxDepth octets elements ∧
      ∃ fourths : List UInt8, fourths.map (· % 16) = elements.map inst ∧
        octets = (List.zipWith spelledWith fourths elements).flatten ∧
        elements.mapM encode =
          .ok (List.zipWith spelledWith (fourths.map (· % 16)) elements) := by
  intro octets elements
  have accepted : decodeAll .standard octets = .ok elements := by rfl
  obtain ⟨accepts, writes, _⟩ := decodeAll_grammar .standard octets
  exact ⟨accepted, (accepts elements).mp accepted, writes elements accepted⟩

end Element

end TunnelControl
