import Mathlib.Data.List.Perm.Basic
import TunnelControl.Message.Body

namespace TunnelControl

variable {elements : List Element}

namespace Slot

theorem find?_append_eraseP_perm (wanted : Element → Bool) (elements : List Element) :
    ((elements.find? wanted).toList ++ elements.eraseP wanted).Perm elements := by
  induction elements with
  | nil => exact .nil
  | cons element rest ih =>
      cases accepted : wanted element with
      | true => simp [accepted]
      | false =>
          rw [List.find?_cons_of_neg (by simp [accepted]),
            List.eraseP_cons_of_neg (by simp [accepted])]
          exact List.perm_middle.trans (ih.cons element)

theorem take_perm (slot : Slot) (elements : List Element) :
    ((slot.take elements).1 ++ (slot.take elements).2).Perm elements := by
  unfold take
  split
  · rw [List.partition_eq_filter_filter]
    exact List.filter_append_perm _ _
  · exact find?_append_eraseP_perm _ _

theorem take_again {slot : Slot} {rest : List Element}
    (left : rest.Perm (slot.take elements).2) :
    slot.take ((slot.take elements).1 ++ rest) = ((slot.take elements).1, rest) := by
  unfold take at *
  split at left
  · next repeated =>
      rw [if_pos repeated, if_pos repeated]
      simp only [List.partition_eq_filter_filter] at left ⊢
      have refused : ∀ element ∈ rest, slot.accepts element = false := by
        intro element member
        simpa using (List.mem_filter.mp (left.mem_iff.mp member)).2
      have none : rest.filter slot.accepts = [] := by
        simpa [List.filter_eq_nil_iff] using refused
      have all : rest.filter (not ∘ slot.accepts) = rest := by
        simpa [List.filter_eq_self] using refused
      rw [List.filter_append, List.filter_append, none, all]
      simp
  · next single =>
      rw [if_neg single, if_neg single]
      cases found : elements.find? slot.accepts with
      | some first =>
          have accepted := List.find?_some found
          simp [accepted]
      | none =>
          rw [List.find?_eq_none] at found
          have refused : ∀ element ∈ rest, ¬ slot.accepts element = true := by
            intro element member
            exact found element (List.mem_of_mem_eraseP (left.mem_iff.mp member))
          rw [Option.toList_none, List.nil_append, List.find?_eq_none.mpr refused,
            List.eraseP_of_forall_not refused]
          rfl

end Slot

namespace Filled

theorem fill_perm (layout : List Slot) (elements : List Element) :
    ((fill layout elements).1.flatMap Filled.elements ++ (fill layout elements).2).Perm
      elements := by
  induction layout generalizing elements with
  | nil => exact .refl _
  | cons slot layout ih =>
      simp only [fill, List.flatMap_cons, List.append_assoc]
      exact ((ih _).append_left _).trans (slot.take_perm elements)

theorem fill_again (layout : List Slot) (elements : List Element) :
    fill layout ((fill layout elements).1.flatMap Filled.elements ++ (fill layout elements).2) =
      fill layout elements := by
  induction layout generalizing elements with
  | nil => rfl
  | cons slot layout ih =>
      simp only [fill, List.flatMap_cons, List.append_assoc]
      rw [Slot.take_again (fill_perm layout _), ih]

end Filled

namespace Body

theorem elements_ofElements_perm (type : UInt8) (elements : List Element) :
    (ofElements type elements).elements.Perm elements := by
  unfold ofElements
  split
  · exact .refl _
  · split
    · exact .refl _
    · exact Filled.fill_perm _ _

theorem ofElements_elements (type : UInt8) (elements : List Element) :
    ofElements type (ofElements type elements).elements = ofElements type elements := by
  cases known : MessageType.ofCode? type with
  | none => simp only [ofElements, known, Body.elements, slots, additional, List.flatMap_nil,
      List.nil_append]
  | some message =>
      cases settled : message.layout? with
      | none => simp only [ofElements, known, settled, Body.elements, slots, additional,
          List.flatMap_nil, List.nil_append]
      | some layout =>
          simp only [ofElements, known, settled, Body.elements, slots, additional]
          rw [Filled.fill_again]

theorem mem_elements_ofElements {type : UInt8} {element : Element} :
    element ∈ (ofElements type elements).elements ↔ element ∈ elements :=
  (elements_ofElements_perm type elements).mem_iff

end Body

end TunnelControl
