import Mathlib.Data.List.Induction
import Mathlib.Logic.Relation
import TunnelControl.Message.Basic
import TunnelControl.Proofs.Message.Body

/-!
Elements that arrive one after the other are each offered to the slots in turn. As no two slots wait
for the same key, what a slot holds in the end can be told from the list of all elements alone:
those of its key, or the first of them.
-/

namespace TunnelControl

variable {elements : List Element} {element : Element}

namespace Element

def key (element : Element) : ElementType × UInt8 := (element.type, element.inst)

theorem hasKey_iff {type : ElementType} {inst : UInt8} :
    element.hasKey type inst = true ↔ element.key = (type, inst) := by
  simp [hasKey, key]

end Element

namespace Slot

variable {slot other : Slot}

theorem accepts_iff : slot.accepts element = true ↔ element.key = slot.key :=
  Element.hasKey_iff

def share (slot : Slot) (elements : List Element) : List Element :=
  if slot.repeated then elements.filter slot.accepts else (elements.find? slot.accepts).toList

theorem take_fst (slot : Slot) (elements : List Element) :
    (slot.take elements).1 = slot.share elements := by
  unfold take share
  split
  · rw [List.partition_eq_filter_filter]
  · rfl

theorem accepts_of_mem_share (member : element ∈ slot.share elements) :
    slot.accepts element = true := by
  unfold share at member
  split at member
  · exact (List.mem_filter.mp member).2
  · exact List.find?_some (Option.mem_toList.mp member)

theorem share_congr {others : List Element}
    (same : elements.filter slot.accepts = others.filter slot.accepts) :
    slot.share elements = slot.share others := by
  unfold share
  rw [← List.head?_filter, ← List.head?_filter, same]

def takes (slot : Slot) (earlier : List Element) (element : Element) : Bool :=
  slot.accepts element && (slot.repeated || !earlier.any slot.accepts)

theorem isEmpty_share (single : slot.repeated = false) :
    (slot.share elements).isEmpty = !elements.any slot.accepts := by
  simp only [share, single, Bool.false_eq_true, if_false]
  cases found : elements.find? slot.accepts with
  | none =>
      rw [List.find?_eq_none] at found
      simpa using found
  | some first =>
      have member := List.mem_of_find?_eq_some found
      have accepted := List.find?_some found
      simpa using ⟨first, member, accepted⟩

theorem take_append_singleton (slot : Slot) (elements : List Element) (element : Element) :
    slot.take (elements ++ [element]) =
      if slot.takes elements element then
        ((slot.take elements).1 ++ [element], (slot.take elements).2)
      else ((slot.take elements).1, (slot.take elements).2 ++ [element]) := by
  unfold take takes
  cases repeated : slot.repeated with
  | true =>
      cases accepted : slot.accepts element <;> simp [List.partition_eq_filter_filter, accepted]
  | false =>
      cases found : elements.any slot.accepts with
      | true =>
          obtain ⟨first, member, accepted⟩ := List.any_eq_true.mp found
          have some := List.find?_isSome.mpr ⟨first, member, accepted⟩
          simp [List.find?_append, Option.or_of_isSome some,
            List.eraseP_append_left accepted _ member]
      | false =>
          have refused : ∀ other ∈ elements, ¬ slot.accepts other = true := by simpa using found
          have none : elements.find? slot.accepts = none := List.find?_eq_none.mpr refused
          have all := List.eraseP_of_forall_not refused
          cases accepted : slot.accepts element <;>
            simp [none, all, List.eraseP_append_right _ refused, accepted]

theorem filter_eraseP {wanted keep : Element → Bool}
    (apart : ∀ element, wanted element = true → keep element = false) (elements : List Element) :
    (elements.eraseP wanted).filter keep = elements.filter keep := by
  induction elements with
  | nil => rfl
  | cons element rest ih =>
      cases accepted : wanted element with
      | true => simp [accepted, apart element accepted]
      | false =>
          rw [List.eraseP_cons_of_neg (by simp [accepted]), List.filter_cons, List.filter_cons, ih]

theorem filter_take_snd {keep : Element → Bool}
    (apart : ∀ element, slot.accepts element = true → keep element = false)
    (elements : List Element) : (slot.take elements).2.filter keep = elements.filter keep := by
  unfold take
  split
  · rw [List.partition_eq_filter_filter, List.filter_filter]
    apply List.filter_congr
    intro element _
    cases accepted : slot.accepts element with
    | true => simp [accepted, apart element accepted]
    | false => simp [accepted]
  · exact filter_eraseP apart elements

theorem find?_append_filter_eraseP (wanted : Element → Bool) (elements : List Element) :
    (elements.find? wanted).toList ++ (elements.eraseP wanted).filter wanted =
      elements.filter wanted := by
  induction elements with
  | nil => rfl
  | cons element rest ih =>
      cases accepted : wanted element with
      | true => simp [accepted]
      | false =>
          rw [List.find?_cons_of_neg (by simp [accepted]),
            List.eraseP_cons_of_neg (by simp [accepted]),
            List.filter_cons_of_neg (by simp [accepted]),
            List.filter_cons_of_neg (by simp [accepted]), ih]

theorem filter_take (slot : Slot) (elements : List Element) (key : ElementType × UInt8) :
    ((slot.take elements).1 ++ (slot.take elements).2).filter (·.key = key) =
      elements.filter (·.key = key) := by
  have accepted_key {element} : slot.accepts element = decide (element.key = slot.key) := by
    rw [Bool.eq_iff_iff, accepts_iff, decide_eq_true_iff]
  rw [List.filter_append]
  by_cases own : key = slot.key
  · subst own
    simp only [← accepted_key]
    unfold take
    split
    · simp [List.partition_eq_filter_filter, List.filter_filter]
    · rw [← find?_append_filter_eraseP slot.accepts elements]
      congr 1
      cases found : elements.find? slot.accepts with
      | none => rfl
      | some first => simp [List.find?_some found]
  · have apart (element : Element) (accepted : slot.accepts element = true) :
        decide (element.key = key) = false := by
      rw [accepts_iff.mp accepted]
      simpa using Ne.symm own
    have foreign : ∀ element ∈ (slot.take elements).1, ¬ decide (element.key = key) = true := by
      intro element member
      rw [take_fst] at member
      rw [apart element (accepts_of_mem_share member)]
      exact Bool.false_ne_true
    rw [filter_take_snd apart, List.filter_eq_nil_iff.mpr foreign, List.nil_append]

end Slot

namespace Filled

variable {layout : List Slot}

def takes (filled : Filled) (element : Element) : Bool :=
  filled.slot.accepts element && (filled.slot.repeated || filled.elements.isEmpty)

def offer (element : Element) : List Filled → Option (List Filled)
  | [] => none
  | filled :: rest =>
      if filled.takes element then
        some ({ filled with elements := filled.elements ++ [element] } :: rest)
      else (offer element rest).map (filled :: ·)

def arrive (held : List Filled × List Element) (element : Element) :
    List Filled × List Element :=
  match offer element held.1 with
  | some slots => (slots, held.2)
  | none => (held.1, held.2 ++ [element])

theorem isSome_offer (element : Element) (slots : List Filled) :
    (offer element slots).isSome = slots.any (·.takes element) := by
  induction slots with
  | nil => rfl
  | cons filled rest ih =>
      unfold offer
      split
      · next taken => simp [taken]
      · next refused => simp [refused, ih]

theorem takes_share (slot : Slot) (elements : List Element) (element : Element) :
    (⟨slot, slot.share elements⟩ : Filled).takes element = slot.takes elements element := by
  unfold takes Slot.takes
  cases repeated : slot.repeated with
  | true => rfl
  | false => rw [Slot.isEmpty_share repeated]

theorem fill_append_singleton (layout : List Slot) (elements : List Element) (element : Element) :
    fill layout (elements ++ [element]) = arrive (fill layout elements) element := by
  induction layout generalizing elements with
  | nil => rfl
  | cons slot layout ih =>
      have same := takes_share slot elements element
      simp only [fill, Slot.take_append_singleton]
      cases taken : slot.takes elements element with
      | true =>
          rw [taken, ← Slot.take_fst] at same
          simp [arrive, offer, same]
      | false =>
          rw [taken, ← Slot.take_fst] at same
          simp only [Bool.false_eq_true, if_false, ih]
          simp only [arrive, offer, same, Bool.false_eq_true, if_false]
          cases offer element (fill layout (slot.take elements).2).1 <;> rfl

theorem fill_nil (layout : List Slot) : fill layout [] = (layout.map (⟨·, []⟩), []) := by
  induction layout with
  | nil => rfl
  | cons slot layout ih =>
      have nothing : slot.take [] = ([], []) := by
        unfold Slot.take
        split <;> rfl
      simp only [fill, nothing, ih, List.map_cons]

theorem fill_eq_foldl (layout : List Slot) (elements : List Element) :
    fill layout elements = elements.foldl arrive (layout.map (⟨·, []⟩), []) := by
  induction elements using List.reverseRecOn with
  | nil => exact fill_nil layout
  | append_singleton earlier element ih =>
      rw [fill_append_singleton, ih, List.foldl_append]
      rfl

theorem fill_fst (distinct : (layout.map Slot.key).Nodup) (elements : List Element) :
    (fill layout elements).1 = layout.map fun slot => ⟨slot, slot.share elements⟩ := by
  induction layout generalizing elements with
  | nil => rfl
  | cons slot layout ih =>
      obtain ⟨fresh, distinct⟩ := List.nodup_cons.mp distinct
      simp only [fill, List.map_cons, Slot.take_fst, ih distinct]
      congr 1
      apply List.map_congr_left
      intro other member
      have apart (element : Element) (accepted : slot.accepts element = true) :
          other.accepts element = false := by
        rw [Bool.eq_false_iff, ne_eq, Slot.accepts_iff, Slot.accepts_iff.mp accepted]
        exact fun same => fresh (same ▸ List.mem_map_of_mem member)
      rw [Slot.share_congr (Slot.filter_take_snd apart elements)]

theorem filter_fill (layout : List Slot) (elements : List Element) (key : ElementType × UInt8) :
    ((fill layout elements).1.flatMap Filled.elements ++ (fill layout elements).2).filter
        (·.key = key) =
      elements.filter (·.key = key) := by
  induction layout generalizing elements with
  | nil => rfl
  | cons slot layout ih =>
      simp only [fill, List.flatMap_cons, List.append_assoc]
      rw [List.filter_append, ih, ← List.filter_append, Slot.filter_take]

def remaining (layout : List Slot) (elements : List Element) : List Element :=
  (elements.zipIdx.filter fun (element, position) =>
    !layout.any (·.takes (elements.take position) element)).map Prod.fst

theorem remaining_append_singleton (layout : List Slot) (elements : List Element)
    (element : Element) :
    remaining layout (elements ++ [element]) =
      remaining layout elements ++
        if layout.any (·.takes elements element) then [] else [element] := by
  unfold remaining
  rw [List.zipIdx_append, List.filter_append, List.map_append]
  congr 1
  · congr 1
    apply List.filter_congr
    intro (other, position) member
    have bound := (List.mem_zipIdx' member).1
    simp only [List.take_append_of_le_length (Nat.le_of_lt bound)]
  · cases taken : layout.any (·.takes elements element) <;> simp [taken]

theorem fill_snd (distinct : (layout.map Slot.key).Nodup) (elements : List Element) :
    (fill layout elements).2 = remaining layout elements := by
  induction elements using List.reverseRecOn with
  | nil => rw [fill_nil]; rfl
  | append_singleton earlier element ih =>
      have taken := isSome_offer element (fill layout earlier).1
      rw [fill_fst distinct, List.any_map, ← fill_fst distinct] at taken
      simp only [Function.comp_def, takes_share] at taken
      rw [remaining_append_singleton, ← taken, fill_append_singleton, ← ih]
      unfold arrive
      cases offer element (fill layout earlier).1 <;> simp

end Filled

namespace Body

def layout (type : UInt8) : List Slot :=
  ((MessageType.ofCode? type).bind MessageType.layout?).getD []

theorem layout_distinct (type : UInt8) : ((layout type).map Slot.key).Nodup := by
  unfold layout
  cases MessageType.ofCode? type with
  | none => exact List.nodup_nil
  | some known =>
      rw [Option.bind_some]
      cases settled : known.layout? with
      | none => exact List.nodup_nil
      | some slots => exact MessageType.layout?_keys settled

theorem fill_layout (type : UInt8) (elements : List Element) :
    Filled.fill (layout type) elements =
      ((ofElements type elements).slots, (ofElements type elements).additional) := by
  unfold layout ofElements
  cases MessageType.ofCode? type with
  | none => rfl
  | some known =>
      simp only [Option.bind_some]
      cases known.layout? <;> rfl

inductive Swap : List Element → List Element → Prop where
  | neighbours (front back : List Element) {left right : Element} (apart : left.key ≠ right.key) :
      Swap (front ++ left :: right :: back) (front ++ right :: left :: back)

theorem Swap.filter_eq {before after : List Element} (swap : Swap before after)
    (key : ElementType × UInt8) : before.filter (·.key = key) = after.filter (·.key = key) := by
  cases swap with
  | @neighbours front back left right apart =>
      simp only [List.filter_append, List.append_cancel_left_eq]
      by_cases first : left.key = key
      · have second : right.key ≠ key := fun second => apart (first.trans second.symm)
        simp [first, second]
      · simp [List.filter_cons, first]

theorem filter_eq_of_swaps {others : List Element}
    (swaps : Relation.ReflTransGen Swap elements others) (key : ElementType × UInt8) :
    elements.filter (·.key = key) = others.filter (·.key = key) := by
  induction swaps with
  | refl => rfl
  | tail _ swap ih => exact ih.trans (swap.filter_eq key)

structure Bucketed (type : UInt8) (elements : List Element) (body : Body) : Prop where
  offered : (body.slots, body.additional) =
    elements.foldl Filled.arrive ((layout type).map (⟨·, []⟩), [])
  layout : body.slots.map Filled.slot = layout type
  single : ∀ filled ∈ body.slots, filled.slot.repeated = false →
    filled.elements = (elements.find? filled.slot.accepts).toList
  repeated : ∀ filled ∈ body.slots, filled.slot.repeated = true →
    filled.elements = elements.filter filled.slot.accepts
  additional : body.additional = Filled.remaining (Body.layout type) elements
  perm : body.elements.Perm elements
  order : ∀ key, body.elements.filter (·.key = key) = elements.filter (·.key = key)
  found : ∀ header type inst, ({ header, body } : Message).find? type inst =
    elements.find? (Element.hasKey type inst)
  moved : ∀ others, Relation.ReflTransGen Swap elements others →
    (ofElements type others).slots = body.slots
  again : ofElements type body.elements = body

theorem slots_ofElements (type : UInt8) (elements : List Element) :
    (ofElements type elements).slots =
      (layout type).map fun slot => ⟨slot, slot.share elements⟩ := by
  rw [← Filled.fill_fst (layout_distinct type), fill_layout]

theorem elements_of_mem_slots {type : UInt8} {filled : Filled}
    (member : filled ∈ (ofElements type elements).slots) :
    filled.elements = filled.slot.share elements := by
  rw [slots_ofElements] at member
  obtain ⟨slot, _, rfl⟩ := List.mem_map.mp member
  rfl

theorem filter_elements (type : UInt8) (elements : List Element) (key : ElementType × UInt8) :
    (ofElements type elements).elements.filter (·.key = key) =
      elements.filter (·.key = key) := by
  have filtered := Filled.filter_fill (layout type) elements key
  rw [fill_layout] at filtered
  exact filtered

theorem hasKey_eq (type : ElementType) (inst : UInt8) :
    Element.hasKey type inst = fun element => decide (element.key = (type, inst)) := by
  funext element
  rw [Bool.eq_iff_iff, Element.hasKey_iff, decide_eq_true_iff]

/-- Each element of a message is found where the layout has a place for it, the first of its key or
all of them, and the others are kept in the order of their arrival. -/
theorem bucketed_ofElements (type : UInt8) (elements : List Element) :
    Bucketed type elements (ofElements type elements) := by
  have filled := fill_layout type elements
  constructor
  case offered => rw [← filled, Filled.fill_eq_foldl]
  case layout => simp [slots_ofElements, Function.comp_def]
  case single =>
    intro slot member single
    rw [elements_of_mem_slots member, Slot.share, single]
    rfl
  case repeated =>
    intro slot member repeated
    rw [elements_of_mem_slots member, Slot.share, if_pos repeated]
  case additional => rw [← Filled.fill_snd (layout_distinct type), filled]
  case perm => exact elements_ofElements_perm type elements
  case order => exact filter_elements type elements
  case found =>
    intro header wanted inst
    show (ofElements type elements).elements.find? _ = _
    rw [← List.head?_filter, ← List.head?_filter, hasKey_eq, filter_elements]
  case moved =>
    intro others swaps
    rw [slots_ofElements, slots_ofElements]
    apply List.map_congr_left
    intro slot _
    have same := filter_eq_of_swaps swaps slot.key
    rw [← hasKey_eq] at same
    rw [Slot.share_congr same]
  case again => exact ofElements_elements type elements

example :
    let ebi (inst number : UInt8) : Element := .ofValue .ebi inst [number]
    let body := ofElements MessageType.deleteBearerRequest.code
      [ebi 1 5, ebi 0 6, ebi 2 7, ebi 1 8, ebi 0 9]
    body.elements = [ebi 0 6, ebi 1 5, ebi 1 8, ebi 2 7, ebi 0 9] := rfl

end Body

end TunnelControl
