import TunnelControl.Proofs.Element.Lengths
import TunnelControl.Proofs.Message.Accounting

namespace TunnelControl

variable {groups : Groups} {octets : Octets} {received : Groups → Octets → Prop}

namespace Message

variable {message : Message}

theorem mem_elements_ofElements {type : UInt8} {teid sequence : UInt32} {element : Element}
    {elements : List Element} :
    element ∈ (ofElements type teid sequence elements).elements ↔ element ∈ elements :=
  Body.mem_elements_ofElements

theorem fits_of_encodedLength (fits : message.encodedLength ≤ maxLength) :
    ∀ element ∈ message.elements, element.value.length ≤ Element.maxValue := by
  intro element member
  have inside := Element.value_le_totalSize member
  rw [encodedLength] at fits
  exact Nat.le_trans inside (Nat.le_trans (Nat.le_add_left _ _) fits)

theorem exists_marshal_iff :
    (∃ octets, message.marshal = .ok octets) ↔ message.encodedLength ≤ maxLength := by
  constructor
  · rintro ⟨octets, written⟩
    exact (marshal_eq_ok.mp written).1
  · exact fun fits => ⟨_, marshal_eq_ok.mpr ⟨fits, fits_of_encodedLength fits, rfl⟩⟩

theorem lengthField_of_marshal (written : message.marshal = .ok octets) :
    lengthField octets = message.encodedLength := by
  obtain ⟨fits, _, rfl⟩ := marshal_eq_ok.mp written
  rw [lengthField_of_read (Header.read_encode _ _)]
  exact Nat.mod_eq_of_lt (Nat.lt_succ_of_le fits)

theorem measured_of_marshal (obtained : ∀ element ∈ message.elements,
    Element.Obtained received element) (written : message.marshal = .ok octets) :
    Element.Measured (octets.drop message.header.size) message.elements := by
  obtain ⟨_, fits, rfl⟩ := marshal_eq_ok.mp written
  have front : { message.header with
      length := UInt16.ofNat message.encodedLength }.encode.length = message.header.size :=
    Header.length_encode _
  rw [List.drop_left' front]
  exact Element.measured_concat (fun element member => .of_obtained (obtained element member)) fits

theorem obtained_of_parse (parsed : parse groups octets = .ok message) :
    ∀ element ∈ message.elements, Element.Obtained (fun _ _ => True) element := by
  by_cases version : message.header.version = Header.supportedVersion
  · exact Element.obtained_of_decodeAll (received_of_parse parsed version).spelled.forest_eq
  · rw [elements_of_foreign parsed version]
    exact List.forall_mem_nil _

/-- A message can be written if and only if its length fits in 16 bits, and an element if and only
if that of its value does. What is written has that length and announces it, and so does every
element in it, at any depth, whatever sizes there were while it was built, read and edited. The
elements of messages that are read are among those meant here. -/
theorem lengths_announced (received : Groups → Octets → Prop) :
    (∀ message : Message, (∀ element ∈ message.elements, Element.Obtained received element) →
      ((∃ octets, message.marshal = .ok octets) ↔ message.encodedLength ≤ 65535) ∧
      ∀ octets, message.marshal = .ok octets →
        octets.length = 4 + message.encodedLength ∧ lengthField octets = message.encodedLength ∧
        Element.Measured (octets.drop message.header.size) message.elements) ∧
    (∀ element, Element.Obtained received element →
      ((∃ octets, element.encode = .ok octets) ↔ element.value.length ≤ 65535) ∧
      ∀ octets, element.encode = .ok octets →
        octets.length = 4 + element.value.length ∧ Element.Measured octets [element]) ∧
    ∀ groups octets message, parse groups octets = .ok message →
      ∀ element ∈ message.elements, Element.Obtained (fun _ _ => True) element := by
  refine ⟨fun message obtained => ⟨exists_marshal_iff, fun octets written => ?_⟩,
    fun element obtained => ⟨?_, fun octets written => ?_⟩,
    fun groups octets message => obtained_of_parse⟩
  · exact ⟨length_written written, lengthField_of_marshal written,
      measured_of_marshal obtained written⟩
  · simp only [Element.encode_eq_ok, exists_and_left, exists_eq, and_true, Element.maxValue]
  · obtain ⟨fits, rfl⟩ := Element.encode_eq_ok.mp written
    have alone := Element.measured_concat
      (List.forall_mem_singleton.mpr (.of_obtained obtained)) (List.forall_mem_singleton.mpr fits)
    exact ⟨element.length_octets, by simpa [Element.concat] using alone⟩

theorem lengths_announced_removed :
    let long : Element := .ofValue 255 0 (List.replicate 70000 0)
    let context : Element := .ofChildren .bearerContext 1 [.ofValue .ebi 0 [5], long]
    let outer : Element := .ofChildren .pdnConnection 2 [context]
    let edited : Element := (Element.Edit.apply (.remove 255 0) context).2
    let message := ofElements 32 1 7 [.ofChildren .pdnConnection 2 [edited]]
    let octets : Octets :=
      [72, 32, 0, 21, 0, 0, 0, 1, 0, 0, 7, 0, 109, 0, 9, 2, 93, 0, 5, 1, 73, 0, 1, 0, 5]
    let received (_ : Groups) (_ : Octets) : Prop := False
    (¬ ∃ octets, context.encode = .ok octets) ∧ (¬ ∃ octets, outer.encode = .ok octets) ∧
      (∀ element ∈ message.elements, Element.Obtained received element) ∧
      message.marshal = .ok octets ∧ octets.length = 4 + message.encodedLength ∧
      lengthField octets = message.encodedLength ∧
      Element.Measured (octets.drop message.header.size) message.elements := by
  -- of the long value nothing matters but its length
  have long_length : (List.replicate 70000 (0 : UInt8)).length = 70000 := List.length_replicate
  generalize List.replicate 70000 (0 : UInt8) = value at long_length ⊢
  intro long context outer edited message octets received
  obtain ⟨messages, single, _⟩ := lengths_announced received
  have context_obtained : Element.Obtained received context := by
    refine .group .bearerContext 1 fun child member => ?_
    rw [List.mem_pair] at member
    rcases member with rfl | rfl
    · exact .leaf .ebi 0 [5]
    · exact .leaf 255 0 _
  have outer_obtained : Element.Obtained received outer :=
    .group _ _ (List.forall_mem_singleton.mpr context_obtained)
  have context_length : context.value.length = 70009 := by
    apply (Element.length_concat _).trans
    simp [Element.totalSize, Element.size, Element.ofValue, Element.value, long, long_length]
  have outer_length : outer.value.length = 70013 := by
    apply (Element.length_concat _).trans
    rw [Element.totalSize, Element.size, context_length, Element.totalSize]
  have edited_obtained : Element.Obtained received edited := by
    apply Element.Obtained.edit context_obtained
    intro child adds
    cases adds
  have obtained : ∀ element ∈ message.elements, Element.Obtained received element := by
    intro element member
    rw [List.mem_singleton.mp (mem_elements_ofElements.mp member)]
    exact .group _ _ (List.forall_mem_singleton.mpr edited_obtained)
  have pruned : edited = .ofChildren .bearerContext 1 [.ofValue .ebi 0 [5]] := rfl
  have written : message.marshal = .ok octets := by
    unfold message
    rw [pruned]
    decide +zetaReduce
  refine ⟨?_, ?_, obtained, written, (messages message obtained).2 octets written⟩
  · rw [(single context context_obtained).1, context_length]
    decide
  · rw [(single outer outer_obtained).1, outer_length]
    decide

end Message

end TunnelControl
