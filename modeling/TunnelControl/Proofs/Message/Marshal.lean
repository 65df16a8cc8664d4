import TunnelControl.Message.Basic
import TunnelControl.Proofs.Element.Grammar
import TunnelControl.Proofs.Message.Body

namespace TunnelControl

variable {written : Octets}

namespace Message

variable {message : Message}

theorem marshal_eq_ok : message.marshal = .ok written ↔
    message.encodedLength ≤ maxLength ∧
      (∀ element ∈ message.elements, element.value.length ≤ Element.maxValue) ∧
      written = { message.header with length := UInt16.ofNat message.encodedLength }.encode ++
        Element.concat message.elements := by
  unfold marshal
  by_cases fits : message.encodedLength ≤ maxLength
  · simp only [Nat.not_lt.mpr fits, fits, if_false]
    cases parts : message.elements.mapM Element.encode with
    | error error =>
        have long : ¬ ∀ element ∈ message.elements, element.value.length ≤ Element.maxValue := by
          intro all
          cases parts.symm.trans (Element.mapM_encode_eq_ok.mpr ⟨all, rfl⟩)
        simp [bind, Except.bind, long]
    | ok parts =>
        obtain ⟨all, rfl⟩ := Element.mapM_encode_eq_ok.mp parts
        simp only [bind, Except.bind, pure, Except.pure, true_and, Except.ok.injEq,
          Element.concat, List.flatMap]
        constructor
        · rintro rfl
          exact ⟨all, rfl⟩
        · rintro ⟨_, rfl⟩
          rfl
  · simp [Nat.lt_of_not_le fits, fits, bind, Except.bind]

theorem marshal_bare (bare : message.elements = []) : ∃ written, message.marshal = .ok written := by
  have header : message.header.size ≤ 12 := by
    unfold Header.size
    split <;> decide
  refine ⟨_, marshal_eq_ok.mpr ⟨?_, ?_, rfl⟩⟩
  · simp only [maxLength, encodedLength, bare, Element.totalSize]
    omega
  · rw [bare]
    exact List.forall_mem_nil _

theorem marshal_versionNotSupported (sequence : UInt32) :
    ∃ written, (versionNotSupported sequence).marshal = .ok written :=
  marshal_bare (List.perm_nil.mp
    (Body.elements_ofElements_perm MessageType.versionNotSupportedIndication.code []))

theorem elements_ofElements_singleton (type : UInt8) (teid sequence : UInt32) (element : Element) :
    (ofElements type teid sequence [element]).elements = [element] :=
  List.perm_singleton.mp (Body.elements_ofElements_perm type [element])

theorem marshal_ofVerdict (type : UInt8) (teid sequence : UInt32) (verdict : Verdict) :
    ∃ written, (ofElements type teid sequence [.ofVerdict verdict]).marshal = .ok written := by
  have single := elements_ofElements_singleton type teid sequence (.ofVerdict verdict)
  have short : (Element.ofVerdict verdict).value.length ≤ 6 := by
    cases offending : verdict.offending <;>
      simp [Element.ofVerdict, Element.ofValue, Element.value, Verdict.encode, offending,
        Offending.encode, Octets.ofU16]
  have header : (ofElements type teid sequence [.ofVerdict verdict]).header.size ≤ 12 := by
    unfold Header.size
    split <;> decide
  refine ⟨_, marshal_eq_ok.mpr ⟨?_, ?_, rfl⟩⟩
  · simp only [maxLength, encodedLength, single, Element.totalSize, Element.size]
    omega
  · rw [single, List.forall_mem_singleton]
    exact Nat.le_trans short (by decide)

end Message

end TunnelControl
