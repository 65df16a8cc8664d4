import TunnelControl.Proofs.Element.RoundTrip
import TunnelControl.Proofs.Message.Header
import TunnelControl.Proofs.Message.Marshal

namespace TunnelControl

namespace Message

variable {groups : Groups} {octets : Octets} {elements : List Element}

theorem length_written {message : Message} (written : message.marshal = .ok octets) :
    octets.length = Header.fixedSize + message.encodedLength := by
  obtain ⟨_, _, rfl⟩ := marshal_eq_ok.mp written
  have least := message.header.fixedSize_le_size
  rw [List.length_append, Header.length_encode, Element.length_concat, encodedLength]
  change message.header.size + _ = _
  omega

theorem parseBody_eq_ok {header : Header} {available : Nat} {rest : Octets} :
    parseBody groups header available rest = .ok elements ↔
      Header.fixedSize + header.length.toNat ≤ available ∧
      ∃ front back, rest = front ++ back ∧
        header.size + front.length = Header.fixedSize + header.length.toNat ∧
        Element.decodeAll groups front = .ok elements := by
  unfold parseBody
  by_cases few : available < Header.fixedSize + header.length.toNat
  · simp [few, Nat.not_le.mpr few, bind, Except.bind]
  by_cases below : Header.fixedSize + header.length.toNat < header.size
  · have apart : ∀ front : Octets,
        header.size + front.length ≠ Header.fixedSize + header.length.toNat := by
      intro front
      omega
    simp [few, below, apart, bind, Except.bind]
  simp only [few, below, if_false, Nat.not_lt.mp few, true_and]
  match taken : Reader.take (Header.fixedSize + header.length.toNat - header.size) rest with
  | (.error error, _) =>
      simp only [Reader.value, taken, bind, Except.bind]
      refine iff_of_false (by simp) ?_
      rintro ⟨front, back, same, length, _⟩
      cases taken.symm.trans (Reader.take_eq_ok.mpr ⟨by omega, same⟩)
  | (.ok front, back) =>
      simp only [Reader.value, taken, bind, Except.bind]
      obtain ⟨length, same⟩ := Reader.take_eq_ok.mp taken
      constructor
      · exact fun read => ⟨front, back, same, by omega, read⟩
      · rintro ⟨first, others, same, length, read⟩
        cases taken.symm.trans (Reader.take_eq_ok.mpr ⟨by omega, same⟩)
        exact read

theorem parse_of_read {header : Header} {rest : Octets}
    (read : Header.read octets = (.ok header, rest))
    (version : header.version = Header.supportedVersion)
    (body : parseBody groups header octets.length rest = .ok elements) :
    parse groups octets = .ok { header, body := .ofElements header.type elements } := by
  unfold parse
  simp only [read, version, ne_eq, not_true_eq_false, if_false, body]
  rfl

theorem parse_cases {message : Message} (parsed : parse groups octets = .ok message) :
    ∃ rest, Header.read octets = (.ok message.header, rest) ∧
      (message.header.version = Header.supportedVersion →
        ∃ elements, parseBody groups message.header octets.length rest = .ok elements ∧
          message.body = .ofElements message.header.type elements) := by
  unfold parse at parsed
  match found : Header.read octets with
  | (.error error, rest) =>
      rw [found] at parsed
      cases parsed
  | (.ok header, rest) =>
      rw [found] at parsed
      simp only at parsed
      split at parsed
      · next foreign =>
          cases parsed
          exact ⟨rest, rfl, fun supported => absurd supported foreign⟩
      · cases read : parseBody groups header octets.length rest with
        | error error =>
            rw [read] at parsed
            cases parsed
        | ok elements =>
            rw [read] at parsed
            cases parsed
            exact ⟨rest, rfl, fun _ => ⟨elements, read, rfl⟩⟩

theorem parse_of_marshal_of_reads {message : Message} (written : message.marshal = .ok octets)
    (version : message.header.version = Header.supportedVersion)
    (reads : Element.decodeAll groups (Element.concat message.elements) = .ok message.elements) :
    parse groups octets = .ok {
      header := { message.header with
        length := UInt16.ofNat message.encodedLength
        sequence := message.header.sequence % Header.sequenceBound }
      body := .ofElements message.header.type message.elements } := by
  obtain ⟨fits, _, same⟩ := marshal_eq_ok.mp written
  have length : (UInt16.ofNat message.encodedLength).toNat = message.encodedLength :=
    Nat.mod_eq_of_lt (Nat.lt_succ_of_le fits)
  have read : Header.read octets = (.ok { message.header with
      length := UInt16.ofNat message.encodedLength
      sequence := message.header.sequence % Header.sequenceBound },
        Element.concat message.elements) := by
    rw [same]
    exact Header.read_encode_supported
      { message.header with length := UInt16.ofNat message.encodedLength } version _
  have covers : Header.fixedSize + (UInt16.ofNat message.encodedLength).toNat ≤ octets.length :=
    Nat.le_of_eq (by rw [length, length_written written])
  have whole : message.header.size + (Element.concat message.elements).length =
      Header.fixedSize + (UInt16.ofNat message.encodedLength).toNat := by
    have least := message.header.fixedSize_le_size
    rw [length, Element.length_concat, encodedLength]
    omega
  exact parse_of_read read version (parseBody_eq_ok.mpr
    ⟨covers, Element.concat message.elements, [], (List.append_nil _).symm, whole, reads⟩)

theorem parse_of_marshal {message : Message} (written : message.marshal = .ok octets)
    (version : message.header.version = Header.supportedVersion)
    (conform : ∀ element ∈ message.elements,
      Element.Conforms groups Element.maxDepth element) :
    parse groups octets = .ok {
      header := { message.header with
        length := UInt16.ofNat message.encodedLength
        sequence := message.header.sequence % Header.sequenceBound }
      body := .ofElements message.header.type message.elements } := by
  obtain ⟨_, each, _⟩ := marshal_eq_ok.mp written
  exact parse_of_marshal_of_reads written version (Element.decodeAll_concat conform each)

theorem marshal_withLength (length : UInt16) (message : Message) :
    marshal { message with header.length := length } = message.marshal := rfl

theorem header_ofElements (type : UInt8) (teid sequence : UInt32) (elements : List Element) :
    (ofElements type teid sequence elements).header =
      { type, teid := if isAddressed type then some teid else none
        sequence := sequence % Header.sequenceBound } := by
  unfold ofElements
  split <;> rfl

theorem toNat_mod_sequenceBound (sequence : UInt32) :
    (sequence % Header.sequenceBound).toNat = sequence.toNat % 0x1000000 := rfl

/-- A message is read back from what was written of it, if its elements conform to the groups of the
reader. -/
theorem parse_marshal_ofElements (type : UInt8) (teid sequence : UInt32)
    (conform : ∀ element ∈ elements, Element.Conforms groups Element.maxDepth element)
    (written : (ofElements type teid sequence elements).marshal = .ok octets) :
    ∃ message, parse groups octets = .ok message ∧
      message.body = (ofElements type teid sequence elements).body ∧
      message.header.type = type ∧
      message.header.teid = (if isAddressed type then some teid else none) ∧
      message.header.sequence.toNat = sequence.toNat % 0x1000000 ∧
      message.header.length.toNat = (ofElements type teid sequence elements).encodedLength ∧
      message.marshal = .ok octets := by
  let original := ofElements type teid sequence elements
  have header : original.header = _ := header_ofElements type teid sequence elements
  have conform : ∀ element ∈ original.elements,
      Element.Conforms groups Element.maxDepth element :=
    fun element member => conform element (Body.mem_elements_ofElements.mp member)
  have parsed := parse_of_marshal written (by rw [header]; rfl) conform
  -- the sequence number was shortened when the message was built, and is not shortened further
  have short : original.header.sequence % Header.sequenceBound = original.header.sequence := by
    rw [header, ← UInt32.toNat_inj, toNat_mod_sequenceBound, toNat_mod_sequenceBound,
      Nat.mod_mod]
  have body : Body.ofElements original.header.type original.elements = original.body := by
    rw [header]
    exact Body.ofElements_elements type elements
  rw [short, body] at parsed
  obtain ⟨fits, _, _⟩ := marshal_eq_ok.mp written
  refine ⟨_, parsed, rfl, congrArg Header.type header, congrArg Header.teid header, ?_, ?_, ?_⟩
  · show original.header.sequence.toNat = _
    rw [header, toNat_mod_sequenceBound]
  · exact Nat.mod_eq_of_lt (Nat.lt_succ_of_le fits)
  · exact (marshal_withLength _ original).trans written

theorem parse_marshal_ofElements_grouped :
    let elements : List Element :=
      [.ofValue 200 3 [], .ofChildren .bearerContext 1 [.ofValue .ebi 0 [5]],
        .ofValue .imsi 0 [0x21]]
    let original := ofElements 32 1 0x1000007 elements
    let octets : Octets :=
      [72, 32, 0, 26, 0, 0, 0, 1, 0, 0, 7, 0, 1, 0, 1, 0, 33, 93, 0, 5, 1, 73, 0, 1, 0, 5, 200, 0,
        0, 3]
    (∀ element ∈ elements, Element.Conforms .standard Element.maxDepth element) ∧
      original.marshal = .ok octets ∧
      ∃ message, parse .standard octets = .ok message ∧ message.body = original.body ∧
        message.header.type = 32 ∧
        message.header.teid = (if isAddressed 32 then some 1 else none) ∧
        message.header.sequence.toNat = (0x1000007 : UInt32).toNat % 0x1000000 ∧
        message.header.length.toNat = original.encodedLength ∧ message.marshal = .ok octets := by
  intro elements original octets
  have conform : ∀ element ∈ elements, Element.Conforms .standard Element.maxDepth element := by
    intro element member
    simp only [elements, List.mem_cons, List.not_mem_nil, or_false] at member
    rcases member with rfl | rfl | rfl
    · exact .leaf (by decide) 3 []
    · apply Element.Conforms.group (by decide)
      intro child member
      rw [List.mem_singleton] at member
      exact member ▸ .leaf (by decide) 0 [5]
    · exact .leaf (by decide) 0 [0x21]
  have written : original.marshal = .ok octets := by decide +zetaReduce
  exact ⟨conform, written, parse_marshal_ofElements 32 1 0x1000007 conform written⟩

end Message

end TunnelControl
