import TunnelControl.Proofs.Element.Grammar
import TunnelControl.Proofs.Message.RoundTrip

namespace TunnelControl

variable {groups : Groups} {octets rest : Octets}

theorem Element.totalSize_perm {elements others : List Element} (perm : elements.Perm others) :
    totalSize elements = totalSize others := by
  induction perm with
  | nil => rfl
  | cons element _ ih => rw [totalSize, totalSize, ih]
  | swap first second others =>
      simp only [totalSize]
      omega
  | trans _ _ first second => exact first.trans second

namespace Message

variable {message : Message} {header : Header}

def versionBits (octets : Octets) : Option UInt8 := octets.head?.map (· / 32)

def lengthField (octets : Octets) : Nat := Octets.toNat ((octets.drop 2).take 2)

theorem versionBits_of_read (read : Header.read octets = (.ok header, rest)) :
    versionBits octets = some header.version := by
  obtain ⟨_, flags, spare, version, _, _, rfl⟩ := Header.read_eq_ok.mp read
  rw [← version]
  rfl

theorem lengthField_of_read (read : Header.read octets = (.ok header, rest)) :
    lengthField octets = header.length.toNat := by
  obtain ⟨_, flags, spare, _, _, _, rfl⟩ := Header.read_eq_ok.mp read
  exact (Octets.toNat_ofNat 2 _).trans (Nat.mod_eq_of_lt header.length.toNat_lt)

theorem exists_of_parse (version : versionBits octets = some Header.supportedVersion)
    (parsed : parse groups octets = .ok message) :
    ∃ rest elements, Header.read octets = (.ok message.header, rest) ∧
      parseBody groups message.header octets.length rest = .ok elements ∧
      message.body = .ofElements message.header.type elements := by
  obtain ⟨rest, read, bodied⟩ := parse_cases parsed
  obtain ⟨elements, accepted, body⟩ :=
    bodied (Option.some.inj ((versionBits_of_read read).symm.trans version))
  exact ⟨rest, elements, read, accepted, body⟩

/-- A message as it comes out of a datagram: nothing in it is lost when it is written. -/
structure Received (groups : Groups) (message : Message) : Prop where
  version : message.header.version = Header.supportedVersion
  sequence : message.header.sequence.toNat < 0x1000000
  length : message.encodedLength = message.header.length.toNat
  body : .ofElements message.header.type message.elements = message.body
  spelled : Element.Spells groups Element.maxDepth (Element.concat message.elements)
    message.elements

namespace Received

theorem of_parse (version : versionBits octets = some Header.supportedVersion)
    (parsed : parse groups octets = .ok message) : Received groups message := by
  obtain ⟨rest, elements, read, bodied, body⟩ := exists_of_parse version parsed
  obtain ⟨_, front, back, _, whole, accepted⟩ := parseBody_eq_ok.mp bodied
  obtain ⟨sequence, _⟩ := Header.read_eq_ok.mp read
  have spells : Element.Spells groups Element.maxDepth front elements :=
    Element.forest_eq_ok.mp accepted
  have sorted : message.elements.Perm elements := by
    unfold Message.elements
    rw [body]
    exact Body.elements_ofElements_perm _ _
  refine ⟨?_, sequence, ?_, ?_, ?_⟩
  · exact Option.some.inj ((versionBits_of_read read).symm.trans version)
  · rw [encodedLength, Element.totalSize_perm sorted, spells.totalSize_eq]
    have least := message.header.fixedSize_le_size
    omega
  · unfold Message.elements
    rw [body]
    exact Body.ofElements_elements _ _
  · -- an element keeps its octets wherever it is moved
    exact Element.Spells.of_each fun element member => spells.each (sorted.mem_iff.mp member)

theorem marshal_parse (received : Received groups message) :
    ∃ written, message.marshal = .ok written ∧
      written.length = Header.fixedSize + message.header.length.toNat ∧
      parse groups written = .ok message := by
  have fits : message.encodedLength ≤ maxLength := by
    rw [received.length]
    exact Nat.le_of_lt_succ message.header.length.toNat_lt
  obtain ⟨written, marshalled⟩ : ∃ written, message.marshal = .ok written :=
    ⟨_, marshal_eq_ok.mpr ⟨fits, fun _ => received.spelled.fits, rfl⟩⟩
  have parsed := parse_of_marshal_of_reads marshalled received.version received.spelled.forest_eq
  have length : UInt16.ofNat message.encodedLength = message.header.length := by
    rw [received.length, UInt16.ofNat_toNat]
  have sequence : message.header.sequence % Header.sequenceBound = message.header.sequence :=
    UInt32.toNat_inj.mp (Nat.mod_eq_of_lt received.sequence)
  rw [length, sequence, received.body] at parsed
  refine ⟨written, marshalled, ?_, parsed⟩
  rw [length_written marshalled, received.length]

end Received

/-- A message that was read can be written, at the length that its datagram announced, and what is
written is read as the same message and written as it is. -/
theorem marshal_of_parse (version : versionBits octets = some Header.supportedVersion)
    (parsed : parse groups octets = .ok message) :
    ∃ written, message.marshal = .ok written ∧
      written.length = Header.fixedSize + lengthField octets ∧
      parse groups written = .ok message ∧
      (parse groups written >>= marshal) = .ok written := by
  obtain ⟨written, marshalled, length, again⟩ := (Received.of_parse version parsed).marshal_parse
  obtain ⟨_, _, read, _⟩ := exists_of_parse version parsed
  refine ⟨written, marshalled, ?_, again, ?_⟩
  · rw [length, lengthField_of_read read]
  · rw [again]
    exact marshalled

theorem marshal_of_parse_spare :
    let octets : Octets :=
      [0x4F, 32, 0, 27, 0, 0, 0, 1, 0, 0, 7, 0xFF, 93, 0, 5, 0xA1, 73, 0, 1, 0x70, 5, 1, 0, 1, 0xF0,
        0x21, 1, 0, 1, 0, 0x43, 0xDE, 0xAD]
    let message : Message := {
      header := { type := 32, length := 27, teid := some 1, sequence := 7 }
      body := .ofElements 32
        [.group .bearerContext 1 [73, 0, 1, 0x70, 5] [.leaf .ebi 0 [5]], .leaf .imsi 0 [0x21],
          .leaf .imsi 0 [0x43]] }
    let written : Octets :=
      [0x48, 32, 0, 27, 0, 0, 0, 1, 0, 0, 7, 0, 1, 0, 1, 0, 0x21, 93, 0, 5, 1, 73, 0, 1, 0x70, 5, 1,
        0, 1, 0, 0x43]
    versionBits octets = some Header.supportedVersion ∧ parse .standard octets = .ok message ∧
      message.marshal = .ok written ∧ written.length = Header.fixedSize + lengthField octets ∧
      parse .standard written = .ok message ∧
      (parse .standard written >>= marshal) = .ok written := by
  intro octets message written
  have version : versionBits octets = some Header.supportedVersion := rfl
  have parsed : parse .standard octets = .ok message := by
    unfold octets message
    rfl
  have marshalled : message.marshal = .ok written := by decide +zetaReduce
  obtain ⟨_, same, length, again⟩ := marshal_of_parse version parsed
  cases marshalled.symm.trans same
  exact ⟨version, parsed, marshalled, length, again⟩

end Message

end TunnelControl
