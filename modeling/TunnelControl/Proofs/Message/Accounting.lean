import TunnelControl.Proofs.Element.Editing
import TunnelControl.Proofs.Message.Pruning

namespace TunnelControl

namespace Element

variable {groups : Groups} {level : Nat} {octets : Octets} {elements : List Element}

mutual

def count : Element → Nat
  | leaf _ _ _ => 1
  | group _ _ _ children => counts children + 1

def counts : List Element → Nat
  | [] => 0
  | element :: elements => count element + counts elements

end

mutual

def payload : Element → Nat
  | leaf _ _ value => value.length
  | group _ _ _ children => payloads children

def payloads : List Element → Nat
  | [] => 0
  | element :: elements => payload element + payloads elements

end

theorem Spells.length_eq (spells : Spells groups level octets elements) :
    octets.length = 4 * counts elements + payloads elements := by
  induction spells with
  | nil => rfl
  | leaf _ _ _ ih =>
      rw [List.length_append, Frame.length_spelled, ih, counts, payloads, count, payload]
      omega
  | group _ _ _ _ inside ih =>
      -- the value is counted through the children, which take just as many octets
      rw [List.length_append, Frame.length_spelled, inside, ih, counts, payloads, count, payload]
      omega

end Element

namespace Message

variable {groups : Groups} {octets : Octets} {message : Message}

theorem received_of_parse (parsed : parse groups octets = .ok message)
    (version : message.header.version = Header.supportedVersion) : Received groups message := by
  obtain ⟨rest, read, _⟩ := parse_cases parsed
  exact Received.of_parse ((versionBits_of_read read).trans (congrArg some version)) parsed

theorem announced_le_length (parsed : parse groups octets = .ok message)
    (version : message.header.version = Header.supportedVersion) :
    Header.fixedSize + message.header.length.toNat ≤ octets.length := by
  obtain ⟨rest, _, bodied⟩ := parse_cases parsed
  obtain ⟨elements, accepted, _⟩ := bodied version
  exact (parseBody_eq_ok.mp accepted).1

theorem Received.length_eq (received : Received groups message) :
    message.header.size + 4 * Element.counts message.elements + Element.payloads message.elements =
      Header.fixedSize + message.header.length.toNat := by
  have least := message.header.fixedSize_le_size
  have spelled := received.spelled.length_eq
  rw [Element.length_concat] at spelled
  rw [← received.length, encodedLength, spelled]
  omega

theorem elements_of_foreign (parsed : parse groups octets = .ok message)
    (foreign : message.header.version ≠ Header.supportedVersion) : message.elements = [] := by
  obtain ⟨rest, read, _⟩ := parse_cases parsed
  rw [Except.ok.inj (parsed.symm.trans (parse_of_foreign read foreign))]
  rfl

/-- Of octets that are read as elements, four stand in front of each value and the others are values
of leaves. No more elements come out of a datagram than a quarter of its octets, and no more than
eight groups lie inside each other. -/
theorem octets_accounted (groups : Groups) :
    (∀ octets elements, Element.decodeAll groups octets = .ok elements →
      4 * Element.counts elements + Element.payloads elements = octets.length ∧
        Element.counts elements ≤ octets.length / 4 ∧
        Element.depths elements ≤ Element.maxDepth) ∧
    ∀ octets message, parse groups octets = .ok message →
      (message.header.version = Header.supportedVersion →
        message.header.size + 4 * Element.counts message.elements +
          Element.payloads message.elements = Header.fixedSize + message.header.length.toNat) ∧
        Element.counts message.elements ≤ octets.length / 4 ∧
        Element.depths message.elements ≤ Element.maxDepth := by
  constructor
  · intro octets elements decoded
    have spells := Element.forest_eq_ok.mp decoded
    have exact := spells.length_eq
    refine ⟨exact.symm, ?_, spells.depths_le⟩
    omega
  · intro octets message parsed
    by_cases version : message.header.version = Header.supportedVersion
    · have received := received_of_parse parsed version
      have exact := received.length_eq
      have covers := announced_le_length parsed version
      refine ⟨fun _ => exact, ?_, received.spelled.depths_le⟩
      omega
    · rw [elements_of_foreign parsed version]
      exact ⟨fun supported => absurd supported version, Nat.zero_le _, Nat.zero_le _⟩

theorem octets_accounted_nested :
    let inside : Octets := [93, 0, 9, 0x10, 93, 0, 0, 0, 73, 0, 1, 0, 5]
    let elements : List Element :=
      [.group .bearerContext 0 [93, 0, 0, 0, 73, 0, 1, 0, 5]
        [.group .bearerContext 0 [] [], .leaf .ebi 0 [5]]]
    let octets : Octets := [0x48, 32, 0, 21, 0, 0, 0, 1, 0, 0, 7, 0] ++ inside ++ [0xDE]
    let message : Message := {
      header := { type := 32, length := 21, teid := some 1, sequence := 7 }
      body := .ofElements 32 elements }
    Element.decodeAll .standard inside = .ok elements ∧ Element.counts elements = 3 ∧
      Element.payloads elements = 1 ∧
      4 * Element.counts elements + Element.payloads elements = inside.length ∧
      parse .standard octets = .ok message ∧
      message.header.size + 4 * Element.counts message.elements +
        Element.payloads message.elements = Header.fixedSize + message.header.length.toNat ∧
      Element.counts message.elements ≤ octets.length / 4 ∧
      Element.depths message.elements ≤ Element.maxDepth := by
  intro inside elements octets message
  have decoded : Element.decodeAll .standard inside = .ok elements := by rfl
  have parsed : parse .standard octets = .ok message := by
    unfold octets message elements inside
    rfl
  obtain ⟨exact, _, _⟩ := (octets_accounted .standard).1 inside elements decoded
  obtain ⟨announced, few, shallow⟩ := (octets_accounted .standard).2 octets message parsed
  exact ⟨decoded, rfl, rfl, exact, parsed, announced rfl, few, shallow⟩

end Message

end TunnelControl
