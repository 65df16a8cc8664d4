import TunnelControl.Proofs.Element.Carriage
import TunnelControl.Proofs.Endpoint.Numbering
import TunnelControl.Proofs.Endpoint.Operation
import TunnelControl.Proofs.Message.RoundTrip
import TunnelControl.Proofs.Value.Inversion

namespace TunnelControl

theorem MessageType.hasTeid_of_response? {request response : MessageType}
    (answers : request.response? = some response) :
    response.hasTeid = decide (response ≠ .echoResponse) := by
  cases request <;> cases answers <;> rfl

namespace Message

variable {groups : Groups} {octets : Octets} {message request : Message} {type : MessageType}
  {verdict : Verdict}

structure Refuses (reply request : Message) (response : MessageType) (verdict : Verdict) :
    Prop where
  version : reply.header.version = Header.supportedVersion
  type : reply.type = response.code
  sequence : reply.sequence = request.sequence
  teid : reply.header.teid = if response = .echoResponse then none else some 0
  cause : ∃ element, reply.elements = [element] ∧ reply.find? .cause 0 = some element ∧
    element.get .verdict = .ok verdict

theorem sequence_of_parse (parsed : parse groups octets = .ok message) :
    message.sequence % Header.sequenceBound = message.sequence := by
  obtain ⟨rest, read, _⟩ := parse_cases parsed
  exact UInt32.toNat_inj.mp (Nat.mod_eq_of_lt (Header.read_eq_ok.mp read).1)

theorem isAddressed_of_response? (expected : request.response? = some type) :
    isAddressed type.code = decide (type ≠ .echoResponse) := by
  obtain ⟨asked, _, answers⟩ := Option.bind_eq_some_iff.mp expected
  rw [isAddressed, MessageType.ofCode?_code]
  exact MessageType.hasTeid_of_response? answers

theorem exists_refuses_of_marshal (expected : request.response? = some type)
    (short : request.sequence % Header.sequenceBound = request.sequence)
    (written : (ofElements type.code 0 request.sequence [.ofVerdict verdict]).marshal =
      .ok octets) :
    ∃ reply, parse .standard octets = .ok reply ∧ reply.Refuses request type verdict.cut := by
  -- the body has nothing but the cause, in a slot for it or without one
  have single :=
    elements_ofElements_singleton type.code 0 request.sequence (.ofVerdict verdict)
  have header := header_ofElements type.code 0 request.sequence [.ofVerdict verdict]
  have conform : ∀ element ∈
      (ofElements type.code 0 request.sequence [.ofVerdict verdict]).elements,
      Element.Conforms .standard Element.maxDepth element := by
    rw [single, List.forall_mem_singleton]
    exact .leaf (by decide) 0 verdict.encode
  have parsed := parse_of_marshal written (by rw [header]; rfl) conform
  rw [single, header, short, short, isAddressed_of_response? expected] at parsed
  refine ⟨_, parsed, rfl, rfl, rfl, ?_, Element.ofVerdict verdict, single, ?_, ?_⟩
  · by_cases echo : type = .echoResponse <;> simp [echo]
  · exact congrArg (List.find? (Element.hasKey .cause 0)) single
  · refine Element.get_ofValue.trans ?_
    exact congrArg Prod.fst verdict.read_encode

end Message

namespace Node

variable {η : Type}

def answered (network : Network) (exchange : Exchange) (octets : Octets) (node : Node η) : Node η :=
  let datagram : Datagram := ⟨exchange.1, octets⟩
  let failure := network node.traffic datagram
  { node with
    endpoint := if failure.isNone then node.endpoint.markAnswered exchange else node.endpoint
    traffic := node.traffic ++ [⟨datagram, failure⟩] }

end Node

namespace Action

variable {η : Type} {network : Network} {node : Node η} {peer : SocketAddress} {request : Message}
  {cause : UInt8} {offending : Option (ElementType × UInt8)}

def reason (cause : UInt8) (offending : Option (ElementType × UInt8)) : Verdict :=
  { cause, offending := offending.map fun (type, inst) => { type, inst } }

theorem perform_reject {type : MessageType} {octets : Octets} (bound : node.endpoint.bound = true)
    (expected : request.response? = some type)
    (written : (Message.ofElements type.code 0 request.sequence
      [.ofVerdict (reason cause offending)]).marshal = .ok octets) :
    perform (reject network peer request cause offending) node =
      ((network node.traffic ⟨peer, octets⟩).elim (.ok ()) .error,
        node.answered network (peer, request.sequence) octets) := by
  have sent : perform (replyWithCause network peer request (reason cause offending)) node =
      node.hand network ⟨peer, octets⟩ := by
    simp only [replyWithCause, expected]
    unfold perform transmit
    simp only [written, bound, if_true]
  unfold reject
  rw [perform_bind, ← reason, sent, Node.hand, Node.answered]
  cases network node.traffic ⟨peer, octets⟩ <;> rfl

theorem perform_reject_of_none (unanswerable : request.response? = none) :
    perform (reject network peer request cause offending) node =
      (.error (.unknownMessage request.type), node) := by
  have refused : perform (replyWithCause network peer request (reason cause offending)) node =
      (.error (.unknownMessage request.type), node) := by
    simp only [replyWithCause, unanswerable]
    rfl
  unfold reject
  rw [perform_bind, ← reason, refused]

structure Rejects (network : Network) (peer : SocketAddress) (request : Message) (cause : UInt8)
    (offending : Option (ElementType × UInt8)) (node : Node η) : Prop where
  answered : ∀ groups received type, node.endpoint.bound = true →
    Message.parse groups received = .ok request → request.response? = some type →
    ∃ octets reply, perform (reject network peer request cause offending) node =
        ((network node.traffic ⟨peer, octets⟩).elim (.ok ()) .error,
          node.answered network (peer, request.sequence) octets) ∧
      Message.parse .standard octets = .ok reply ∧
      reply.Refuses request type { cause, offending := offending.map fun (type, inst) =>
        { type, length := 0, inst := inst % 16 } }
  refused : request.response? = none →
    perform (reject network peer request cause offending) node =
      (.error (.unknownMessage request.type), node)
  indices : node.SameIndices (perform (reject network peer request cause offending) node).2
  sequence : (perform (reject network peer request cause offending) node).2.endpoint.sequence =
    node.endpoint.sequence

theorem sameIndices_reject (network : Network) (peer : SocketAddress) (request : Message)
    (cause : UInt8) (offending : Option (ElementType × UInt8)) (node : Node η) :
    node.SameIndices (perform (reject network peer request cause offending) node).2 := by
  cases expected : request.response? with
  | none =>
      rw [perform_reject_of_none expected]
      exact .refl node
  | some type =>
      have sent := sameIndices_transmit network peer (.ofElements type.code 0 request.sequence
        [.ofVerdict (reason cause offending)]) node
      unfold reject
      rw [perform_bind, ← reason, replyWithCause, expected]
      simp only
      cases performed : perform (transmit network peer (.ofElements type.code 0 request.sequence
          [.ofVerdict (reason cause offending)])) node with
      | mk result after =>
          rw [performed] at sent
          cases result with
          | error error => exact sent
          | ok => exact ⟨sent.config, sent.byTeid, sent.byImsi, sent.sessions⟩

/-- A request that was received is rejected with one datagram, which is read as the answer to it and
tells the cause. Other messages cannot be rejected. -/
theorem rejects (network : Network) (peer : SocketAddress) (request : Message) (cause : UInt8)
    (offending : Option (ElementType × UInt8)) (node : Node η) :
    Rejects network peer request cause offending node := by
  constructor
  case answered =>
    intro groups received type bound parsed expected
    obtain ⟨octets, written⟩ :=
      Message.marshal_ofVerdict type.code 0 request.sequence (reason cause offending)
    have short := Message.sequence_of_parse parsed
    obtain ⟨reply, read, refuses⟩ := Message.exists_refuses_of_marshal expected short written
    refine ⟨octets, reply, perform_reject bound expected written, read, ?_⟩
    cases offending <;> exact refuses
  case refused => exact perform_reject_of_none
  case indices => exact sameIndices_reject network peer request cause offending node
  case sequence => exact Silent.reject peer request cause offending node

theorem rejects_suspend :
    let node : Node Empty :=
      { endpoint :=
          { Endpoint.ofConfig {} with
            bound := true, inFlight := Table.empty.insert (default, 7) false } }
    let received : Octets := [0x48, 162, 0, 8, 0, 0, 0, 1, 0, 0, 7, 0]
    let request : Message :=
      { header := { type := 162, length := 8, teid := some 1, sequence := 7 }
        body := .ofElements 162 [] }
    node.endpoint.bound = true ∧ Message.parse .standard received = .ok request ∧
      request.response? = some .suspendAcknowledge ∧
      ∃ octets reply after,
        perform (reject .reachable default request 70 (some (93, 19))) node = (.ok (), after) ∧
        after.traffic = [⟨⟨default, octets⟩, none⟩] ∧
        after.endpoint.inFlight.get? (default, 7) = some true ∧
        Message.parse .standard octets = .ok reply ∧
        reply.Refuses request .suspendAcknowledge
          { cause := 70, offending := some { type := 93, length := 0, inst := 3 } } := by
  intro node received request
  have parsed : Message.parse .standard received = .ok request := by
    unfold received request
    rfl
  have expected : request.response? = some .suspendAcknowledge := rfl
  obtain ⟨octets, reply, performed, read, refuses⟩ :=
    (rejects .reachable default request 70 (some (93, 19)) node).answered _ _ _ rfl parsed expected
  exact ⟨rfl, parsed, expected, octets, reply, _, performed, rfl, rfl, read, refuses⟩

end Action

end TunnelControl
