import TunnelControl.Proofs.Endpoint.Transmission
import TunnelControl.Proofs.Message.RoundTrip

/-!
A dispatch hands some datagrams to the network of its own accord: it tells that a version is not
supported, it answers failed requests, and the built-in handler answers echo requests. What the
handlers of an application send is their own.
-/

namespace TunnelControl

/-! ## Handlers of an endpoint -/

namespace Endpoint

variable {η : Type} {handlers : Table UInt8 (Handler η)}

/-- How the handlers of an endpoint come about: from the built-in ones, by adding those of the
application. -/
inductive Assembled : Table UInt8 (Handler η) → Prop where
  | builtIn : Assembled builtIn
  | insert {handlers : Table UInt8 (Handler η)} (earlier : Assembled handlers) (type : UInt8)
      (handler : η) : Assembled (handlers.insert type (.custom handler))

namespace Assembled

theorem ofConfig (config : Config) : Assembled (ofConfig config : Endpoint η).handlers := .builtIn

theorem addHandlers {endpoint : Endpoint η} (assembled : Assembled endpoint.handlers)
    (added : List (UInt8 × η)) : Assembled (endpoint.addHandlers added).handlers := by
  unfold Endpoint.addHandlers
  simp only
  generalize endpoint.handlers = handlers at assembled
  induction added generalizing handlers with
  | nil => exact assembled
  | cons entry added ih => exact ih _ (assembled.insert entry.1 entry.2)

theorem type_of_echo (assembled : Assembled handlers) {type : UInt8}
    (found : handlers.get? type = some .echo) : type = MessageType.echoRequest.code := by
  induction assembled with
  | builtIn =>
      simp only [Endpoint.builtIn, Table.ofList, Table.insertAll, List.foldl_cons, List.foldl_nil,
        Table.get?_insert, Table.get?_empty] at found
      grind
  | insert earlier other handler ih =>
      rw [Table.get?_insert] at found
      split at found
      · cases found
      · exact ih found

end Assembled

end Endpoint

/-! ## Final messages -/

namespace Message

variable {groups : Groups} {message received : Message} {octets : Octets}

/-- Whether a message gives no dispatch a reason to reply. -/
structure Final (message : Message) : Prop where
  version : message.header.version = Header.supportedVersion
  unaddressed : message.teid = 0
  answers : message.isRequest = false

theorem Final.ofElements {type : MessageType} (last : type.response? = none) (sequence : UInt32)
    (elements : List Element) : Final (ofElements type.code 0 sequence elements) := by
  constructor
  · rw [header_ofElements]
    rfl
  · unfold teid
    rw [header_ofElements]
    cases isAddressed type.code <;> rfl
  · unfold isRequest response? Message.type
    rw [header_ofElements, MessageType.ofCode?_code, Option.bind_some, last]
    rfl

theorem Final.withSequence (final : message.Final) (sequence : UInt32) :
    (message.withSequence sequence).Final :=
  ⟨final.version, final.unaddressed, final.answers⟩

theorem Final.of_parse {limit : Nat} (final : message.Final)
    (written : message.marshal = .ok octets)
    (parsed : parse groups (octets.take limit) = .ok received) : received.Final := by
  obtain ⟨rest, read, _⟩ := parse_cases parsed
  replace read := Header.read_append read (octets.drop limit)
  rw [List.take_append_drop] at read
  obtain ⟨_, _, rfl⟩ := marshal_eq_ok.mp written
  have encoded := Header.read_encode_supported
    { message.header with length := UInt16.ofNat message.encodedLength } final.version
    (Element.concat message.elements)
  have header := (Except.ok.inj (Prod.mk.inj (encoded.symm.trans read)).1).symm
  constructor
  · rw [header]
    exact final.version
  · unfold teid
    rw [header]
    exact final.unaddressed
  · unfold isRequest response? Message.type
    rw [header]
    exact final.answers

end Message

/-! ## Traffic of final messages -/

namespace Traffic

@[simp] theorem sent_append (first second : Traffic) :
    sent (first ++ second) = sent first ++ sent second := by
  simp [sent]

inductive Ends : Traffic → Prop where
  | nothing : Ends []
  | once {message : Message} {octets : Octets} (final : message.Final)
      (written : message.marshal = .ok octets) (peer : SocketAddress) (failure : Option Error) :
      Ends [⟨⟨peer, octets⟩, failure⟩]

end Traffic

namespace Action

open Traffic

variable {η α : Type} {network : Network} {node : Node η} {dispatch : Dispatch} {error : Error}

def handed (action : Action η α) (node : Node η) : Traffic :=
  (perform action node).2.traffic.drop node.traffic.length

def Sends (action : Action η α) (node : Node η) : Prop :=
  ∃ traffic : Traffic, traffic.Ends ∧ (perform action node).2.traffic = node.traffic ++ traffic

theorem handed_eq {action : Action η α} {traffic : Traffic}
    (same : (perform action node).2.traffic = node.traffic ++ traffic) :
    handed action node = traffic := by
  rw [handed, same, List.drop_left]

theorem handed_eq_nil {action : Action η α}
    (same : (perform action node).2.traffic = node.traffic) : handed action node = [] := by
  rw [handed, same, List.drop_length]

theorem Sends.grown {action : Action η α} (sends : Sends action node) :
    (perform action node).2.traffic = node.traffic ++ handed action node := by
  obtain ⟨traffic, _, same⟩ := sends
  rw [handed_eq same, same]

theorem Sends.ends {action : Action η α} (sends : Sends action node) :
    (handed action node).Ends := by
  obtain ⟨traffic, ends, same⟩ := sends
  rwa [handed_eq same]

theorem Sends.of_silent {action : Action η α}
    (same : (perform action node).2.traffic = node.traffic) : Sends action node :=
  ⟨[], .nothing, by rw [same, List.append_nil]⟩

theorem transmit_cases (network : Network) (peer : SocketAddress) (message : Message)
    (node : Node η) :
    ∃ traffic : Traffic,
      (perform (transmit network peer message) node).2.traffic = node.traffic ++ traffic ∧
      (traffic = [] ∨ ∃ octets failure, message.marshal = .ok octets ∧
        traffic = [⟨⟨peer, octets⟩, failure⟩]) ∧
      ((perform (transmit network peer message) node).1 ≠ .ok () → traffic.sent = []) := by
  unfold perform transmit
  cases written : message.marshal with
  | error error => exact ⟨[], by simp, .inl rfl, fun _ => rfl⟩
  | ok octets =>
      simp only
      split
      · refine ⟨[⟨⟨peer, octets⟩, network node.traffic ⟨peer, octets⟩⟩], ?_,
          .inr ⟨octets, _, rfl, rfl⟩, ?_⟩
        · unfold Node.hand
          cases network node.traffic ⟨peer, octets⟩ <;> rfl
        · unfold Node.hand
          cases network node.traffic ⟨peer, octets⟩ with
          | none => exact fun failed => absurd rfl failed
          | some error => exact fun _ => rfl
      · exact ⟨[], by simp, .inl rfl, fun _ => rfl⟩

theorem sends_transmit {message : Message} (final : message.Final) (network : Network)
    (peer : SocketAddress) (node : Node η) : Sends (transmit network peer message) node := by
  obtain ⟨traffic, same, rfl | ⟨octets, failure, written, rfl⟩, _⟩ :=
    transmit_cases network peer message node
  · exact ⟨[], .nothing, same⟩
  · exact ⟨_, .once final written peer failure, same⟩

/-! ## Answers to failed requests -/

theorem perform_answerFailure_of_final (final : dispatch.message.Final) (node : Node η) :
    perform (answerFailure network dispatch error) node = (.ok (), node) := by
  simp only [answerFailure, final.answers]
  rfl

theorem sends_answerFailure (network : Network) (dispatch : Dispatch) (error : Error)
    (node : Node η) : Sends (answerFailure network dispatch error) node := by
  by_cases request : dispatch.message.isRequest = true
  · cases calls : error.verdict? with
    | none =>
        apply Sends.of_silent
        simp only [answerFailure, request, if_true, calls, perform_pure]
    | some verdict =>
        unfold Sends
        rw [perform_answerFailure request calls]
        obtain ⟨type, expected⟩ := Option.isSome_iff_exists.mp request
        obtain ⟨asked, _, answer⟩ := Option.bind_eq_some_iff.mp expected
        simp only [replyWithCause, expected]
        -- the answer to a request is no request
        exact sends_transmit (.ofElements (MessageType.response?_response answer) _ _) network _ _
  · apply Sends.of_silent
    simp only [answerFailure, request]
    rfl

theorem perform_answerFailure_fst (network : Network) (dispatch : Dispatch) (error : Error)
    (node : Node η) : (perform (answerFailure network dispatch error) node).1 = .ok () := by
  unfold answerFailure
  split
  · cases error.verdict? <;> rfl
  · rfl

/-! ## The gate -/

theorem perform_validate (network : Network) (dispatch : Dispatch) (node : Node η) :
    perform (validate network dispatch) node =
      let header := dispatch.message.header
      if header.version ≠ Header.supportedVersion then
        (.error (.foreignVersion header.version),
          (perform (transmit network dispatch.peer (.versionNotSupported header.sequence)) node).2)
      else match header.teid.filter (· ≠ 0) with
        | none => (.ok (), node)
        | some teid =>
            match node.findTeid teid dispatch.peer with
            | .ok _ => (.ok (), node)
            | .error error =>
                (.error error, (perform (answerFailure network dispatch error) node).2) := by
  unfold validate
  simp only
  split
  · rfl
  · cases dispatch.message.header.teid.filter (· ≠ 0) with
    | none => rfl
    | some teid =>
        rw [perform_bind, perform_get]
        simp only
        cases node.findTeid teid dispatch.peer with
        | ok id => rfl
        | error error =>
            simp only
            rw [perform_bind]
            have done := perform_answerFailure_fst network dispatch error node
            cases performed : perform (answerFailure network dispatch error) node with
            | mk result after =>
                rw [performed] at done
                cases done
                rfl

theorem sends_validate (network : Network) (dispatch : Dispatch) (node : Node η) :
    Sends (validate network dispatch) node := by
  unfold Sends
  rw [perform_validate]
  simp only
  split
  · exact sends_transmit (.ofElements rfl _ _) network _ node
  · split
    · exact ⟨[], .nothing, by simp⟩
    · split
      · exact ⟨[], .nothing, by simp⟩
      · exact sends_answerFailure network dispatch _ node

theorem perform_validate_of_ok
    (passed : (perform (validate network dispatch) node).1 = .ok ()) :
    (perform (validate network dispatch) node).2 = node := by
  rw [perform_validate] at passed ⊢
  simp only at passed ⊢
  split at passed
  · cases passed
  · next version =>
      rw [if_neg version]
      split at passed
      · rfl
      · split at passed
        · rfl
        · cases passed

theorem perform_validate_of_final (final : dispatch.message.Final) (node : Node η) :
    perform (validate network dispatch) node = (.ok (), node) := by
  have unaddressed : dispatch.message.header.teid.filter (· ≠ 0) = none := by
    have zero := final.unaddressed
    unfold Message.teid at zero
    cases teid : dispatch.message.header.teid <;> simp_all
  rw [perform_validate]
  simp only [final.version, ne_eq, not_true_eq_false, if_false]
  simp only [ne_eq] at unaddressed
  rw [unaddressed]

theorem traffic_letIn (dispatch : Dispatch) (node : Node η) :
    (perform (letIn dispatch) node).2.traffic = node.traffic := by
  unfold letIn
  rw [perform_bind, perform_get]
  simp only
  cases node.endpoint.handlers.get? dispatch.message.type with
  | none => rfl
  | some handler =>
      simp only [enter]
      split <;> rfl

theorem get?_of_letIn {handler : Handler η}
    (admitted : (perform (letIn dispatch) node).1 = .ok handler) :
    node.endpoint.handlers.get? dispatch.message.type = some handler := by
  unfold letIn at admitted
  rw [perform_bind, perform_get] at admitted
  simp only at admitted
  cases found : node.endpoint.handlers.get? dispatch.message.type with
  | none =>
      rw [found] at admitted
      cases admitted
  | some own =>
      rw [found] at admitted
      simp only [enter] at admitted
      split at admitted <;> cases admitted <;> rfl

theorem accept_cases (network : Network) (dispatch : Dispatch) (node : Node η) :
    perform (accept network dispatch) node = perform (letIn dispatch) node ∨
      ∃ error, perform (accept network dispatch) node =
        (.error error, (perform (validate network dispatch) node).2) := by
  rw [accept_eq, perform_bind, perform_get]
  simp only
  split
  · rw [perform_bind]
    cases performed : perform (validate network dispatch) node with
    | mk result after =>
        cases result with
        | error error => exact .inr ⟨error, rfl⟩
        | ok =>
            -- checks that are passed have changed nothing
            have same := perform_validate_of_ok (congrArg Prod.fst performed)
            rw [performed] at same
            simp only at same
            rw [same]
            exact .inl rfl
  · exact .inl rfl

theorem sends_accept (network : Network) (dispatch : Dispatch) (node : Node η) :
    Sends (accept network dispatch) node := by
  rcases accept_cases network dispatch node with passed | ⟨error, refused⟩
  · exact .of_silent (by rw [passed, traffic_letIn])
  · unfold Sends
    rw [refused]
    exact sends_validate network dispatch node

theorem accept_of_ok {handler : Handler η}
    (admitted : (perform (accept network dispatch) node).1 = .ok handler) :
    handed (accept network dispatch) node = [] ∧
      node.endpoint.handlers.get? dispatch.message.type = some handler := by
  rcases accept_cases network dispatch node with passed | ⟨error, refused⟩
  · rw [passed] at admitted
    exact ⟨handed_eq_nil (by rw [passed, traffic_letIn]), get?_of_letIn admitted⟩
  · rw [refused] at admitted
    cases admitted

theorem handed_accept_of_final (final : dispatch.message.Final) (node : Node η) :
    handed (accept network dispatch) node = [] := by
  apply handed_eq_nil
  rcases accept_cases network dispatch node with passed | ⟨error, refused⟩
  · rw [passed, traffic_letIn]
  · rw [refused, perform_validate_of_final final]

/-! ## The end of a handler -/

theorem traffic_leave (dispatch : Dispatch) (node : Node η) :
    ∃ answered after, perform (leave dispatch) node = (.ok answered, after) ∧
      after.traffic = node.traffic := by
  unfold leave
  split
  · exact ⟨_, _, rfl, rfl⟩
  · exact ⟨_, _, rfl, rfl⟩

theorem traffic_conclude_ok (network : Network) (dispatch : Dispatch) (node : Node η) :
    (perform (conclude network dispatch (.ok ())) node).2.traffic = node.traffic := by
  obtain ⟨answered, after, left, same⟩ := traffic_leave dispatch node
  unfold conclude
  rw [perform_bind, left]
  exact same

theorem traffic_conclude_error (network : Network) (dispatch : Dispatch) (error : Error)
    (node : Node η) :
    ∃ after : Node η, after.traffic = node.traffic ∧
      ((perform (conclude network dispatch (.error error)) node).2 = after ∨
        (perform (conclude network dispatch (.error error)) node).2 =
          (perform (answerFailure network dispatch error) after).2) := by
  obtain ⟨answered, after, left, same⟩ := traffic_leave dispatch node
  refine ⟨after, same, ?_⟩
  unfold conclude
  rw [perform_bind, left]
  cases answered with
  | true => exact .inl rfl
  | false => exact .inr (perform_before_throw _ _ after)

theorem sends_conclude (network : Network) (dispatch : Dispatch) (result : Except Error Unit)
    (node : Node η) : Sends (conclude network dispatch result) node := by
  cases result with
  | ok => exact .of_silent (traffic_conclude_ok network dispatch node)
  | error error =>
      obtain ⟨after, same, left | answered⟩ := traffic_conclude_error network dispatch error node
      · exact .of_silent (by rw [left, same])
      · obtain ⟨traffic, ends, grown⟩ := sends_answerFailure network dispatch error after
        exact ⟨traffic, ends, by rw [answered, grown, same]⟩

theorem handed_conclude_of_final (final : dispatch.message.Final) (result : Except Error Unit)
    (node : Node η) : handed (conclude network dispatch result) node = [] := by
  apply handed_eq_nil
  cases result with
  | ok => exact traffic_conclude_ok network dispatch node
  | error error =>
      obtain ⟨after, same, left | answered⟩ := traffic_conclude_error network dispatch error node
      · rw [left, same]
      · rw [answered, perform_answerFailure_of_final final, same]

/-! ## The built-in answer -/

theorem perform_respond (network : Network) (peer : SocketAddress) (request message : Message)
    (node : Node η) :
    (perform (respond network peer request message) node).1 =
        (perform (transmit network peer (message.withSequence request.sequence)) node).1 ∧
      (perform (respond network peer request message) node).2.traffic =
        (perform (transmit network peer (message.withSequence request.sequence))
          node).2.traffic := by
  unfold respond
  rw [perform_bind]
  cases perform (transmit network peer (message.withSequence request.sequence)) node with
  | mk result after => cases result <;> exact ⟨rfl, rfl⟩

theorem sends_answerEcho (network : Network) (dispatch : Dispatch) (node : Node η) :
    Sends (answerEcho network dispatch) node ∧
      ((perform (answerEcho network dispatch) node).1 ≠ .ok () →
        (handed (answerEcho network dispatch) node).sent = []) := by
  let response := Message.echoResponse 0 node.endpoint.config.restartCounter
  have final : (response.withSequence dispatch.message.sequence).Final :=
    .withSequence (.ofElements rfl _ _) _
  obtain ⟨result, grown⟩ :=
    perform_respond network dispatch.peer dispatch.message response node
  obtain ⟨traffic, same, kind, failed⟩ :=
    transmit_cases network dispatch.peer (response.withSequence dispatch.message.sequence) node
  have answered : perform (answerEcho network dispatch) node =
      perform (respond network dispatch.peer dispatch.message response) node := by
    rw [answerEcho, perform_bind, perform_get]
  have own : (perform (answerEcho network dispatch) node).2.traffic = node.traffic ++ traffic := by
    rw [answered, grown, same]
  constructor
  · rcases kind with rfl | ⟨octets, failure, written, rfl⟩
    · exact .of_silent (own.trans (List.append_nil _))
    · exact ⟨_, .once final written dispatch.peer failure, own⟩
  · intro error
    rw [answered, result] at error
    rw [handed_eq own]
    exact failed error

/-! ## Dispatches -/

/-- What a dispatch hands to the network of its own accord. The message is refused, or its handler
ends in some result, that of the built-in answer or any result of another handler; in between,
anything may have happened to the node. -/
inductive Automatic (η : Type) (network : Network) (dispatch : Dispatch) : Traffic → Prop where
  | refused {node : Node η} {error : Error}
      (assembled : Endpoint.Assembled node.endpoint.handlers)
      (refused : (perform (accept network dispatch) node).1 = .error error) :
      Automatic η network dispatch (handed (accept network dispatch) node)
  | echo {node : Node η} (inside after : Node η)
      (assembled : Endpoint.Assembled node.endpoint.handlers)
      (admitted : (perform (accept network dispatch) node).1 = .ok .echo) :
      Automatic η network dispatch
        (handed (accept network dispatch) node ++ handed (answerEcho network dispatch) inside ++
          handed (conclude network dispatch (perform (answerEcho network dispatch) inside).1) after)
  | other {node : Node η} {handler : Handler η} (after : Node η) (result : Except Error Unit)
      (assembled : Endpoint.Assembled node.endpoint.handlers)
      (admitted : (perform (accept network dispatch) node).1 = .ok handler)
      (different : handler ≠ .echo) :
      Automatic η network dispatch
        (handed (accept network dispatch) node ++ handed (conclude network dispatch result) after)

namespace Automatic

variable {traffic : Traffic}

theorem ends (automatic : Automatic η network dispatch traffic) :
    ∃ part : Traffic, part.Ends ∧ traffic.sent = part.sent := by
  cases automatic with
  | refused => exact ⟨_, (sends_accept network dispatch _).ends, rfl⟩
  | echo inside after _ admitted =>
      obtain ⟨sends, failed⟩ := sends_answerEcho network dispatch inside
      rw [(accept_of_ok admitted).1, List.nil_append, sent_append]
      by_cases done : (perform (answerEcho network dispatch) inside).1 = .ok ()
      · refine ⟨_, sends.ends, ?_⟩
        rw [done, handed_eq_nil (traffic_conclude_ok network dispatch after)]
        exact List.append_nil _
      · -- nobody took the response, so that an answer to the failure is the first datagram
        rw [failed done, List.nil_append]
        exact ⟨_, (sends_conclude network dispatch _ after).ends, rfl⟩
  | other after result _ admitted _ =>
      rw [(accept_of_ok admitted).1, List.nil_append]
      exact ⟨_, (sends_conclude network dispatch result after).ends, rfl⟩

theorem eq_nil_of_final (automatic : Automatic η network dispatch traffic)
    (final : dispatch.message.Final) : traffic = [] := by
  cases automatic with
  | refused => exact handed_accept_of_final final _
  | echo _ _ assembled admitted =>
      -- the built-in answer is for echo requests alone, and those are not final
      have type := assembled.type_of_echo (accept_of_ok admitted).2
      have request : dispatch.message.isRequest = true := by
        unfold Message.isRequest Message.response?
        rw [type]
        rfl
      cases request.symm.trans final.answers
  | other => rw [handed_accept_of_final final, handed_conclude_of_final final, List.append_nil]

theorem unanswered {η' : Type} {network' : Network} {groups : Groups} {peer : SocketAddress}
    {message : Message} {datagram : Datagram} {limit : Nat} {replies : Traffic}
    (automatic : Automatic η network dispatch traffic) (sent : datagram ∈ traffic.sent)
    (parsed : Message.parse groups (datagram.octets.take limit) = .ok message)
    (reply : Automatic η' network' ⟨peer, message⟩ replies) : replies = [] := by
  obtain ⟨part, ends, same⟩ := automatic.ends
  rw [same] at sent
  cases ends with
  | nothing => cases sent
  | once final written peer failure =>
      cases failure with
      | some error => cases sent
      | none =>
          rw [List.mem_singleton.mp sent] at parsed
          exact reply.eq_nil_of_final (final.of_parse written parsed)

theorem length_sent_le (automatic : Automatic η network dispatch traffic) :
    traffic.sent.length ≤ 1 := by
  obtain ⟨part, ends, same⟩ := automatic.ends
  rw [same]
  cases ends with
  | nothing => exact Nat.zero_le 1
  | once _ _ _ failure => cases failure <;> simp [sent]

end Automatic

theorem automatic_handle {custom : η → Dispatch → Action η Unit}
    (assembled : Endpoint.Assembled node.endpoint.handlers)
    (silent : ∀ (handler : η) (node : Node η),
      (perform (custom handler dispatch) node).2.traffic = node.traffic) :
    ∃ traffic, Automatic η network dispatch traffic ∧
      (perform (handle network custom dispatch.peer dispatch.message) node).2.traffic =
        node.traffic ++ traffic := by
  have grown := (sends_accept network dispatch node).grown
  rw [handle_eq, perform_bind]
  cases accepted : perform (accept network dispatch) node with
  | mk result entered =>
      have status := congrArg Prod.fst accepted
      rw [accepted] at grown
      simp only at grown
      cases result with
      | error error => exact ⟨_, .refused assembled status, grown⟩
      | ok handler =>
          simp only
          rw [perform_bind, perform_outcome]
          simp only
          rw [(sends_conclude network dispatch _ _).grown]
          cases handler with
          | echo =>
              let answered := perform (answerEcho network dispatch) entered
              refine ⟨_, .echo entered answered.2 assembled status, ?_⟩
              simp only [run]
              rw [(sends_answerEcho network dispatch entered).1.grown, grown, List.append_assoc,
                List.append_assoc, List.append_assoc]
          | ignore =>
              refine ⟨_, .other entered (.ok ()) assembled status nofun, ?_⟩
              simp only [run]
              rw [perform_pure, grown, List.append_assoc]
          | custom handler =>
              let ended := perform (custom handler dispatch) entered
              refine ⟨_, .other ended.2 ended.1 assembled status nofun, ?_⟩
              simp only [run]
              rw [silent, grown, List.append_assoc]

/-- A dispatch sends at most one datagram of its own accord, and whoever receives that one and reads
it sends nothing of its own accord in reply, whatever its settings, handlers and sessions are. -/
theorem automatic_once_unanswered {traffic : Traffic}
    (automatic : Automatic η network dispatch traffic) :
    traffic.sent.length ≤ 1 ∧
      ∀ datagram ∈ traffic.sent, ∀ (limit : Nat) (groups : Groups) (message : Message),
        Message.parse groups (datagram.octets.take limit) = .ok message →
        ∀ (η' : Type) (network' : Network) (peer : SocketAddress) (replies : Traffic),
          Automatic η' network' ⟨peer, message⟩ replies → replies = [] :=
  ⟨automatic.length_sent_le, fun _ sent _ _ _ parsed _ _ _ _ reply =>
    automatic.unanswered sent parsed reply⟩

theorem automatic_once_unanswered_echo :
    let asked : Node Unit := { endpoint := { Endpoint.ofConfig {} with bound := true } }
    let told : Node Unit :=
      { endpoint := { (Endpoint.ofConfig {}).addHandlers [(2, ())] with bound := true } }
    let answer : Datagram := ⟨default, [0x40, 2, 0, 9, 0, 0, 7, 0, 3, 0, 1, 0, 0]⟩
    let message : Message :=
      { header := { type := 2, length := 9, teid := none, sequence := 7 }
        body := .ofElements 2 [.leaf .recovery 0 [0]] }
    let traffic : Traffic := [⟨answer, none⟩]
    (perform (accept .reachable ⟨default, .echoRequest 7 0⟩) asked).1 = .ok .echo ∧
      Automatic Unit .reachable ⟨default, .echoRequest 7 0⟩ traffic ∧ traffic.sent.length ≤ 1 ∧
      Message.parse .standard (answer.octets.take 65535) = .ok message ∧
      (perform (accept .reachable ⟨default, message⟩) told).1 = .ok (.custom ()) ∧
      handed (accept .reachable ⟨default, message⟩) told ++
        handed (conclude .reachable ⟨default, message⟩ (.error (.missingElement 1))) told = [] := by
  intro asked told answer message traffic
  have asks : (perform (accept .reachable ⟨default, .echoRequest 7 0⟩) asked).1 = .ok .echo := rfl
  have tells : (perform (accept .reachable ⟨default, message⟩) told).1 = .ok (.custom ()) := rfl
  have answered : handed (answerEcho .reachable ⟨default, .echoRequest 7 0⟩) asked = traffic := by
    decide +zetaReduce
  have automatic : Automatic Unit .reachable ⟨default, .echoRequest 7 0⟩ traffic :=
    answered ▸ .echo asked asked .builtIn asks
  have parsed : Message.parse .standard (answer.octets.take 65535) = .ok message := by
    unfold answer message
    rfl
  obtain ⟨once, unanswered⟩ := automatic_once_unanswered automatic
  refine ⟨asks, automatic, once, parsed, tells, ?_⟩
  exact unanswered answer List.mem_cons_self 65535 .standard message parsed Unit .reachable
    default _ (.other told (.error (.missingElement 1)) (.addHandlers .builtIn [(2, ())]) tells
      nofun)

end Action

end TunnelControl
