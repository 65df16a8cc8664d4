import TunnelControl.Proofs.Endpoint.Answering
import TunnelControl.Proofs.Endpoint.Automatic
import TunnelControl.Proofs.Endpoint.Retirement

namespace TunnelControl

namespace Error

variable {error : Error} {verdict : Verdict}

inductive Tells : Error → Verdict → Prop where
  | missingElement (type : UInt8) :
      Tells (.missingElement type)
        { cause := Cause.mandatoryElementMissing, offending := some { type } }
  | unknownTeid (teid : UInt32) : Tells (.unknownTeid teid) { cause := Cause.contextNotFound }
  | unknownImsi (imsi : String) : Tells (.unknownImsi imsi) { cause := Cause.contextNotFound }
  | inHandler {failure : Error} {verdict : Verdict} (type : UInt8) (peer : SocketAddress)
      (tells : Tells failure verdict) : Tells (.inHandler type peer failure) verdict

theorem verdict?_eq_some : error.verdict? = some verdict ↔ error.Tells verdict := by
  constructor
  · intro calls
    induction error with
    | inHandler type peer failure ih => exact .inHandler type peer (ih calls)
    | missingElement type =>
        cases calls
        exact .missingElement type
    | unknownTeid teid =>
        cases calls
        exact .unknownTeid teid
    | unknownImsi imsi =>
        cases calls
        exact .unknownImsi imsi
    | _ => cases calls
  · intro tells
    induction tells with
    | inHandler _ _ _ ih => exact ih
    | _ => rfl

end Error

namespace Dispatch

def Negative (dispatch : Dispatch) (error : Error) (message : Message) : Prop :=
  ∃ type verdict, dispatch.message.response? = some type ∧ error.Tells verdict ∧
    message = .ofElements type.code 0 dispatch.message.sequence [.ofVerdict verdict]

theorem Negative.isRequest {dispatch : Dispatch} {error : Error} {message : Message}
    (negative : dispatch.Negative error message) : dispatch.message.isRequest = true := by
  obtain ⟨type, _, answered, _⟩ := negative
  rw [Message.isRequest, answered]
  rfl

end Dispatch

namespace Node

variable {η : Type}

def entered (dispatch : Dispatch) (node : Node η) : Node η :=
  if dispatch.message.isRequest then
    { node with endpoint.inFlight := node.endpoint.inFlight.insertNew dispatch.exchange false }
  else node

def left (dispatch : Dispatch) (node : Node η) : Node η :=
  if dispatch.message.isRequest then
    { node with endpoint.inFlight := node.endpoint.inFlight.erase dispatch.exchange }
  else node

end Node

structure Legitimate {η : Type} (node : Node η) (dispatch : Dispatch) : Prop where
  version : dispatch.message.header.version = Header.supportedVersion
  addressed : ∀ teid, dispatch.message.header.teid = some teid → teid ≠ 0 →
    ∃ id, node.endpoint.byTeid.get? teid = some (.session id) ∧
      (node.session id).peer = dispatch.peer

structure Admits {η : Type} (node : Node η) (dispatch : Dispatch) (handler : Handler η) : Prop where
  checked : node.endpoint.validation = true → Legitimate node dispatch
  found : node.endpoint.handlers.get? dispatch.message.type = some handler

inductive Refusal {η : Type} (node : Node η) (dispatch : Dispatch) :
    Error → Option Message → Prop where
  | version (checks : node.endpoint.validation = true)
      (foreign : dispatch.message.header.version ≠ Header.supportedVersion) :
      Refusal node dispatch (.foreignVersion dispatch.message.header.version)
        (some (.versionNotSupported dispatch.message.sequence))
  | teid {teid : UInt32} (checks : node.endpoint.validation = true)
      (version : dispatch.message.header.version = Header.supportedVersion)
      (addressed : dispatch.message.header.teid = some teid) (used : teid ≠ 0)
      (unresolved : ∀ id, node.endpoint.byTeid.get? teid = some (.session id) →
        (node.session id).peer ≠ dispatch.peer) :
      Refusal node dispatch (.unknownTeid teid)
        (dispatch.message.response?.map fun type =>
          .ofElements type.code 0 dispatch.message.sequence
            [.ofVerdict { cause := Cause.contextNotFound }])
  | handler (checked : node.endpoint.validation = true → Legitimate node dispatch)
      (missing : node.endpoint.handlers.get? dispatch.message.type = none) :
      Refusal node dispatch (.noHandler dispatch.message.type) none

inductive Replies {η : Type} (network : Network) (peer : SocketAddress) (node : Node η) :
    Option Message → Traffic → Prop where
  | nothing : Replies network peer node none node.traffic
  | unbound (unbound : node.endpoint.bound = false) (message : Message) :
      Replies network peer node (some message) node.traffic
  | handed {message : Message} {octets : Octets} (bound : node.endpoint.bound = true)
      (written : message.marshal = .ok octets) :
      Replies network peer node (some message)
        (node.traffic ++ [⟨⟨peer, octets⟩, network node.traffic ⟨peer, octets⟩⟩])

theorem Replies.of_left {η : Type} {network : Network} {peer : SocketAddress} {ended : Node η}
    {dispatch : Dispatch} {reply : Option Message} {traffic : Traffic}
    (replies : Replies network peer (ended.left dispatch) reply traffic) :
    Replies network peer ended reply traffic := by
  have bound : (ended.left dispatch).endpoint.bound = ended.endpoint.bound := by
    unfold Node.left
    split <;> rfl
  have same : (ended.left dispatch).traffic = ended.traffic := by
    unfold Node.left
    split <;> rfl
  cases replies with
  | nothing => exact same ▸ .nothing
  | unbound unbound message => exact same ▸ .unbound (bound.symm.trans unbound) message
  | handed sent written =>
      rw [same]
      exact .handed (bound.symm.trans sent) written

namespace Action

variable {η : Type} {network : Network} {node ended : Node η} {dispatch : Dispatch}
  {handler : Handler η} {error : Error}

/-! ## Replies -/

theorem transmit_replies {message : Message} {octets : Octets}
    (written : message.marshal = .ok octets) (network : Network) (peer : SocketAddress)
    (node : Node η) :
    ∃ traffic, Replies network peer node (some message) traffic ∧
      (perform (transmit network peer message) node).2 = { node with traffic } := by
  cases bound : node.endpoint.bound with
  | true =>
      refine ⟨_, .handed bound written, ?_⟩
      unfold perform transmit
      simp only [written, bound, if_true]
      unfold Node.hand
      cases network node.traffic ⟨peer, octets⟩ <;> rfl
  | false => exact ⟨_, .unbound bound message, perform_transmit_unbound bound⟩

theorem answerFailure_replies (network : Network) (dispatch : Dispatch) (error : Error)
    (node : Node η) :
    ∃ reply traffic, (∀ message, reply = some message ↔ dispatch.Negative error message) ∧
      Replies network dispatch.peer node reply traffic ∧
      (perform (answerFailure network dispatch error) node).2 = { node with traffic } := by
  cases expected : dispatch.message.response? with
  | none =>
      have request : dispatch.message.isRequest = false := by rw [Message.isRequest, expected]; rfl
      refine ⟨none, _, fun message => iff_of_false nofun ?_, .nothing, ?_⟩
      · rintro ⟨_, _, answered, _⟩
        cases expected.symm.trans answered
      · simp only [answerFailure, request]
        rfl
  | some type =>
      have request : dispatch.message.isRequest = true := by rw [Message.isRequest, expected]; rfl
      cases calls : error.verdict? with
      | none =>
          refine ⟨none, _, fun message => iff_of_false nofun ?_, .nothing, ?_⟩
          · rintro ⟨_, _, _, tells, _⟩
            cases calls.symm.trans (Error.verdict?_eq_some.mpr tells)
          · simp only [answerFailure, request, if_true, calls, perform_pure]
      | some verdict =>
          obtain ⟨octets, written⟩ :=
            Message.marshal_ofVerdict type.code 0 dispatch.message.sequence verdict
          obtain ⟨traffic, replies, performed⟩ :=
            transmit_replies written network dispatch.peer node
          refine ⟨_, traffic, fun message => ?_, replies, ?_⟩
          · constructor
            · intro same
              exact ⟨type, verdict, expected, Error.verdict?_eq_some.mp calls,
                (Option.some.inj same).symm⟩
            · rintro ⟨_, _, answered, tells, rfl⟩
              cases expected.symm.trans answered
              cases calls.symm.trans (Error.verdict?_eq_some.mpr tells)
              rfl
          · rw [perform_answerFailure request calls]
            simp only [replyWithCause, expected]
            exact performed

/-! ## Messages that are let in or refused -/

theorem perform_enter (dispatch : Dispatch) (node : Node η) :
    perform (enter dispatch) node = (.ok (), node.entered dispatch) := by
  unfold enter Node.entered
  split <;> rfl

theorem perform_letIn (dispatch : Dispatch) (node : Node η) :
    perform (letIn dispatch) node =
      match node.endpoint.handlers.get? dispatch.message.type with
      | none => (.error (.noHandler dispatch.message.type), node)
      | some handler => (.ok handler, node.entered dispatch) := by
  unfold letIn
  rw [perform_bind, perform_get]
  simp only
  cases node.endpoint.handlers.get? dispatch.message.type with
  | none => rfl
  | some handler =>
      simp only
      rw [perform_bind, perform_enter]
      rfl

theorem perform_accept (checked : node.endpoint.validation = true → Legitimate node dispatch) :
    perform (accept network dispatch) node = perform (letIn dispatch) node := by
  rw [accept_eq, perform_bind, perform_get]
  simp only
  split
  · next checks =>
      obtain ⟨version, addressed⟩ := checked checks
      have passed : perform (validate network dispatch) node = (.ok (), node) := by
        rw [perform_validate]
        simp only [version, ne_eq, not_true_eq_false, if_false]
        split
        · rfl
        · next teid named =>
            obtain ⟨own, used⟩ := Option.filter_eq_some_iff.mp named
            obtain ⟨id, entry⟩ := addressed teid own (by simpa using used)
            rw [Node.findTeid_eq_ok.mpr entry]
      rw [perform_bind, passed]
  · rfl

theorem exists_unresolved (version : dispatch.message.header.version = Header.supportedVersion)
    (refused : ¬ Legitimate node dispatch) :
    ∃ teid, dispatch.message.header.teid = some teid ∧ teid ≠ 0 ∧
      ∀ id, node.endpoint.byTeid.get? teid = some (.session id) →
        (node.session id).peer ≠ dispatch.peer := by
  by_contra resolved
  refine refused ⟨version, fun teid addressed used => ?_⟩
  by_contra lost
  exact resolved ⟨teid, addressed, used, fun id entry same => lost ⟨id, entry, same⟩⟩

theorem perform_validate_unresolved {teid : UInt32} (network : Network)
    (version : dispatch.message.header.version = Header.supportedVersion)
    (addressed : dispatch.message.header.teid = some teid) (used : teid ≠ 0)
    (unresolved : ∀ id, node.endpoint.byTeid.get? teid = some (.session id) →
      (node.session id).peer ≠ dispatch.peer) :
    perform (validate network dispatch) node =
      (.error (.unknownTeid teid),
        (perform (answerFailure network dispatch (.unknownTeid teid)) node).2) := by
  have lost : node.findTeid teid dispatch.peer = .error (.unknownTeid teid) := by
    unfold Node.findTeid
    split
    · next id entry => rw [if_neg (unresolved id entry)]
    · rfl
  rw [perform_validate]
  simp [version, addressed, Option.filter, used, lost]

theorem negative_unknownTeid {teid : UInt32} {message : Message} :
    dispatch.Negative (.unknownTeid teid) message ↔
      (dispatch.message.response?.map fun type => .ofElements type.code 0 dispatch.message.sequence
        [.ofVerdict { cause := Cause.contextNotFound }]) = some message := by
  rw [Option.map_eq_some_iff]
  constructor
  · rintro ⟨type, _, answered, ⟨⟩, rfl⟩
    exact ⟨type, answered, rfl⟩
  · rintro ⟨type, answered, rfl⟩
    exact ⟨type, _, answered, .unknownTeid teid, rfl⟩

theorem refusal_of_not_legitimate (network : Network) (checks : node.endpoint.validation = true)
    (refused : ¬ Legitimate node dispatch) :
    ∃ error reply traffic, Refusal node dispatch error reply ∧
      Replies network dispatch.peer node reply traffic ∧
      perform (accept network dispatch) node = (.error error, { node with traffic }) := by
  rw [accept_eq, perform_bind, perform_get]
  simp only [checks, if_true]
  rw [perform_bind]
  by_cases version : dispatch.message.header.version = Header.supportedVersion
  · obtain ⟨teid, addressed, used, unresolved⟩ := exists_unresolved version refused
    obtain ⟨reply, traffic, negative, replies, performed⟩ :=
      answerFailure_replies network dispatch (.unknownTeid teid) node
    have told := Option.ext fun message => (negative message).trans negative_unknownTeid
    rw [perform_validate_unresolved network version addressed used unresolved, performed]
    exact ⟨_, _, traffic, .teid checks version addressed used unresolved, told ▸ replies, rfl⟩
  · obtain ⟨octets, written⟩ := Message.marshal_versionNotSupported dispatch.message.header.sequence
    obtain ⟨traffic, replies, performed⟩ := transmit_replies written network dispatch.peer node
    rw [perform_validate]
    simp only [version, ne_eq, not_false_eq_true, if_true, performed]
    exact ⟨_, _, traffic, .version checks version, replies, rfl⟩

theorem refusal_of_not_admits (network : Network)
    (refused : ∀ handler, ¬ Admits node dispatch handler) :
    ∃ error reply traffic, Refusal node dispatch error reply ∧
      Replies network dispatch.peer node reply traffic ∧
      perform (accept network dispatch) node = (.error error, { node with traffic }) := by
  by_cases checked : node.endpoint.validation = true → Legitimate node dispatch
  · have missing : node.endpoint.handlers.get? dispatch.message.type = none :=
      Option.eq_none_iff_forall_ne_some.mpr fun handler found => refused handler ⟨checked, found⟩
    refine ⟨_, none, _, .handler checked missing, .nothing, ?_⟩
    rw [perform_accept checked, perform_letIn, missing]
  · obtain ⟨checks, failed⟩ := Classical.not_imp.mp checked
    exact refusal_of_not_legitimate network checks failed

theorem perform_accept_of_admits (network : Network) (admits : Admits node dispatch handler) :
    perform (accept network dispatch) node = (.ok handler, node.entered dispatch) := by
  rw [perform_accept admits.checked, perform_letIn, admits.found]

theorem accept_eq_ok : (perform (accept network dispatch) node).1 = .ok handler ↔
    Admits node dispatch handler := by
  constructor
  · intro accepted
    by_contra refused
    have other : ∀ other, ¬ Admits node dispatch other := by
      intro other admits
      rw [perform_accept_of_admits network admits] at accepted
      cases accepted
      exact refused admits
    obtain ⟨_, _, _, _, _, performed⟩ := refusal_of_not_admits network other
    rw [performed] at accepted
    cases accepted
  · intro admits
    rw [perform_accept_of_admits network admits]

theorem perform_handle_of_admits (network : Network) (custom : η → Dispatch → Action η Unit)
    (admits : Admits node dispatch handler) :
    perform (handle network custom dispatch.peer dispatch.message) node =
      let (result, ended) := perform (run network custom dispatch handler) (node.entered dispatch)
      perform (conclude network dispatch result) ended := by
  rw [handle_eq, perform_bind, perform_accept_of_admits network admits]
  simp only
  rw [perform_bind, perform_outcome]

/-! ## The end of a handler -/

theorem perform_leave_eq (dispatch : Dispatch) (ended : Node η) :
    perform (leave dispatch) ended =
      (.ok (dispatch.message.isRequest &&
        ended.endpoint.inFlight.get? dispatch.exchange = some true), ended.left dispatch) := by
  cases request : dispatch.message.isRequest with
  | true => rw [perform_leave request, Node.left, if_pos request, Bool.true_and]
  | false =>
      unfold leave Node.left
      simp only [request]
      rfl

theorem perform_conclude_ok (network : Network) (dispatch : Dispatch) (ended : Node η) :
    perform (conclude network dispatch (.ok ())) ended = (.ok (), ended.left dispatch) := by
  unfold conclude
  rw [perform_bind, perform_leave_eq]
  rfl

theorem perform_conclude_of_answered (error : Error) (request : dispatch.message.isRequest = true)
    (answered : ended.endpoint.inFlight.get? dispatch.exchange = some true) :
    perform (conclude network dispatch (.error error)) ended =
      (.error (.inHandler dispatch.message.type dispatch.peer error), ended.left dispatch) := by
  unfold conclude
  rw [perform_bind, perform_leave_eq, request, answered]
  rfl

theorem perform_conclude_of_unanswered (error : Error)
    (unanswered : ¬ (dispatch.message.isRequest = true ∧
      ended.endpoint.inFlight.get? dispatch.exchange = some true)) :
    perform (conclude network dispatch (.error error)) ended =
      (.error (.inHandler dispatch.message.type dispatch.peer error),
        (perform (answerFailure network dispatch error) (ended.left dispatch)).2) := by
  have untouched : (dispatch.message.isRequest &&
      decide (ended.endpoint.inFlight.get? dispatch.exchange = some true)) = false := by
    simpa using unanswered
  unfold conclude
  rw [perform_bind, perform_leave_eq, untouched]
  simp only [Bool.not_false, if_true]
  rw [perform_bind]
  have done := perform_answerFailure_fst network dispatch error (ended.left dispatch)
  cases performed : perform (answerFailure network dispatch error) (ended.left dispatch) with
  | mk result after =>
      rw [performed] at done
      cases done
      rfl

theorem conclude_replies (network : Network) (dispatch : Dispatch) (error : Error)
    (ended : Node η) :
    ∃ reply traffic,
      (∀ message, reply = some message ↔
        ended.endpoint.inFlight.get? dispatch.exchange ≠ some true ∧
          dispatch.Negative error message) ∧
      Replies network dispatch.peer ended reply traffic ∧
      perform (conclude network dispatch (.error error)) ended =
        (.error (.inHandler dispatch.message.type dispatch.peer error),
          { ended.left dispatch with traffic }) := by
  by_cases answered : dispatch.message.isRequest = true ∧
      ended.endpoint.inFlight.get? dispatch.exchange = some true
  · refine ⟨none, _, fun message => iff_of_false nofun fun told => told.1 answered.2, .nothing, ?_⟩
    rw [perform_conclude_of_answered error answered.1 answered.2]
    unfold Node.left
    split <;> rfl
  · obtain ⟨reply, traffic, negative, replies, performed⟩ :=
      answerFailure_replies network dispatch error (ended.left dispatch)
    refine ⟨reply, traffic, fun message => (negative message).trans ?_, replies.of_left, ?_⟩
    · -- only requests have a negative response
      exact ⟨fun told => ⟨fun noted => answered ⟨told.isRequest, noted⟩, told⟩, And.right⟩
    · rw [perform_conclude_of_unanswered error answered, performed]

/-! ## Handlers at work -/

/-- How a handler gets from a start to a node, and whether it has answered the exchange by then. -/
inductive Work (network : Network) (exchange : Exchange) (start : Node η) :
    Bool → Node η → Prop where
  | start : Work network exchange start false start
  | respond {answered : Bool} {node : Node η} {peer : SocketAddress} {request message : Message}
      (earlier : Work network exchange start answered node)
      (done : (perform (respond network peer request message) node).1 = .ok ()) :
      Work network exchange start (answered || (peer, request.sequence) = exchange)
        (perform (respond network peer request message) node).2
  | reject {answered : Bool} {node : Node η} {peer : SocketAddress} {request : Message}
      {cause : UInt8} {offending : Option (ElementType × UInt8)}
      (earlier : Work network exchange start answered node)
      (done : (perform (reject network peer request cause offending) node).1 = .ok ()) :
      Work network exchange start (answered || (peer, request.sequence) = exchange)
        (perform (reject network peer request cause offending) node).2
  | other {answered : Bool} {node after : Node η}
      (earlier : Work network exchange start answered node)
      (same : after.endpoint.inFlight.get? exchange = node.endpoint.inFlight.get? exchange) :
      Work network exchange start answered after

theorem Work.note {exchange : Exchange} {start : Node η} {answered : Bool}
    (work : Work network exchange start answered node)
    (noted : start.endpoint.inFlight.get? exchange = some false) :
    node.endpoint.inFlight.get? exchange = some answered := by
  have mark {endpoint : Endpoint η} {answered : Bool} (other : Exchange)
      (ih : endpoint.inFlight.get? exchange = some answered) :
      (endpoint.markAnswered other).inFlight.get? exchange =
        some (answered || other = exchange) := by
    unfold Endpoint.markAnswered
    rw [Table.get?_modify]
    split
    · next same =>
        subst same
        simp [ih]
    · next different => simp [ih, Ne.symm different]
  induction work with
  | start => exact noted
  | respond _ done ih =>
      rw [endpoint_respond done]
      exact mark _ ih
  | reject _ done ih =>
      rw [endpoint_reject done]
      exact mark _ ih
  | other _ same ih => exact same.trans ih

theorem endpoint_respond_failed {peer : SocketAddress} {request message : Message}
    (failed : (perform (respond network peer request message) node).1 ≠ .ok ()) :
    (perform (respond network peer request message) node).2.endpoint = node.endpoint := by
  have silent := endpoint_transmit network peer (message.withSequence request.sequence) node
  unfold respond at failed ⊢
  rw [perform_bind] at failed ⊢
  cases performed : perform
      (transmit network peer (message.withSequence request.sequence)) node with
  | mk result after =>
      rw [performed] at failed silent
      cases result with
      | error error => exact silent
      | ok => exact absurd rfl failed

theorem work_builtIn {custom : η → Dispatch → Action η Unit} {start : Node η}
    (own : ∀ added, handler ≠ .custom added)
    (ran : perform (run network custom dispatch handler) start = (.error error, ended))
    (exchange : Exchange) : Work network exchange start false ended := by
  cases handler with
  | custom added => exact absurd rfl (own added)
  | ignore => cases ran
  | echo =>
      rw [run, answerEcho, perform_bind, perform_get] at ran
      have failed : (perform (respond network dispatch.peer dispatch.message
          (.echoResponse 0 start.endpoint.config.restartCounter)) start).1 ≠ .ok () := by
        intro done
        rw [congrArg Prod.fst ran] at done
        cases done
      have same := endpoint_respond_failed failed
      rw [congrArg Prod.snd ran] at same
      exact .other .start (by rw [same])

theorem get?_entered (request : dispatch.message.isRequest = true)
    (quiet : node.endpoint.inFlight.get? dispatch.exchange ≠ some true) :
    (node.entered dispatch).endpoint.inFlight.get? dispatch.exchange = some false := by
  unfold Node.entered
  rw [if_pos request, Table.get?_insertNew, if_pos rfl]
  cases noted : node.endpoint.inFlight.get? dispatch.exchange with
  | none => rfl
  | some answered =>
      cases answered with
      | true => exact absurd noted quiet
      | false => rfl

theorem quiet_of_run {start : Node η} {history : List Handling.Event}
    (run : Handling.Run network start history node) (vacant : start.endpoint.inFlight = .empty)
    (outside : ∀ other, Handling.Inside other history → other.exchange ≠ dispatch.exchange) :
    node.endpoint.inFlight.get? dispatch.exchange ≠ some true := by
  intro noted
  have opened := Handling.open_of_marked (((run.noted vacant).isMarked _).mp noted)
  obtain ⟨other, inside, same⟩ := run.inside_of_open opened
  exact outside other inside same

theorem perform_handle_failed {custom : η → Dispatch → Action η Unit} {answered : Bool}
    (admits : Admits node dispatch handler)
    (ran : perform (run network custom dispatch handler) (node.entered dispatch) =
      (.error error, ended))
    (quiet : node.endpoint.inFlight.get? dispatch.exchange ≠ some true)
    (work : Work network dispatch.exchange (node.entered dispatch) answered ended) :
    ∃ reply traffic,
      (∀ message, reply = some message ↔ answered = false ∧ dispatch.Negative error message) ∧
      Replies network dispatch.peer ended reply traffic ∧
      perform (handle network custom dispatch.peer dispatch.message) node =
        (.error (.inHandler dispatch.message.type dispatch.peer error),
          { ended.left dispatch with traffic }) := by
  obtain ⟨reply, traffic, negative, replies, performed⟩ :=
    conclude_replies network dispatch error ended
  refine ⟨reply, traffic, fun message => (negative message).trans ?_, replies, ?_⟩
  · apply and_congr_left
    intro told
    rw [work.note (get?_entered told.isRequest quiet)]
    cases answered <;> simp
  · rw [perform_handle_of_admits network custom admits, ran]
    exact performed

/-- After any run, as long as no other request of the exchange is inside its handler, a failed
handler has its request answered exactly if it did not do so itself. -/
theorem handle_failed_of_run {start : Node η} {history : List Handling.Event}
    {custom : η → Dispatch → Action η Unit} {answered : Bool}
    (run : Handling.Run network start history node) (vacant : start.endpoint.inFlight = .empty)
    (outside : ∀ other, Handling.Inside other history → other.exchange ≠ dispatch.exchange)
    (admits : Admits node dispatch handler)
    (ran : perform (Action.run network custom dispatch handler) (node.entered dispatch) =
      (.error error, ended))
    (work : Work network dispatch.exchange (node.entered dispatch) answered ended) :
    ∃ reply traffic,
      (∀ message, reply = some message ↔ answered = false ∧ dispatch.Negative error message) ∧
      Replies network dispatch.peer ended reply traffic ∧
      perform (handle network custom dispatch.peer dispatch.message) node =
        (.error (.inHandler dispatch.message.type dispatch.peer error),
          { ended.left dispatch with traffic }) :=
  perform_handle_failed admits ran (quiet_of_run run vacant outside) work

theorem handle_builtIn_failed_of_run {start : Node η} {history : List Handling.Event}
    {custom : η → Dispatch → Action η Unit}
    (run : Handling.Run network start history node) (vacant : start.endpoint.inFlight = .empty)
    (outside : ∀ other, Handling.Inside other history → other.exchange ≠ dispatch.exchange)
    (admits : Admits node dispatch handler) (own : ∀ added, handler ≠ .custom added)
    (ran : perform (Action.run network custom dispatch handler) (node.entered dispatch) =
      (.error error, ended)) :
    ∃ reply traffic, (∀ message, reply = some message ↔ dispatch.Negative error message) ∧
      Replies network dispatch.peer ended reply traffic ∧
      perform (handle network custom dispatch.peer dispatch.message) node =
        (.error (.inHandler dispatch.message.type dispatch.peer error),
          { ended.left dispatch with traffic }) := by
  obtain ⟨reply, traffic, negative, handled⟩ :=
    handle_failed_of_run run vacant outside admits ran (work_builtIn own ran dispatch.exchange)
  exact ⟨reply, traffic, fun message => (negative message).trans (and_iff_right rfl), handled⟩

/-! ## What a message meets with -/

/-- What becomes of a message that is handled at a node: which handler it is for, what happens if it
is for none, and what follows on the one run of the handler that it is for. -/
structure Gated (network : Network) (node : Node η) (dispatch : Dispatch) : Prop where
  admitted : ∀ handler, (perform (accept network dispatch) node).1 = .ok handler ↔
    Admits node dispatch handler
  refused : (∀ handler, ¬ Admits node dispatch handler) →
    ∃ error reply traffic, Refusal node dispatch error reply ∧
      Replies network dispatch.peer node reply traffic ∧
      ∀ custom, perform (handle network custom dispatch.peer dispatch.message) node =
        (.error error, { node with traffic })
  succeeded : ∀ custom handler ended, Admits node dispatch handler →
    perform (run network custom dispatch handler) (node.entered dispatch) = (.ok (), ended) →
    perform (handle network custom dispatch.peer dispatch.message) node =
      (.ok (), ended.left dispatch)
  failed : ∀ custom handler error ended answered, Admits node dispatch handler →
    perform (run network custom dispatch handler) (node.entered dispatch) = (.error error, ended) →
    node.endpoint.inFlight.get? dispatch.exchange ≠ some true →
    Work network dispatch.exchange (node.entered dispatch) answered ended →
    ∃ reply traffic,
      (∀ message, reply = some message ↔ answered = false ∧ dispatch.Negative error message) ∧
      Replies network dispatch.peer ended reply traffic ∧
      perform (handle network custom dispatch.peer dispatch.message) node =
        (.error (.inHandler dispatch.message.type dispatch.peer error),
          { ended.left dispatch with traffic })

/-- A message gets to its handler exactly if its version is supported, its session belongs to the
sender and there is a handler, of which the first two are looked at only while validation is on.
Otherwise nothing changes and there is one reply at most. A failed handler has its request answered
exactly if it did not do so itself and the failure is one that the sender is told of. -/
theorem gated (network : Network) (node : Node η) (dispatch : Dispatch) :
    Gated network node dispatch := by
  constructor
  case admitted => exact fun handler => accept_eq_ok
  case refused =>
    intro refused
    obtain ⟨error, reply, traffic, refusal, replies, performed⟩ :=
      refusal_of_not_admits network refused
    refine ⟨error, reply, traffic, refusal, replies, fun custom => ?_⟩
    rw [handle_eq, perform_bind, performed]
  case succeeded =>
    intro custom handler ended admits ran
    rw [perform_handle_of_admits network custom admits, ran]
    exact perform_conclude_ok network dispatch ended
  case failed =>
    intro custom handler error ended answered admits ran quiet work
    exact perform_handle_failed admits ran quiet work

theorem gated_wrapped :
    let node : Node Unit :=
      { endpoint :=
          { (Endpoint.ofConfig {}).addHandlers [(34, ())] with
            bound := true, byTeid := Table.empty.insert 1 (.session 0) } }
    let dispatch : Dispatch := ⟨default, .ofElements 34 1 7 []⟩
    let failure : Error := .inHandler 32 default (.missingElement 93)
    let custom : Unit → Dispatch → Action Unit Unit := fun _ _ => throw failure
    let negative : Message :=
      .ofElements 35 0 7 [.ofVerdict { cause := 70, offending := some { type := 93 } }]
    node.endpoint.validation = true ∧ Admits node dispatch (.custom ()) ∧
    ∃ octets after, negative.marshal = .ok octets ∧
      perform (handle .reachable custom dispatch.peer dispatch.message) node =
        (.error (.inHandler 34 default failure), after) ∧
      after.traffic = [⟨⟨default, octets⟩, none⟩] := by
  intro node dispatch failure custom negative
  have admits : Admits node dispatch (.custom ()) :=
    ((gated .reachable node dispatch).admitted (.custom ())).mp rfl
  have told : dispatch.Negative failure negative :=
    ⟨.modifyBearerResponse, _, rfl, .inHandler _ _ (.missingElement 93), rfl⟩
  obtain ⟨reply, traffic, same, replies, performed⟩ :=
    (gated .reachable node dispatch).failed custom (.custom ()) failure (node.entered dispatch)
      false admits rfl nofun .start
  cases (same negative).mpr ⟨rfl, told⟩
  cases replies with
  | unbound unbound => cases unbound
  | handed _ written => exact ⟨rfl, admits, _, _, written, performed, rfl⟩

end Action

end TunnelControl
