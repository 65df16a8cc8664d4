import TunnelControl.Endpoint.Dispatch
import TunnelControl.Proofs.Message.Marshal

namespace TunnelControl.Action

open Node

variable {η : Type} {network : Network} {node : Node η} {peer : SocketAddress}
  {request message : Message} {dispatch : Dispatch} {error : Error}

theorem endpoint_transmit (network : Network) (peer : SocketAddress) (message : Message)
    (node : Node η) :
    (perform (transmit network peer message) node).2.endpoint = node.endpoint := by
  unfold perform transmit
  cases message.marshal with
  | error error => rfl
  | ok octets =>
      simp only
      split
      · unfold hand
        cases network node.traffic ⟨peer, octets⟩ <;> rfl
      · rfl

theorem traffic_transmit {octets : Octets} (bound : node.endpoint.bound = true)
    (written : message.marshal = .ok octets) :
    (perform (transmit network peer message) node).2.traffic =
      node.traffic ++ [⟨⟨peer, octets⟩, network node.traffic ⟨peer, octets⟩⟩] := by
  unfold perform transmit
  simp only [written, bound, if_true]
  unfold hand
  cases network node.traffic ⟨peer, octets⟩ <;> rfl

theorem endpoint_replyWithCause (network : Network) (peer : SocketAddress) (request : Message)
    (verdict : Verdict) (node : Node η) :
    (perform (replyWithCause network peer request verdict) node).2.endpoint = node.endpoint := by
  unfold replyWithCause
  cases request.response? with
  | none => rfl
  | some type => exact endpoint_transmit network peer _ node

theorem endpoint_answered {action : Action η Unit} {exchange : Exchange}
    (silent : (perform action node).2.endpoint = node.endpoint)
    (done : (perform
      (do action; update (onEndpoint fun endpoint => ((), endpoint.markAnswered exchange)))
      node).1 = .ok ()) :
    (perform
      (do action; update (onEndpoint fun endpoint => ((), endpoint.markAnswered exchange)))
      node).2.endpoint = node.endpoint.markAnswered exchange := by
  rw [perform_bind] at done ⊢
  cases performed : perform action node with
  | mk outcome after =>
      rw [performed] at silent done
      cases outcome with
      | error error => cases done
      | ok => exact congrArg (Endpoint.markAnswered exchange) silent

theorem endpoint_respond (done : (perform (respond network peer request message) node).1 = .ok ()) :
    (perform (respond network peer request message) node).2.endpoint =
      node.endpoint.markAnswered (peer, request.sequence) :=
  endpoint_answered (endpoint_transmit network peer _ node) done

theorem endpoint_reject {cause : UInt8} {offending : Option (ElementType × UInt8)}
    (done : (perform (reject network peer request cause offending) node).1 = .ok ()) :
    (perform (reject network peer request cause offending) node).2.endpoint =
      node.endpoint.markAnswered (peer, request.sequence) :=
  endpoint_answered (endpoint_replyWithCause network peer request _ node) done

theorem perform_answerFailure {verdict : Verdict} (request : dispatch.message.isRequest = true)
    (calls : error.verdict? = some verdict) (node : Node η) :
    (perform (answerFailure network dispatch error) node).2 =
      (perform (replyWithCause network dispatch.peer dispatch.message verdict) node).2 := by
  simp only [answerFailure, request, if_true, calls]
  rw [perform_bind, perform_outcome]
  rfl

theorem endpoint_answerFailure (network : Network) (dispatch : Dispatch) (error : Error)
    (node : Node η) :
    (perform (answerFailure network dispatch error) node).2.endpoint = node.endpoint := by
  by_cases request : dispatch.message.isRequest = true
  · cases calls : error.verdict? with
    | none => simp only [answerFailure, request, if_true, calls, perform_pure]
    | some verdict =>
        rw [perform_answerFailure request calls]
        exact endpoint_replyWithCause network _ _ verdict node
  · simp only [answerFailure, request]
    rfl

theorem traffic_answerFailure (request : dispatch.message.isRequest = true)
    (calls : error.verdict? ≠ none) (bound : node.endpoint.bound = true) :
    ∃ octets, (perform (answerFailure network dispatch error) node).2.traffic =
      node.traffic ++
        [⟨⟨dispatch.peer, octets⟩, network node.traffic ⟨dispatch.peer, octets⟩⟩] := by
  obtain ⟨verdict, calls⟩ := Option.ne_none_iff_exists'.mp calls
  obtain ⟨type, expected⟩ := Option.isSome_iff_exists.mp request
  obtain ⟨octets, written⟩ :=
    Message.marshal_ofVerdict type.code 0 dispatch.message.sequence verdict
  refine ⟨octets, ?_⟩
  rw [perform_answerFailure request calls]
  simp only [replyWithCause, expected]
  exact traffic_transmit bound written

theorem perform_transmit_unbound (unbound : node.endpoint.bound = false) :
    (perform (transmit network peer message) node).2 = node := by
  unfold perform transmit
  cases message.marshal with
  | error error => rfl
  | ok octets => simp [unbound]

theorem perform_answerFailure_unbound (unbound : node.endpoint.bound = false) :
    (perform (answerFailure network dispatch error) node).2 = node := by
  by_cases request : dispatch.message.isRequest = true
  · cases calls : error.verdict? with
    | none => simp only [answerFailure, request, if_true, calls, perform_pure]
    | some verdict =>
        rw [perform_answerFailure request calls]
        unfold replyWithCause
        cases dispatch.message.response? with
        | none => rfl
        | some type => exact perform_transmit_unbound unbound
  · simp only [answerFailure, request]
    rfl

theorem perform_before_throw {α β : Type} (action : Action η α) (error : Error) (node : Node η) :
    (perform (do let _ ← action; throw error : Action η β) node).2 = (perform action node).2 := by
  rw [perform_bind]
  cases perform action node with
  | mk outcome after => cases outcome <;> rfl

theorem endpoint_validate (network : Network) (dispatch : Dispatch) (node : Node η) :
    (perform (validate network dispatch) node).2.endpoint = node.endpoint := by
  unfold validate
  simp only
  split
  · rw [perform_bind, perform_outcome]
    exact endpoint_transmit network _ _ node
  · split
    · rw [perform_bind, perform_get]
      simp only
      split
      · rfl
      · rw [perform_before_throw]
        exact endpoint_answerFailure network dispatch _ node
    · rfl

def letIn (dispatch : Dispatch) : Action η (Handler η) := do
  match (← get).endpoint.handlers.get? dispatch.message.type with
  | none => throw (.noHandler dispatch.message.type)
  | some handler =>
      enter dispatch
      return handler

theorem accept_eq (network : Network) (dispatch : Dispatch) :
    (accept network dispatch : Action η (Handler η)) =
      (do
        if (← get).endpoint.validation then validate network dispatch
        letIn dispatch) := rfl

theorem handle_eq (network : Network) (custom : η → Dispatch → Action η Unit)
    (dispatch : Dispatch) :
    handle network custom dispatch.peer dispatch.message = (do
      let handler ← accept network dispatch
      conclude network dispatch (← outcome (run network custom dispatch handler))) := rfl

theorem inFlight_letIn {handler : Handler η} (request : dispatch.message.isRequest = true)
    (admitted : (perform (letIn dispatch) node).1 = .ok handler) :
    (perform (letIn dispatch) node).2.endpoint.inFlight =
      node.endpoint.inFlight.insertNew dispatch.exchange false := by
  unfold letIn at *
  rw [perform_bind, perform_get] at *
  simp only at *
  cases found : node.endpoint.handlers.get? dispatch.message.type with
  | none =>
      rw [found] at admitted
      cases admitted
  | some handler =>
      simp only [enter, request, if_true]
      rfl

theorem inFlight_accept {handler : Handler η} (request : dispatch.message.isRequest = true)
    (accepted : (perform (accept network dispatch) node).1 = .ok handler) :
    (perform (accept network dispatch) node).2.endpoint.inFlight =
      node.endpoint.inFlight.insertNew dispatch.exchange false := by
  rw [accept_eq, perform_bind, perform_get] at *
  simp only at *
  split at accepted
  · next checked =>
      rw [if_pos checked]
      have silent := endpoint_validate network dispatch node
      rw [perform_bind] at *
      cases performed : perform (validate network dispatch) node with
      | mk result after =>
          rw [performed] at silent accepted
          cases result with
          | error error => cases accepted
          | ok =>
              rw [← silent]
              exact inFlight_letIn request accepted
  · next unchecked =>
      rw [if_neg unchecked]
      exact inFlight_letIn request accepted

theorem perform_leave (request : dispatch.message.isRequest = true) (node : Node η) :
    perform (leave dispatch) node =
      (.ok (node.endpoint.inFlight.get? dispatch.exchange = some true),
        { node with endpoint.inFlight := node.endpoint.inFlight.erase dispatch.exchange }) := by
  simp only [leave, request, if_true, perform_update]
  rfl

theorem perform_conclude_error (request : dispatch.message.isRequest = true) (error : Error)
    (node : Node η) :
    (perform (conclude network dispatch (.error error)) node).2 =
      if node.endpoint.inFlight.get? dispatch.exchange = some true then
        (perform (leave dispatch) node).2
      else
        (perform (answerFailure network dispatch error) (perform (leave dispatch) node).2).2 := by
  unfold conclude
  rw [perform_bind, perform_leave request]
  simp only
  by_cases answered : node.endpoint.inFlight.get? dispatch.exchange = some true
  · simp only [answered, decide_true, Bool.not_true, if_true]
    rfl
  · simp only [answered, decide_false, Bool.not_false, if_true, if_false]
    exact perform_before_throw _ _ _

theorem inFlight_conclude (request : dispatch.message.isRequest = true)
    (result : Except Error Unit) (node : Node η) :
    (perform (conclude network dispatch result) node).2.endpoint.inFlight =
      node.endpoint.inFlight.erase dispatch.exchange := by
  cases result with
  | ok =>
      unfold conclude
      rw [perform_bind, perform_leave request]
      rfl
  | error error =>
      rw [perform_conclude_error request, perform_leave request]
      split
      · rfl
      · rw [endpoint_answerFailure]

end TunnelControl.Action
