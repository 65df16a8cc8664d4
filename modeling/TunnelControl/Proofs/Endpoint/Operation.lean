import TunnelControl.Proofs.Endpoint.Effect

namespace TunnelControl

/-- What becomes of a session without the endpoint: its holders change it, and other endpoints that
know it record an identifier in it, take it back or retire it. -/
inductive Adjustment where
  | subscriber (change : Subscriber → Subscriber)
  | teid (interface : UInt8) (number : UInt32)
  | bearers (change : Bearers → Bearers)
  | activate
  | deactivate
  | inbox (mailbox : Mailbox Message)
  | eraseTeid (interface : UInt8)
  | retire

namespace Adjustment

def apply : Adjustment → Session → Session
  | subscriber change, session => session.updateSubscriber change
  | teid interface number, session => session.addTeid interface number
  | bearers change, session => session.updateBearers change
  | activate, session => session.activate.toOption.getD session
  | deactivate, session => session.deactivate
  | inbox mailbox, session => { session with inbox := mailbox }
  | eraseTeid interface, session => session.eraseTeid interface
  | retire, session => session.retire

def Neutral (interface : UInt8) (adjustment : Adjustment) : Prop :=
  ∀ session, (adjustment.apply session).removed = session.removed ∧
    (adjustment.apply session).imsi = session.imsi ∧
    (adjustment.apply session).teid? interface = session.teid? interface

theorem removed_apply (adjustment : Adjustment) {session : Session}
    (removed : session.removed = true) : (adjustment.apply session).removed = true := by
  cases adjustment with
  | activate =>
      simp only [apply, Session.activate]
      split <;> exact removed
  | retire => rfl
  | _ => exact removed

end Adjustment

inductive Operation where
  | openSession (peer : SocketAddress) (subscriber : Subscriber)
  | describe (peer : SocketAddress) (request : Body)
  | mint (draw : Nat → UInt32)
  | release (teid : UInt32)
  | register (teid : UInt32) (id : SessionId)
  | remove (id : SessionId)
  | create (peer : SocketAddress) (elements : List Element)
  | prepare (peer : SocketAddress) (request : Body)
  | complete (creation : Creation)
  | abandon (creation : Creation)
  | adjust (id : SessionId) (adjustment : Adjustment)

namespace Node

variable {η : Type}

def ofConfig (config : Config) : Node η := { endpoint := .ofConfig config }

def orSame (node : Node η) : Except Error (Node η) → Node η
  | .ok after => after
  | .error _ => node

theorem orSame_induction {P : Node η → Prop} {node : Node η} {result : Except Error (Node η)}
    (same : P node) (after : ∀ after, result = .ok after → P after) : P (node.orSame result) := by
  cases result with
  | ok next => exact after next rfl
  | error => exact same

theorem map_snd_eq_ok {α : Type} {result : Except Error (α × Node η)} {after : Node η} :
    result.map Prod.snd = .ok after ↔ ∃ a, result = .ok (a, after) := by
  cases result with
  | error error => simp [Except.map]
  | ok result => simp [Except.map, Prod.ext_iff]

end Node

namespace Operation

variable {η : Type}

def request (elements : List Element) : Message :=
  .ofElements MessageType.createSessionRequest.code 0 0 elements

def after (network : Network) (node : Node η) : Operation → Node η
  | openSession peer subscriber =>
      let capacity := node.endpoint.config.inboxCapacity.toNat
      (node.addSession (.ofSubscriber peer subscriber capacity)).2
  | describe peer request => node.orSame ((node.describe peer request).map Prod.snd)
  | mint draw => (node.mint draw).2
  | release teid => (node.release teid).2
  | register teid id => node.orSame (node.register teid id)
  | remove id => (node.remove id).2
  | create peer elements => (Action.perform (Action.createSession network peer elements) node).2
  | prepare peer request => node.orSame ((node.prepare peer request).map Prod.snd)
  | complete creation => node.orSame (node.complete creation)
  | abandon creation => node.abandon creation
  | adjust id adjustment => node.updateSession id adjustment.apply

def run (network : Network) (operations : List Operation) (node : Node η) : Node η :=
  operations.foldl (after network) node

end Operation

namespace Node

variable {η : Type} {first second third : Node η}

structure SameIndices (first second : Node η) : Prop where
  config : second.endpoint.config = first.endpoint.config
  byTeid : second.endpoint.byTeid = first.endpoint.byTeid
  byImsi : second.endpoint.byImsi = first.endpoint.byImsi
  sessions : second.sessions = first.sessions

theorem SameIndices.refl (node : Node η) : node.SameIndices node := ⟨rfl, rfl, rfl, rfl⟩

theorem SameIndices.trans (left : first.SameIndices second) (right : second.SameIndices third) :
    first.SameIndices third :=
  ⟨right.config.trans left.config, right.byTeid.trans left.byTeid,
    right.byImsi.trans left.byImsi, right.sessions.trans left.sessions⟩

theorem SameIndices.session (same : first.SameIndices second) (id : SessionId) :
    second.session id = first.session id :=
  congrArg (Sessions.get · id) same.sessions

theorem SameIndices.teidOf? (same : first.SameIndices second) (id : SessionId) :
    second.teidOf? id = first.teidOf? id := by
  unfold Node.teidOf? Endpoint.interface
  rw [same.session, same.config]

theorem Absent.of_sameIndices {id : SessionId} (absent : first.Absent id)
    (same : first.SameIndices second) : second.Absent id := by
  constructor
  · rw [same.byImsi]
    exact absent.imsi
  · rw [same.byTeid]
    exact absent.teid

end Node

namespace Action

open Node

variable {η : Type} (network : Network)

theorem sameIndices_transmit (peer : SocketAddress) (message : Message) (node : Node η) :
    node.SameIndices (perform (transmit network peer message) node).2 := by
  unfold perform transmit
  cases message.marshal with
  | error error => exact .refl node
  | ok octets =>
      simp only
      split
      · unfold hand
        cases network node.traffic ⟨peer, octets⟩ <;> exact ⟨rfl, rfl, rfl, rfl⟩
      · exact .refl node

theorem sameIndices_send (peer : SocketAddress) (message : Message) (node : Node η) :
    node.SameIndices (perform (send network peer message) node).2 := by
  have given : node.SameIndices (onEndpoint Endpoint.nextSequence node).2 := ⟨rfl, rfl, rfl, rfl⟩
  have sent := given.trans (sameIndices_transmit network peer
    (message.withSequence (onEndpoint Endpoint.nextSequence node).1) _)
  simp only [send, perform_bind, perform_update, perform_outcome]
  cases performed : perform (transmit network peer
      (message.withSequence (onEndpoint Endpoint.nextSequence node).1))
      (onEndpoint Endpoint.nextSequence node).2 with
  | mk outcome reply =>
      rw [performed] at sent
      cases outcome with
      | ok => exact sent
      | error error =>
          apply sent.trans
          simp only [perform_bind, perform_update, perform_throw]
          unfold onEndpoint Endpoint.releaseSequence
          simp only
          split <;> exact ⟨rfl, rfl, rfl, rfl⟩

theorem perform_createSession (peer : SocketAddress) (elements : List Element) (node : Node η) :
    perform (createSession network peer elements) node =
      match node.prepare peer (Operation.request elements).body with
      | .error error => (.error error, node)
      | .ok (creation, prepared) =>
          match perform (send network peer (Operation.request elements)) prepared with
          | (.error error, sent) => (.error error, sent.abandon creation)
          | (.ok sequence, sent) =>
              match sent.complete creation with
              | .error error => (.error error, sent)
              | .ok after => (.ok (creation.session, sequence), after) := by
  simp only [createSession, perform_bind, perform_attempt, Operation.request]
  cases node.prepare peer
      (Message.ofElements MessageType.createSessionRequest.code 0 0 elements).body with
  | error error => rfl
  | ok result =>
      obtain ⟨creation, prepared⟩ := result
      simp only [perform_outcome]
      obtain ⟨outcome, sent⟩ := perform (send network peer _) prepared
      cases outcome with
      | ok sequence =>
          simp only [perform_bind, perform_attempt]
          cases sent.complete creation <;> rfl
      | error error => rfl

end Action

namespace Operation

variable {η : Type} (network : Network)

theorem after_create (peer : SocketAddress) (elements : List Element) (node : Node η) :
    (create peer elements).after network node =
      match node.prepare peer (request elements).body with
      | .error _ => node
      | .ok (creation, prepared) =>
          match Action.perform (Action.send network peer (request elements)) prepared with
          | (.ok _, sent) => sent.orSame (sent.complete creation)
          | (.error _, sent) => sent.abandon creation := by
  rw [after, Action.perform_createSession]
  cases node.prepare peer (request elements).body with
  | error error => rfl
  | ok result =>
      obtain ⟨creation, prepared⟩ := result
      simp only
      obtain ⟨outcome, sent⟩ :=
        Action.perform (Action.send network peer (request elements)) prepared
      cases outcome with
      | ok sequence =>
          simp only
          cases sent.complete creation <;> rfl
      | error error => rfl

end Operation

end TunnelControl
