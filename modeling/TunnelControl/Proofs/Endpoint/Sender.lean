import TunnelControl.Proofs.Endpoint.Creation

namespace TunnelControl

def Fteid.first? (elements : List Element) (inst : UInt8) : Option Fteid :=
  (elements.find? (Element.hasKey .fteid inst)).bind fun element =>
    (element.get .fteid).toOption

namespace Node

variable {η : Type} {node after : Node η} {id : SessionId} {peer : SocketAddress}
  {session : Session} {teid : UInt32} {claim other : Option UInt32} {sender gateway : Option Fteid}

def claims (node : Node η) (fteid : Option Fteid) : Option UInt32 :=
  ((fteid.filter (·.interface = node.endpoint.interface)).map Fteid.teid).filter node.isReserved

/-- Whether a session that was created is registered under an identifier, or the indices are as they
were if there is none. -/
def Follows (node after : Node η) (peer : SocketAddress) (id : SessionId) : Option UInt32 → Prop
  | some teid => after.findTeid teid peer = .ok id ∧
      after.findImsi (after.session id).imsi = .ok id ∧
      (after.session id).teid? node.endpoint.interface = some teid
  | none => (∀ teid, after.endpoint.byTeid.get? teid = node.endpoint.byTeid.get? teid) ∧
      ∀ imsi, after.endpoint.byImsi.get? imsi = node.endpoint.byImsi.get? imsi

theorem reserved_of_claims {fteid : Option Fteid} (claims : node.claims fteid = some teid) :
    node.endpoint.byTeid.get? teid = some .reserved :=
  of_decide_eq_true (Option.filter_eq_some_iff.mp claims).2

theorem Follows.unique (follows : node.Follows after peer id claim)
    (follows_other : node.Follows after peer id other)
    (reserved : ∀ teid, claim = some teid → node.endpoint.byTeid.get? teid = some .reserved)
    (other_reserved : ∀ teid, other = some teid → node.endpoint.byTeid.get? teid = some .reserved) :
    claim = other := by
  have taken {claim other : Option UInt32} {teid : UInt32} (own : claim = some teid)
      (follows : node.Follows after peer id claim) (none : other = none)
      (others : node.Follows after peer id other)
      (reserved : node.endpoint.byTeid.get? teid = some .reserved) : False := by
    subst own none
    have held := (findTeid_eq_ok.mp follows.1).1
    rw [others.1 teid, reserved] at held
    cases held
  cases claim with
  | none =>
      cases other with
      | none => rfl
      | some teid => exact (taken rfl follows_other rfl follows (other_reserved teid rfl)).elim
  | some teid =>
      cases other with
      | none => exact (taken rfl follows rfl follows_other (reserved teid rfl)).elim
      | some number => exact follows.2.2.symm.trans follows_other.2.2

theorem Settled.follows (settled : node.Settled session after) (own : session.peer = peer)
    (config : after.endpoint.config = node.endpoint.config) :
    node.Follows after peer node.sessions.next (node.claimed session) := by
  cases settled with
  | apart unclaimed byTeid byImsi =>
      rw [unclaimed]
      exact ⟨fun teid => by rw [byTeid], fun imsi => by rw [byImsi]⟩
  | enrolled claimed enrolled kept =>
      rw [claimed]
      refine ⟨findTeid_eq_ok.mpr ⟨enrolled.byTeid, kept.trans own⟩,
        findImsi_eq_ok.mpr enrolled.byImsi, ?_⟩
      have recorded := enrolled.recorded
      unfold teidOf? Endpoint.interface at recorded
      rwa [config] at recorded

theorem claimed_eq_claims (sender gateway : Option Fteid)
    (teids : session.teids = Session.record (Session.record .empty sender) gateway) :
    node.claimed session = node.claims
      ((gateway.filter (·.interface = node.endpoint.interface)).or sender) := by
  -- a session claims what the gateway's endpoint names, if that one lies on the interface of this
  -- node, and what the sender's endpoint names if not
  unfold claimed claims Session.teid?
  rw [teids, Session.get?_record, Session.get?_record, Table.get?_empty, Option.or_none,
    ← Option.map_or]
  congr 2
  cases gateway with
  | none => rfl
  | some gateway =>
      by_cases own : gateway.interface = node.endpoint.interface <;> simp [Option.filter, own]

theorem teids_of_request {capacity : Nat} {elements : List Element}
    (read : Session.ofRequest capacity peer
      (.ofElements MessageType.createSessionRequest.code elements) = .ok session) :
    session.teids = Session.record
      (Session.record .empty (Fteid.first? elements 0)) (Fteid.first? elements 1) := by
  obtain ⟨_, _, sender, first, gateway, second, _, _, rfl⟩ := Session.ofRequest_eq_ok.mp read
  have sender_eq : sender = Fteid.first? elements 0 := Body.value?_ofElements (by decide) first
  have gateway_eq : gateway = Fteid.first? elements 1 := Body.value?_ofElements (by decide) second
  subst sender_eq gateway_eq
  rfl

end Node

namespace Action

open Node

variable {η : Type} {node after : Node η} {network : Network} {peer : SocketAddress}
  {elements : List Element} {id : SessionId} {sequence : UInt32}

theorem createSession_follows (proper : node.Proper)
    (created : perform (createSession network peer elements) node = (.ok (id, sequence), after)) :
    node.Follows after peer id (node.claims
      (((Fteid.first? elements 1).filter (·.interface = node.endpoint.interface)).or
        (Fteid.first? elements 0))) := by
  obtain ⟨session, read, rfl, settled⟩ := settled_of_createSession proper created
  have config : after.endpoint.config = node.endpoint.config := by
    have kept := Operation.config_after network (.create peer elements) node
    rwa [Operation.after, created] at kept
  rw [Operation.request, Message.body_ofElements] at read
  rw [← claimed_eq_claims _ _ (teids_of_request read)]
  exact settled.follows (Session.active_of_ofRequest read).2 config

/-- A created session is registered as the endpoint of its sender asks for, unless the endpoint of
the gateway lies on the interface of this node as well and does not ask for the same. -/
theorem createSession_follows_sender_iff (proper : node.Proper)
    (created : perform (createSession network peer elements) node = (.ok (id, sequence), after)) :
    node.Follows after peer id (node.claims (Fteid.first? elements 0)) ↔
      ∀ gateway, Fteid.first? elements 1 = some gateway →
        gateway.interface = node.endpoint.interface →
          node.claims (some gateway) = node.claims (Fteid.first? elements 0) := by
  have follows := createSession_follows proper created
  generalize Fteid.first? elements 0 = sender at *
  generalize Fteid.first? elements 1 = second at *
  constructor
  · rintro intended gateway rfl own
    have same := follows.unique intended (fun _ => reserved_of_claims) fun _ => reserved_of_claims
    rwa [Option.filter_some, if_pos (decide_eq_true own), Option.some_or] at same
  · intro agree
    cases second with
    | none => exact follows
    | some gateway =>
        by_cases own : gateway.interface = node.endpoint.interface
        · rw [Option.filter_some, if_pos (decide_eq_true own), Option.some_or] at follows
          rwa [agree gateway rfl own] at follows
        · rwa [Option.filter_some, if_neg (by simpa using own), Option.none_or] at follows

theorem createSession_follows_sender_iff_apart :
    let start : Node Empty := { endpoint := { Endpoint.ofConfig {} with bound := true } }
    let node := Operation.run .reachable [.mint fun _ => 9] start
    let elements : List Element :=
      [.ofValue .imsi 0 [0x21, 0xf3], .ofFteid { interface := 0, teid := 9 },
        (Element.ofFteid { interface := 5, teid := 7 }).withInst 1]
    node.Proper ∧ node.claims (Fteid.first? elements 0) = some 9 ∧
      ∃ after, perform (createSession .reachable default elements) node = (.ok (0, 1), after) ∧
        (node.Follows after default 0 (node.claims (Fteid.first? elements 0)) ↔
          ∀ gateway, Fteid.first? elements 1 = some gateway →
            gateway.interface = node.endpoint.interface →
              node.claims (some gateway) = node.claims (Fteid.first? elements 0)) := by
  intro start node elements
  have vacant : start.Vacant := ⟨rfl, rfl, fun _ _ => rfl⟩
  have proper : ((Operation.mint fun _ => 9).after .reachable start).Proper := by
    apply Operation.proper_after (vacant.proper (Nat.zero_le _))
    rintro id adjustment ⟨⟩
  have asks : node.claims (Fteid.first? elements 0) = some 9 := by decide
  have created : (perform (createSession .reachable default elements) node).1 = .ok (0, 1) := by
    decide
  cases performed : perform (createSession .reachable default elements) node with
  | mk outcome after =>
      rw [performed] at created
      obtain rfl : outcome = .ok (0, 1) := created
      exact ⟨proper, asks, after, rfl, createSession_follows_sender_iff proper performed⟩

/-- The session of a request whose sender and gateway lie on the interface of this node is found
neither under the reserved identifier of the sender nor by its subscriber. -/
theorem createSession_not_follows_sender :
    let start : Node Empty := { endpoint := { Endpoint.ofConfig {} with bound := true } }
    let node := Operation.run .reachable [.mint fun _ => 9] start
    let elements : List Element :=
      [.ofValue .imsi 0 [0x21, 0xf3], .ofFteid { interface := 0, teid := 9 },
        (Element.ofFteid { interface := 0, teid := 7 }).withInst 1]
    let after := (perform (createSession .reachable default elements) node).2
    (perform (createSession .reachable default elements) node).1 = .ok (0, 1) ∧
      node.claims (Fteid.first? elements 0) = some 9 ∧
      ¬ node.Follows after default 0 (node.claims (Fteid.first? elements 0)) ∧
      after.isReserved 9 = true ∧ after.findImsi "123" = .error (.unknownImsi "123") ∧
      (after.session 0).teid? 0 = some 7 := by
  intro start node elements after
  have asks : node.claims (Fteid.first? elements 0) = some 9 := by decide
  have reserved : after.endpoint.byTeid.get? 9 = some .reserved := by decide
  have unknown : after.endpoint.byImsi.get? "123" = none := by decide
  refine ⟨by decide, asks, ?_, decide_eq_true reserved, ?_, by decide⟩
  · rw [asks]
    intro follows
    have held := (findTeid_eq_ok.mp follows.1).1
    rw [reserved] at held
    cases held
  · simp [findImsi, unknown]

end Action

end TunnelControl
