import TunnelControl.Proofs.Endpoint.Proper
import TunnelControl.Proofs.Endpoint.Retirement
import TunnelControl.Proofs.Endpoint.Underway
import TunnelControl.Proofs.Session.Request

namespace TunnelControl

namespace Node

variable {η : Type} {node after prepared : Node η} {session : Session} {creation : Creation}
  {id : SessionId} {teid : UInt32} {network : Network} {peer : SocketAddress}

def claimed (node : Node η) (session : Session) : Option UInt32 :=
  (session.teid? node.endpoint.interface).filter node.isReserved

inductive Prepared (node : Node η) (session : Session) : Creation → Node η → Prop where
  | apart (unclaimed : node.claimed session = none) :
      Prepared node session ⟨node.sessions.next, none, false⟩ (node.addSession session).2
  | entered {teid : UInt32} (claimed : node.claimed session = some teid)
      (known : session.imsi ≠ "") (alone : node.endpoint.byImsi.get? session.imsi = none) :
      Prepared node session ⟨node.sessions.next, some teid, true⟩
        ((node.addSession session).2.enter teid node.sessions.next)
  | waiting {teid : UInt32} {old : SessionId} (claimed : node.claimed session = some teid)
      (known : session.imsi ≠ "") (place : node.endpoint.byImsi.get? session.imsi = some old) :
      Prepared node session ⟨node.sessions.next, some teid, false⟩ (node.addSession session).2

theorem session_added : (node.addSession session).2.session node.sessions.next = session := by
  rw [session_addSession, if_pos rfl]

theorem reserved_of_claimed (claimed : node.claimed session = some teid) :
    session.teid? node.endpoint.interface = some teid ∧
      node.endpoint.byTeid.get? teid = some .reserved := by
  obtain ⟨named, reserved⟩ := Option.filter_eq_some_iff.mp claimed
  exact ⟨named, of_decide_eq_true reserved⟩

theorem prepared_of_prepare (stocked : node.Stocked) {request : Body}
    (done : node.prepare peer request = .ok (creation, after)) :
    ∃ session, Session.ofRequest node.endpoint.config.inboxCapacity.toNat peer request =
      .ok session ∧ Prepared node session creation after := by
  obtain ⟨⟨id, fresh⟩, described, done⟩ := Except.bind_eq_ok.mp done
  obtain ⟨session, read, same⟩ := Except.bind_ok_eq_ok.mp described
  obtain ⟨rfl, rfl⟩ := Prod.ext_iff.mp same
  refine ⟨session, read, ?_⟩
  have own : (node.addSession session).2.session (node.addSession session).1 = session :=
    session_added
  have claim : ((node.addSession session).2.teidOf? (node.addSession session).1).filter
      (node.addSession session).2.isReserved = node.claimed session := by
    unfold claimed teidOf?
    rw [own]
    rfl
  simp only [claim] at done
  split at done
  · next unclaimed =>
      cases done
      exact unclaimed ▸ .apart unclaimed
  · next teid claimed =>
      obtain ⟨⟨indexed, next⟩, outcome, same⟩ := Except.bind_ok_eq_ok.mp done
      cases same
      obtain ⟨-, known, -, way⟩ := index_eq_ok.mp outcome
      rw [own] at known way
      have entries : (node.addSession session).2.endpoint.byImsi = node.endpoint.byImsi := rfl
      rw [entries] at way
      rw [claimed]
      cases place : node.endpoint.byImsi.get? session.imsi with
      | none =>
          rw [place] at way
          cases way
          exact .entered claimed known place
      | some old =>
          -- no entry can be the new session's already, as that was not stored
          have different : old ≠ (node.addSession session).1 := Nat.ne_of_lt (stocked.known place)
          rw [place, Option.filter_some, if_pos (decide_eq_true different)] at way
          cases way
          exact .waiting claimed known place

/-- Whether nothing is left of a call but sessions that no one knows of: look-ups end as before, and
sessions, reservations, settings and the sequence number are what they were. -/
structure Undone (node after : Node η) : Prop where
  sent : after.traffic.sent = node.traffic.sent
  byTeid : ∀ teid, after.endpoint.byTeid.get? teid = node.endpoint.byTeid.get? teid
  byImsi : ∀ imsi, after.endpoint.byImsi.get? imsi = node.endpoint.byImsi.get? imsi
  session : ∀ id < node.sessions.next, after.session id = node.session id
  endpoint : after.endpoint =
    { node.endpoint with byTeid := after.endpoint.byTeid, byImsi := after.endpoint.byImsi }

theorem byTeid_unregister_enter (named : node.teidOf? id = some teid)
    (reserved : node.endpoint.byTeid.get? teid = some .reserved) (key : UInt32) :
    ((node.enter teid id).unregister teid id).endpoint.byTeid.get? key =
      node.endpoint.byTeid.get? key := by
  have entries : (node.enter teid id).endpoint.byTeid =
      node.endpoint.byTeid.insert teid (.session id) := by
    simp [enter, named]
  have recorded : (node.enter teid id).teidOf? id = some teid := by rw [teidOf?_enter, if_pos rfl]
  have left : ((node.enter teid id).unregister teid id).endpoint.byTeid =
      ((node.endpoint.byTeid.insert teid (.session id)).eraseEntry teid (.session id)).insertNew
        teid .reserved := by
    simp only [unregister, unindex, recorded, entries]
  rw [left]
  by_cases own : key = teid
  · simp [own, reserved]
  · simp [own]

theorem byImsi_unregister_enter (alone : node.endpoint.byImsi.get? (node.session id).imsi = none)
    (key : String) : ((node.enter teid id).unregister teid id).endpoint.byImsi.get? key =
      node.endpoint.byImsi.get? key := by
  have left : ((node.enter teid id).unregister teid id).endpoint.byImsi =
      (node.endpoint.byImsi.insert (node.session id).imsi id).eraseEntry
        (node.session id).imsi id := by
    simp only [unregister, unindex, imsi_enter]
    rfl
  rw [left]
  by_cases own : key = (node.session id).imsi
  · simp [own, alone]
  · simp [own]

theorem Undone.findImsi_eq (undone : node.Undone after) (imsi : String) :
    after.findImsi imsi = node.findImsi imsi := by
  unfold findImsi
  rw [undone.byImsi]

theorem Undone.findTeid_eq (proper : node.Proper) (undone : node.Undone after) (teid : UInt32)
    (peer : SocketAddress) : after.findTeid teid peer = node.findTeid teid peer := by
  unfold findTeid
  rw [undone.byTeid]
  cases held : node.endpoint.byTeid.get? teid with
  | none => rfl
  | some holder =>
      cases holder with
      | reserved => rfl
      | session id => simp only [undone.session id (proper.held held)]

theorem Prepared.undone (begun : Prepared node session creation prepared)
    (endpoint : after.endpoint = prepared.endpoint) (sessions : after.sessions = prepared.sessions)
    (sent : after.traffic.sent = node.traffic.sent) : node.Undone (after.abandon creation) := by
  have stored {id : SessionId} (known : id < node.sessions.next) :
      (node.addSession session).2.session id = node.session id := by
    rw [session_addSession, if_neg (Nat.ne_of_lt known)]
  have whole : after = { prepared with traffic := after.traffic } := by
    rw [← endpoint, ← sessions]
  cases begun with
  | apart | waiting =>
      constructor
      case sent => exact sent
      case byTeid => exact fun teid => congrArg (·.byTeid.get? teid) endpoint
      case byImsi => exact fun imsi => congrArg (·.byImsi.get? imsi) endpoint
      case session => exact fun id known => (congrArg (·.get id) sessions).trans (stored known)
      case endpoint =>
        show after.endpoint = { node.endpoint with
          byTeid := after.endpoint.byTeid, byImsi := after.endpoint.byImsi }
        rw [endpoint]
        rfl
  | @entered teid claimed known alone =>
      obtain ⟨named, reserved⟩ := reserved_of_claimed claimed
      have recorded : (node.addSession session).2.teidOf? node.sessions.next = some teid := by
        unfold teidOf?
        rw [session_added]
        exact named
      have place : (node.addSession session).2.endpoint.byImsi.get?
          ((node.addSession session).2.session node.sessions.next).imsi = none := by
        rw [session_added]
        exact alone
      rw [whole]
      constructor
      case sent => exact sent
      case byTeid => exact byTeid_unregister_enter recorded reserved
      case byImsi => exact byImsi_unregister_enter place
      case session =>
        intro id known
        have different := Nat.ne_of_lt known
        refine (session_unregister different).trans ?_
        exact session_enter.trans ((if_neg different).trans (stored known))
      case endpoint => rfl

structure Enrolled (node : Node η) (teid : UInt32) (id : SessionId) : Prop where
  byTeid : node.endpoint.byTeid.get? teid = some (.session id)
  byImsi : node.endpoint.byImsi.get? (node.session id).imsi = some id
  recorded : node.teidOf? id = some teid

theorem Enrolled.enter (node : Node η) (teid : UInt32) (id : SessionId) :
    (node.enter teid id).Enrolled teid id where
  byTeid := byTeid_enter.mpr (by rw [if_pos rfl])
  byImsi := by rw [imsi_enter, byImsi_enter, if_pos rfl]
  recorded := by rw [teidOf?_enter, if_pos rfl]

theorem Enrolled.of_sameIndices (enrolled : node.Enrolled teid id)
    (same : node.SameIndices after) : after.Enrolled teid id where
  byTeid := same.byTeid ▸ enrolled.byTeid
  byImsi := by
    rw [same.byImsi, same.session]
    exact enrolled.byImsi
  recorded := (same.teidOf? id).trans enrolled.recorded

inductive Settled (node : Node η) (session : Session) (after : Node η) : Prop where
  | apart (unclaimed : node.claimed session = none)
      (byTeid : after.endpoint.byTeid = node.endpoint.byTeid)
      (byImsi : after.endpoint.byImsi = node.endpoint.byImsi)
  | enrolled {teid : UInt32} (claimed : node.claimed session = some teid)
      (enrolled : after.Enrolled teid node.sessions.next)
      (own : (after.session node.sessions.next).peer = session.peer)

theorem Prepared.settled (stocked : node.Stocked)
    (begun : Prepared node session creation prepared) (active : session.removed = false)
    (same : prepared.SameIndices after) :
    ∃ last, after.complete creation = .ok last ∧ node.Settled session last := by
  cases begun with
  | apart unclaimed => exact ⟨after, rfl, .apart unclaimed same.byTeid same.byImsi⟩
  | @entered teid claimed known alone =>
      refine ⟨after, rfl, .enrolled claimed ((Enrolled.enter _ teid _).of_sameIndices same) ?_⟩
      rw [same.session, session_enter, if_pos rfl, session_added]
      rfl
  | @waiting teid old claimed known place =>
      obtain ⟨named, reserved⟩ := reserved_of_claimed claimed
      have own : after.session node.sessions.next = session :=
        (same.session _).trans session_added
      have different : old ≠ node.sessions.next := Nat.ne_of_lt (stocked.known place)
      have displaces : after.Displaces node.sessions.next old := by
        refine ⟨?_, different⟩
        rw [own, same.byImsi]
        exact place
      have usable : after.isUsable teid node.sessions.next = true := by
        rw [isUsable_iff, same.byTeid]
        exact .inl reserved
      have indexed : after.index teid node.sessions.next true =
          .ok (true, (after.retire old).enter teid node.sessions.next) := by
        refine index_eq_ok.mpr ⟨own ▸ active, own ▸ known, usable, ?_⟩
        rw [displaces_iff.mpr displaces]
        rfl
      refine ⟨_, map_snd_eq_ok.mpr ⟨true, indexed⟩, .enrolled claimed (.enter _ _ _) ?_⟩
      rw [session_enter, if_pos rfl, displaces.session_kept, own]
      rfl

end Node

namespace Session

theorem active_of_ofRequest {capacity : Nat} {peer : SocketAddress} {request : Body}
    {session : Session} (read : ofRequest capacity peer request = .ok session) :
    session.removed = false ∧ session.peer = peer := by
  obtain ⟨_, _, _, _, _, _, _, _, rfl⟩ := ofRequest_eq_ok.mp read
  exact ⟨rfl, rfl⟩

end Session

namespace Action

open Node

variable {η : Type} {node after : Node η} {network : Network} {peer : SocketAddress}
  {elements : List Element} {error : Error} {id : SessionId} {sequence : UInt32}

theorem settled_of_createSession (proper : node.Proper)
    (created : perform (createSession network peer elements) node = (.ok (id, sequence), after)) :
    ∃ session, Session.ofRequest node.endpoint.config.inboxCapacity.toNat peer
        (Operation.request elements).body = .ok session ∧
      id = node.sessions.next ∧ node.Settled session after := by
  rw [perform_createSession] at created
  cases begun : node.prepare peer (Operation.request elements).body with
  | error reason =>
      rw [begun] at created
      cases created
  | ok result =>
      obtain ⟨creation, prepared⟩ := result
      simp only [begun] at created
      obtain ⟨session, read, begun⟩ := prepared_of_prepare proper.toStocked begun
      cases sending : perform (send network peer (Operation.request elements)) prepared with
      | mk outcome sent =>
          rw [sending] at created
          cases outcome with
          | error reason => cases created
          | ok number =>
              have same := sameIndices_send network peer (Operation.request elements) prepared
              rw [sending] at same
              obtain ⟨last, done, settled⟩ := begun.settled proper.toStocked
                (Session.active_of_ofRequest read).1 same
              simp only [done] at created
              cases created
              refine ⟨session, read, ?_, settled⟩
              cases begun <;> rfl

/-- A creation that fails, for whatever reason and at whatever point, leaves no trace. -/
theorem createSession_undone (proper : node.Proper)
    (failed : perform (createSession network peer elements) node = (.error error, after)) :
    node.Undone after ∧ (∀ imsi, after.findImsi imsi = node.findImsi imsi) ∧
      ∀ teid peer, after.findTeid teid peer = node.findTeid teid peer := by
  suffices undone : node.Undone after from
    ⟨undone, undone.findImsi_eq, undone.findTeid_eq proper⟩
  rw [perform_createSession] at failed
  cases begun : node.prepare peer (Operation.request elements).body with
  | error reason =>
      rw [begun] at failed
      cases failed
      exact ⟨rfl, fun _ => rfl, fun _ => rfl, fun _ _ => rfl, rfl⟩
  | ok result =>
      obtain ⟨creation, prepared⟩ := result
      simp only [begun] at failed
      obtain ⟨session, read, begun⟩ := prepared_of_prepare proper.toStocked begun
      cases sending : perform (send network peer (Operation.request elements)) prepared with
      | mk outcome sent =>
          rw [sending] at failed
          have valid : prepared.InRange := by
            cases begun <;> exact proper.inRange
          have unsent : prepared.traffic.sent = node.traffic.sent := by
            cases begun <;> rfl
          cases outcome with
          | error reason =>
              cases failed
              obtain ⟨endpoint, sessions, traffic⟩ := of_send_error valid sending
              exact begun.undone endpoint sessions (traffic.trans unsent)
          | ok sequence =>
              have same := sameIndices_send network peer (Operation.request elements) prepared
              rw [sending] at same
              obtain ⟨last, done, _⟩ := begun.settled proper.toStocked
                (Session.active_of_ofRequest read).1 same
              simp only [done] at failed
              cases failed

theorem createSession_undone_isolated :
    let start : Node Empty := { endpoint := { Endpoint.ofConfig {} with bound := true } }
    let node :=
      Operation.run .reachable
        [.openSession default { imsi := "123" }, .mint fun _ => 7, .register 7 0, .mint fun _ => 9]
        start
    let elements : List Element :=
      [.ofValue .imsi 0 [0x21, 0xf3], .ofFteid { interface := 0, teid := 9 }]
    let error : Error := .network "Network is unreachable (os error 101)"
    node.findImsi "123" = .ok 0 ∧ node.isReserved 9 = true ∧ node.Proper ∧
      ∃ after, perform (createSession .isolated default elements) node = (.error error, after) ∧
        node.Undone after ∧ (∀ imsi, after.findImsi imsi = node.findImsi imsi) ∧
          ∀ teid peer, after.findTeid teid peer = node.findTeid teid peer := by
  intro start node elements error
  have vacant : start.Vacant := ⟨rfl, rfl, fun _ _ => rfl⟩
  have proper : node.Proper := by
    apply Operation.proper_run .reachable _ (vacant.proper (Nat.zero_le _))
    intro earlier id adjustment begins
    have member := begins.subset (List.mem_append_right earlier (List.mem_singleton_self _))
    simp at member
  have found : node.findImsi "123" = .ok 0 := by
    rw [findImsi_eq_ok]
    decide
  have reserved : node.isReserved 9 = true := by decide
  have fails : (perform (createSession .isolated default elements) node).1 = .error error := by
    decide
  cases performed : perform (createSession .isolated default elements) node with
  | mk outcome after =>
      rw [performed] at fails
      obtain rfl : outcome = .error error := fails
      exact ⟨found, reserved, proper, after, rfl, createSession_undone proper performed⟩

end Action

end TunnelControl
