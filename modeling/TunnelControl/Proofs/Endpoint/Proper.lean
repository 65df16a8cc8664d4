import TunnelControl.Proofs.Endpoint.Bijection
import TunnelControl.Proofs.Endpoint.Transmission

namespace TunnelControl

namespace Endpoint

variable {η : Type} {endpoint : Endpoint η}

theorem toNat_sequence_succ (less : endpoint.sequence.toNat < maxSequence.toNat) :
    (endpoint.sequence + 1).toNat = endpoint.sequence.toNat + 1 := by
  rw [UInt32.toNat_add]
  exact Nat.mod_eq_of_lt (Nat.lt_of_le_of_lt less (by decide))

theorem nextSequence_le : endpoint.nextSequence.1 ≤ maxSequence := by
  show (if maxSequence ≤ endpoint.sequence then 0 else endpoint.sequence + 1) ≤ maxSequence
  rw [UInt32.le_iff_toNat_le]
  split
  · exact Nat.zero_le _
  · next before =>
      have less := Nat.lt_of_not_le (mt UInt32.le_iff_toNat_le.mpr before)
      rw [toNat_sequence_succ less]
      exact less

theorem releaseSequence_nextSequence (valid : endpoint.sequence ≤ maxSequence) :
    endpoint.nextSequence.2.releaseSequence endpoint.nextSequence.1 = endpoint := by
  unfold nextSequence releaseSequence
  simp only [if_true]
  by_cases last : maxSequence ≤ endpoint.sequence
  · have same : maxSequence = endpoint.sequence := UInt32.le_antisymm last valid
    rw [if_pos last, if_pos rfl, same]
  · have less : endpoint.sequence.toNat < maxSequence.toNat := Nat.lt_of_not_le last
    have number := toNat_sequence_succ less
    have positive : endpoint.sequence + 1 ≠ 0 := by
      intro zero
      rw [zero] at number
      cases number
    rw [if_neg last, if_neg positive, UInt32.add_sub_cancel]

end Endpoint

namespace Node

variable {η : Type} {node after : Node η}

def InRange (node : Node η) : Prop := node.endpoint.sequence ≤ Endpoint.maxSequence

theorem InRange.congr (valid : node.InRange)
    (same : after.endpoint.sequence = node.endpoint.sequence) : after.InRange :=
  Eq.subst (motive := (· ≤ Endpoint.maxSequence)) same.symm valid

end Node

namespace Action

variable {η : Type} {node after : Node η} {network : Network} {peer : SocketAddress}
  {message : Message} {error : Error}

theorem sent_of_transmit_error
    (failed : perform (transmit network peer message) node = (.error error, after)) :
    after.traffic.sent = node.traffic.sent := by
  unfold perform transmit at failed
  cases written : message.marshal with
  | error error =>
      rw [written] at failed
      cases failed
      rfl
  | ok octets =>
      simp only [written] at failed
      split at failed
      · unfold Node.hand at failed
        cases refused : network node.traffic ⟨peer, octets⟩ with
        | none =>
            rw [refused] at failed
            cases failed
        | some reason =>
            rw [refused] at failed
            cases failed
            simp [Traffic.sent]
      · cases failed
        rfl

theorem of_send_error (valid : node.InRange)
    (failed : perform (send network peer message) node = (.error error, after)) :
    after.endpoint = node.endpoint ∧ after.sessions = node.sessions ∧
      after.traffic.sent = node.traffic.sent := by
  have same := sameIndices_send network peer message node
  rw [failed] at same
  simp only [send, perform_bind, perform_update, perform_outcome] at failed
  have endpoint := endpoint_transmit network peer
    (message.withSequence (node.onEndpoint Endpoint.nextSequence).1)
    (node.onEndpoint Endpoint.nextSequence).2
  cases performed : perform (transmit network peer
      (message.withSequence (node.onEndpoint Endpoint.nextSequence).1))
      (node.onEndpoint Endpoint.nextSequence).2 with
  | mk outcome reply =>
      rw [performed] at failed endpoint
      cases outcome with
      | ok => cases failed
      | error reason =>
          have sent := sent_of_transmit_error performed
          simp only [perform_bind, perform_update, perform_throw] at failed
          cases failed
          refine ⟨?_, same.sessions, sent⟩
          show reply.endpoint.releaseSequence _ = _
          rw [endpoint]
          exact Endpoint.releaseSequence_nextSequence valid

end Action

namespace Node

variable {η : Type} {node after : Node η} {id : SessionId} {teid : UInt32}

/-- Whether the indices know stored sessions only, none that is not stored has a subscriber, and the
last sequence number is one that a message can carry. -/
structure Proper (node : Node η) : Prop extends Stocked node where
  held : ∀ {teid id}, node.endpoint.byTeid.get? teid = some (.session id) → id < node.sessions.next
  inRange : node.InRange

theorem Vacant.proper (vacant : node.Vacant) (inRange : node.InRange) : node.Proper where
  toStocked := vacant.stocked
  held entry := by simp [vacant.byTeid] at entry
  inRange := inRange

theorem proper_ofConfig (config : Config) : (ofConfig config : Node η).Proper :=
  (vacant_ofConfig config).proper (Nat.zero_le _)

theorem Proper.of_sameIndices (proper : node.Proper) (same : node.SameIndices after)
    (inRange : after.InRange) : after.Proper where
  toStocked := proper.toStocked.move (.same same)
  held entry := by
    rw [same.byTeid] at entry
    exact same.sessions ▸ proper.held entry
  inRange := inRange

theorem held_move (stocked : node.Stocked)
    (held : ∀ {teid id}, node.endpoint.byTeid.get? teid = some (.session id) →
      id < node.sessions.next)
    (move : Move KeepsImsi node after)
    (entry : after.endpoint.byTeid.get? teid = some (.session id)) :
    id < after.sessions.next := by
  cases move with
  | same same =>
      rw [same.byTeid] at entry
      exact same.sessions ▸ held entry
  | addSession session => exact Nat.lt_succ_of_lt (held entry)
  | reserve => exact held (get?_reserve.mp entry)
  | release => exact held (get?_release.mp entry)
  | unindex => exact held (byTeid_unindex.mp entry).1
  | change => exact held entry
  | enter number active known =>
      have entry := byTeid_enter.mp entry
      split at entry
      · cases entry
        exact Nat.lt_of_not_le fun unused => known (stocked.blank unused)
      · exact held entry.1

theorem held_moves (stocked : node.Stocked)
    (held : ∀ {teid id}, node.endpoint.byTeid.get? teid = some (.session id) →
      id < node.sessions.next)
    (moves : Moves KeepsImsi node after) :
    ∀ {teid id}, after.endpoint.byTeid.get? teid = some (.session id) →
      id < after.sessions.next := by
  induction moves with
  | refl => exact held
  | tail moves move ih => exact held_move (stocked.moves moves) ih move

theorem sequence_index {replace : Bool} {result : Bool × Node η}
    (indexed : node.index teid id replace = .ok result) :
    result.2.endpoint.sequence = node.endpoint.sequence := by
  obtain ⟨_, _, _, way⟩ := index_eq_ok.mp indexed
  split at way
  · rw [way]
    rfl
  · cases replace <;> exact way ▸ rfl

theorem sequence_prepare {peer : SocketAddress} {request : Body} {creation : Creation}
    (prepared : node.prepare peer request = .ok (creation, after)) :
    after.endpoint.sequence = node.endpoint.sequence := by
  obtain ⟨session, _, ⟨_, _, added⟩ | ⟨teid, _, indexed⟩⟩ := prepare_eq_ok prepared
  · rw [added]
    rfl
  · exact sequence_index indexed

theorem sequence_complete {creation : Creation} (completed : node.complete creation = .ok after) :
    after.endpoint.sequence = node.endpoint.sequence := by
  unfold complete at completed
  split at completed
  · split at completed
    · cases completed
      rfl
    · obtain ⟨_, indexed⟩ := map_snd_eq_ok.mp completed
      exact sequence_index indexed
  · cases completed
    rfl

theorem sequence_abandon (creation : Creation) (node : Node η) :
    (node.abandon creation).endpoint.sequence = node.endpoint.sequence := by
  unfold abandon
  split
  · split <;> rfl
  · rfl

theorem sequence_mint (draw : Nat → UInt32) (node : Node η) :
    (node.mint draw).2.endpoint.sequence = node.endpoint.sequence := by
  rcases mint_cases draw node with same | ⟨teid, minted⟩
  · rw [same]
  · rw [minted]

end Node

namespace Action

open Node

variable {η : Type} {node : Node η} (network : Network) (peer : SocketAddress)

theorem inRange_send (message : Message) (valid : node.InRange) :
    (perform (send network peer message) node).2.InRange := by
  cases sending : perform (send network peer message) node with
  | mk outcome sent =>
      cases outcome with
      | error error => exact valid.congr (congrArg _ (of_send_error valid sending).1)
      | ok sequence =>
          have endpoint := endpoint_transmit network peer
            (message.withSequence (node.onEndpoint Endpoint.nextSequence).1)
            (node.onEndpoint Endpoint.nextSequence).2
          simp only [send, perform_bind, perform_update, perform_outcome] at sending
          cases performed : perform (transmit network peer
              (message.withSequence (node.onEndpoint Endpoint.nextSequence).1))
              (node.onEndpoint Endpoint.nextSequence).2 with
          | mk outcome reply =>
              rw [performed] at sending endpoint
              cases outcome with
              | error reason => cases sending
              | ok =>
                  cases sending
                  show reply.endpoint.sequence ≤ _
                  rw [endpoint]
                  exact Endpoint.nextSequence_le

end Action

namespace Operation

open Node

variable {η : Type} {network : Network} {node start : Node η} {operation : Operation}

theorem inRange_after (valid : node.InRange) : (operation.after network node).InRange := by
  cases operation with
  | mint draw => exact valid.congr (sequence_mint draw node)
  | register teid id =>
      apply orSame_induction valid
      intro after registered
      obtain ⟨_, indexed⟩ := map_snd_eq_ok.mp registered
      exact valid.congr (sequence_index indexed)
  | describe peer request =>
      apply orSame_induction valid
      intro after described
      obtain ⟨id, described⟩ := map_snd_eq_ok.mp described
      obtain ⟨session, same⟩ := describe_eq_ok described
      cases same
      exact valid
  | prepare peer request =>
      apply orSame_induction valid
      intro after prepared
      obtain ⟨creation, prepared⟩ := map_snd_eq_ok.mp prepared
      exact valid.congr (sequence_prepare prepared)
  | complete creation =>
      exact orSame_induction valid fun after completed => valid.congr (sequence_complete completed)
  | abandon creation => exact valid.congr (sequence_abandon creation node)
  | create peer elements =>
      rw [after_create]
      cases begun : node.prepare peer (request elements).body with
      | error error => exact valid
      | ok result =>
          obtain ⟨creation, prepared⟩ := result
          have sent := Action.inRange_send network peer (request elements)
            (valid.congr (sequence_prepare begun))
          simp only
          split
          · next sequence next outcome =>
              rw [outcome] at sent
              apply orSame_induction sent
              exact fun after completed => sent.congr (sequence_complete completed)
          · next error next outcome =>
              rw [outcome] at sent
              exact sent.congr (sequence_abandon creation next)
  | remove id =>
      simp only [after, Node.remove]
      split <;> exact valid
  | openSession | release | adjust => exact valid

theorem proper_after (proper : node.Proper)
    (stored : ∀ id adjustment, operation = .adjust id adjustment → id < node.sessions.next) :
    (operation.after network node).Proper := by
  have inRange : (operation.after network node).InRange := inRange_after proper.inRange
  by_cases adjusts : ∃ id adjustment, operation = .adjust id adjustment
  · obtain ⟨id, adjustment, rfl⟩ := adjusts
    refine ⟨⟨proper.known, fun {other} unused => ?_⟩, proper.held, inRange⟩
    have different : other ≠ id := by
      rintro rfl
      exact Nat.lt_irrefl _ (Nat.lt_of_lt_of_le (stored other adjustment rfl) unused)
    show ((node.updateSession id adjustment.apply).session other).imsi = ""
    rw [session_updateSession, if_neg different]
    exact proper.blank unused
  · have moves := moves_after network allowsOwn_keepsImsi node operation
      fun id adjustment same => absurd ⟨id, adjustment, same⟩ adjusts
    exact ⟨proper.toStocked.moves moves, held_moves proper.toStocked proper.held moves, inRange⟩

theorem proper_run (network : Network) (operations : List Operation) (proper : start.Proper)
    (stored : ∀ earlier id adjustment, earlier ++ [.adjust id adjustment] <+: operations →
      id < (run network earlier start).sessions.next) :
    (run network operations start).Proper := by
  induction operations using List.reverseRecOn with
  | nil => exact proper
  | append_singleton operations operation ih =>
      rw [run_snoc]
      apply proper_after
      · exact ih fun earlier id adjustment begins =>
          stored earlier id adjustment (begins.trans (List.prefix_append _ _))
      · rintro id adjustment rfl
        exact stored operations id adjustment (List.prefix_refl _)

end Operation

end TunnelControl
