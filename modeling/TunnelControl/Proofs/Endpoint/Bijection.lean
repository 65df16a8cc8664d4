import TunnelControl.Proofs.Endpoint.Coherence
import TunnelControl.Proofs.Endpoint.Move

namespace TunnelControl

namespace Node

variable {η : Type} {node after start : Node η} {id : SessionId}

structure Vacant (node : Node η) : Prop where
  byTeid : node.endpoint.byTeid = .empty
  byImsi : node.endpoint.byImsi = .empty
  unused : ∀ id, node.sessions.next ≤ id → node.session id = default

structure Stocked (node : Node η) : Prop where
  known : ∀ {imsi id}, node.endpoint.byImsi.get? imsi = some id → id < node.sessions.next
  blank : ∀ {id}, node.sessions.next ≤ id → (node.session id).imsi = ""

theorem vacant_ofConfig (config : Config) : (ofConfig config : Node η).Vacant :=
  ⟨rfl, rfl, fun _ _ => rfl⟩

theorem Vacant.coherent (vacant : node.Vacant) : node.Coherent := by
  constructor
  · intro imsi id entry
    simp [vacant.byImsi] at entry
  · intro teid id entry
    simp [vacant.byTeid] at entry

theorem Vacant.stocked (vacant : node.Vacant) : node.Stocked := by
  constructor
  · intro imsi id entry
    simp [vacant.byImsi] at entry
  · intro id unused
    rw [vacant.unused id unused]
    rfl

def KeepsImsi (change : Session → Session) : Prop :=
  ∀ session, (change session).imsi = session.imsi

theorem allowsOwn_keepsImsi : AllowsOwn KeepsImsi := ⟨fun _ => rfl, fun _ _ => rfl⟩

namespace Stocked

theorem move (stocked : node.Stocked) (move : Move KeepsImsi node after) : after.Stocked := by
  cases move with
  | same same =>
      constructor
      · intro imsi id entry
        rw [same.byImsi] at entry
        exact same.sessions ▸ stocked.known entry
      · intro id unused
        rw [same.sessions] at unused
        rw [same.session]
        exact stocked.blank unused
  | addSession session =>
      constructor
      · exact fun entry => Nat.lt_succ_of_lt (stocked.known entry)
      · intro id unused
        rw [session_addSession, if_neg (Nat.ne_of_gt unused)]
        exact stocked.blank (Nat.le_of_succ_le unused)
  | reserve => exact ⟨stocked.known, stocked.blank⟩
  | release => exact ⟨stocked.known, stocked.blank⟩
  | unindex id =>
      exact ⟨fun entry => stocked.known (byImsi_unindex.mp entry).1, stocked.blank⟩
  | change id _ fits =>
      refine ⟨stocked.known, fun unused => ?_⟩
      rw [session_updateSession]
      split
      · next same => exact (fits _).trans (stocked.blank (same ▸ unused))
      · exact stocked.blank unused
  | enter teid active known =>
      constructor
      · intro imsi other entry
        rw [byImsi_enter] at entry
        split at entry
        · cases entry
          exact Nat.lt_of_not_le fun unused => known (stocked.blank unused)
        · exact stocked.known entry
      · intro other unused
        rw [imsi_enter]
        exact stocked.blank unused

theorem moves (stocked : node.Stocked) (moves : Moves KeepsImsi node after) : after.Stocked := by
  induction moves with
  | refl => exact stocked
  | tail _ move ih => exact ih.move move

theorem absent_next (stocked : node.Stocked) (coherent : node.Coherent) :
    node.Absent node.sessions.next := by
  constructor
  · intro imsi entry
    exact Nat.lt_irrefl _ (stocked.known entry)
  · intro teid entry
    exact Nat.lt_irrefl _ (stocked.known (coherent.of_teid entry).2)

end Stocked

theorem not_shadows_prepare {peer : SocketAddress} {request : Body} {creation : Creation}
    (prepared : node.prepare peer request = .ok (creation, after))
    (indexed : creation.indexed = true) : ¬ after.Shadows creation.session := by
  -- a creation that indexed its session recorded the identifier in it
  obtain ⟨session, _, ⟨unindexed, _⟩ | ⟨teid, _, outcome⟩⟩ := prepare_eq_ok prepared
  · simp [unindexed] at indexed
  · obtain ⟨_, _, _, outcome⟩ := index_eq_ok.mp outcome
    rw [indexed] at outcome
    split at outcome
    · cases outcome
      intro shadows
      have unrecorded := shadows.1
      rw [teidOf?_enter, if_pos rfl] at unrecorded
      cases unrecorded
    · cases outcome

namespace Coherent

theorem describe (coherent : node.Coherent) (stocked : node.Stocked) {peer : SocketAddress}
    {request : Body} {result : SessionId × Node η}
    (described : node.describe peer request = .ok result) : result.2.Coherent := by
  obtain ⟨session, rfl⟩ := describe_eq_ok described
  exact coherent.addSession (stocked.absent_next coherent) session

theorem prepare (coherent : node.Coherent) (stocked : node.Stocked) {peer : SocketAddress}
    {request : Body} {creation : Creation}
    (prepared : node.prepare peer request = .ok (creation, after)) : after.Coherent := by
  obtain ⟨session, _, outcome⟩ := prepare_eq_ok prepared
  have added := coherent.addSession (stocked.absent_next coherent) session
  rcases outcome with ⟨_, _, rfl⟩ | ⟨teid, _, indexed⟩
  · exact added
  · exact added.index indexed

theorem complete (coherent : node.Coherent) {creation : Creation}
    (completed : node.complete creation = .ok after) : after.Coherent := by
  unfold Node.complete at completed
  split at completed
  · split at completed
    · cases completed
      exact coherent
    · exact coherent.register completed
  · cases completed
    exact coherent

theorem abandon (coherent : node.Coherent) {creation : Creation}
    (alone : creation.indexed = true → ¬ node.Shadows creation.session) :
    (node.abandon creation).Coherent := by
  unfold Node.abandon
  split
  · split
    · next indexed => exact coherent.unregister (alone indexed) _
    · exact coherent
  · exact coherent

theorem create (coherent : node.Coherent) (stocked : node.Stocked) (network : Network)
    (peer : SocketAddress) (elements : List Element) :
    ((Operation.create peer elements).after network node).Coherent := by
  rw [Operation.after_create]
  cases begun : node.prepare peer (Operation.request elements).body with
  | error error => exact coherent
  | ok result =>
      obtain ⟨creation, prepared⟩ := result
      have same := Action.sameIndices_send network peer (Operation.request elements) prepared
      have sent := (coherent.prepare stocked begun).of_sameIndices same
      simp only
      split
      · next sequence reply outcome =>
          rw [outcome] at sent
          exact orSame_induction sent fun after completed => sent.complete completed
      · next error reply outcome =>
          rw [outcome] at sent same
          apply sent.abandon
          intro indexed shadows
          apply not_shadows_prepare begun indexed
          unfold Shadows at shadows ⊢
          rwa [same.teidOf?, same.byImsi, same.session] at shadows

end Coherent

end Node

namespace Operation

open Node

variable {η : Type} {network : Network} {node start : Node η} {operation : Operation}
  {id : SessionId}

/-- Whether an operation takes a session out of the indices that may never have been in them. -/
inductive Drops (node : Node η) : Operation → SessionId → Prop where
  | remove {id : SessionId} (active : (node.session id).removed = false) :
      Drops node (.remove id) id
  | abandon {id : SessionId} {teid : UInt32} : Drops node (.abandon ⟨id, some teid, true⟩) id

theorem coherent_after (coherent : node.Coherent) (stocked : node.Stocked)
    (neutral : ∀ id adjustment, operation = .adjust id adjustment →
      adjustment.Neutral node.endpoint.interface)
    (alone : ∀ id, operation.Drops node id → ¬ node.Shadows id) :
    (operation.after network node).Coherent := by
  cases operation with
  | openSession peer subscriber =>
      exact coherent.addSession (stocked.absent_next coherent) _
  | describe peer request =>
      apply orSame_induction coherent
      intro after described
      obtain ⟨id, described⟩ := map_snd_eq_ok.mp described
      exact coherent.describe stocked described
  | mint draw => exact coherent.mint draw
  | release teid => exact coherent.release teid
  | register teid id =>
      exact orSame_induction coherent fun after registered => coherent.register registered
  | remove id =>
      simp only [after, Node.remove]
      split
      · exact coherent
      · next active => exact coherent.retire (alone id (.remove (by simpa using active)))
  | create peer elements => exact coherent.create stocked network peer elements
  | prepare peer request =>
      apply orSame_induction coherent
      intro after prepared
      obtain ⟨creation, prepared⟩ := map_snd_eq_ok.mp prepared
      exact coherent.prepare stocked prepared
  | complete creation =>
      exact orSame_induction coherent fun after completed => coherent.complete completed
  | abandon creation =>
      obtain ⟨id, teid, indexed⟩ := creation
      cases teid with
      | none => exact coherent
      | some teid =>
          show (node.abandon ⟨id, some teid, indexed⟩).Coherent
          apply coherent.abandon
          rintro rfl
          exact alone id .abandon
  | adjust id adjustment => exact coherent.adjust (neutral id adjustment rfl)

theorem not_coherent_after (coherent : node.Coherent) (drops : operation.Drops node id)
    (shadows : node.Shadows id) : ¬ (operation.after network node).Coherent := by
  cases drops with
  | remove active =>
      simp only [after, Node.remove, active]
      exact coherent.not_retire shadows
  | abandon => exact coherent.not_unregister shadows _

theorem stocked_after (stocked : node.Stocked)
    (neutral : ∀ id adjustment, operation = .adjust id adjustment →
      adjustment.Neutral node.endpoint.interface) :
    (operation.after network node).Stocked := by
  apply stocked.moves
  apply moves_after network allowsOwn_keepsImsi
  intro id adjustment same session
  exact (neutral id adjustment same session).2.1

/-- In a run that starts with empty indices, these stay coherent as long as no session is removed
that records no identifier while another one of its subscriber is indexed, and only so long. -/
theorem coherent_run_iff (network : Network) (operations : List Operation)
    (vacant : start.Vacant)
    (neutral : ∀ id adjustment, adjust id adjustment ∈ operations →
      adjustment.Neutral start.endpoint.interface) :
    (∀ earlier, earlier <+: operations → (run network earlier start).Coherent) ↔
      ∀ earlier operation id, earlier ++ [operation] <+: operations →
        operation.Drops (run network earlier start) id →
          ¬ (run network earlier start).Shadows id := by
  constructor
  · intro coherent earlier operation id begins drops shadows
    have before := coherent earlier ((List.prefix_append earlier [operation]).trans begins)
    have after := coherent _ begins
    rw [run_snoc] at after
    exact not_coherent_after before drops shadows after
  · intro alone
    -- coherence alone is not kept: a new session must not have the identity of an indexed one
    have both (earlier : List Operation) (begins : earlier <+: operations) :
        (run network earlier start).Coherent ∧ (run network earlier start).Stocked := by
      induction earlier using List.reverseRecOn with
      | nil => exact ⟨vacant.coherent, vacant.stocked⟩
      | append_singleton earlier operation ih =>
          obtain ⟨coherent, stocked⟩ := ih ((List.prefix_append earlier [operation]).trans begins)
          have neutral id adjustment (same : operation = adjust id adjustment) :
              adjustment.Neutral (run network earlier start).endpoint.interface := by
            unfold Endpoint.interface
            rw [config_run]
            exact neutral id adjustment (begins.subset (by simp [same]))
          rw [run_snoc]
          have alone id := alone earlier operation id begins
          exact ⟨coherent_after coherent stocked neutral alone, stocked_after stocked neutral⟩
    exact fun earlier begins => (both earlier begins).1

theorem coherent_run_iff_one_session :
    let start : Node Empty := .ofConfig {}
    let operations : List Operation :=
      [openSession default { imsi := "001010000000001" }, mint fun _ => 7, register 7 0,
        adjust 0 .deactivate, remove 0]
    start.Vacant ∧
      (∀ id adjustment, adjust id adjustment ∈ operations →
        adjustment.Neutral start.endpoint.interface) ∧
      ((∀ earlier, earlier <+: operations → (run .reachable earlier start).Coherent) ↔
        ∀ earlier operation id, earlier ++ [operation] <+: operations →
          operation.Drops (run .reachable earlier start) id →
            ¬ (run .reachable earlier start).Shadows id) := by
  intro start operations
  have vacant : start.Vacant := vacant_ofConfig {}
  have neutral : ∀ id adjustment, adjust id adjustment ∈ operations →
      adjustment.Neutral start.endpoint.interface := by
    intro id adjustment member session
    have same : adjustment = .deactivate := by simp [operations] at member; exact member.2
    rw [same]
    exact ⟨rfl, rfl, rfl⟩
  exact ⟨vacant, neutral, coherent_run_iff .reachable operations vacant neutral⟩

/-- Removing a session that was never registered splits the indices: the registered session of the
same subscriber is still found by that subscriber, but no longer by its identifier. -/
theorem not_coherent_remove_unregistered :
    let subscriber : Subscriber := { imsi := "001010000000001" }
    let node : Node Empty :=
      run .reachable
        [openSession default subscriber, mint fun _ => 7, register 7 0,
          openSession default subscriber, remove 1] (.ofConfig {})
    node.findImsi subscriber.imsi = .ok 0 ∧ node.findTeid 7 default = .error (.unknownTeid 7) ∧
      (node.session 0).removed = false ∧ ¬ node.Coherent := by
  intro subscriber node
  have entry : node.endpoint.byImsi.get? subscriber.imsi = some 0 := by decide
  have lost : node.endpoint.byTeid.get? 7 = none := by decide
  refine ⟨?_, ?_, by decide, ?_⟩
  · simp [findImsi, entry]
  · simp [findTeid, lost]
  · intro coherent
    obtain ⟨_, _, teid, recorded, held⟩ := coherent.of_imsi entry
    have own : node.teidOf? 0 = some 7 := by decide
    cases own.symm.trans recorded
    simp [lost] at held

end Operation

end TunnelControl
