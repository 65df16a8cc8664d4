import TunnelControl.Proofs.Endpoint.Move

namespace TunnelControl

namespace Node

variable {η : Type} {node next : Node η} {id other : SessionId} {teid : UInt32} {imsi : String}

def Finds (node : Node η) (id : SessionId) : Prop :=
  (∃ teid peer, node.findTeid teid peer = .ok id) ∨ ∃ imsi, node.findImsi imsi = .ok id

theorem findTeid_eq_ok {peer : SocketAddress} : node.findTeid teid peer = .ok id ↔
    node.endpoint.byTeid.get? teid = some (.session id) ∧ (node.session id).peer = peer := by
  unfold findTeid
  cases node.endpoint.byTeid.get? teid with
  | none => simp
  | some holder =>
      cases holder with
      | reserved => simp
      | session other =>
          simp only
          split <;> grind

theorem findImsi_eq_ok : node.findImsi imsi = .ok id ↔
    node.endpoint.byImsi.get? imsi = some id := by
  unfold findImsi
  cases node.endpoint.byImsi.get? imsi <;> simp

theorem finds_iff : node.Finds id ↔
    (∃ teid, node.endpoint.byTeid.get? teid = some (.session id)) ∨
      ∃ imsi, node.endpoint.byImsi.get? imsi = some id := by
  simp only [Finds, findTeid_eq_ok, findImsi_eq_ok]
  apply or_congr_left
  constructor
  · rintro ⟨teid, _, entry, _⟩
    exact ⟨teid, entry⟩
  · rintro ⟨teid, entry⟩
    exact ⟨teid, _, entry, rfl⟩

theorem not_finds_iff : ¬ node.Finds id ↔ node.Absent id := by
  rw [finds_iff]
  constructor
  · intro lost
    exact ⟨fun imsi entry => lost (.inr ⟨imsi, entry⟩), fun teid entry => lost (.inl ⟨teid, entry⟩)⟩
  · rintro absent (⟨teid, entry⟩ | ⟨imsi, entry⟩)
    · exact absent.teid teid entry
    · exact absent.imsi imsi entry

/-! ## Retired sessions -/

def KeepsRemoved (change : Session → Session) : Prop :=
  ∀ session, session.removed = true → (change session).removed = true

theorem allowsOwn_keepsRemoved : AllowsOwn KeepsRemoved :=
  ⟨fun _ _ => rfl, fun _ _ removed => removed⟩

structure Fades (id : SessionId) (node next : Node η) : Prop where
  known : id < next.sessions.next
  removed : (next.session id).removed = true
  byImsi : ∀ imsi, next.endpoint.byImsi.get? imsi = some id →
    node.endpoint.byImsi.get? imsi = some id
  byTeid : ∀ teid, next.endpoint.byTeid.get? teid = some (.session id) →
    node.endpoint.byTeid.get? teid = some (.session id)

theorem fades_move (known : id < node.sessions.next) (removed : (node.session id).removed = true)
    (move : Move KeepsRemoved node next) : Fades id node next := by
  cases move with
  | same same =>
      refine ⟨same.sessions ▸ known, by rw [same.session]; exact removed, ?_, ?_⟩
      · rw [same.byImsi]
        exact fun _ entry => entry
      · rw [same.byTeid]
        exact fun _ entry => entry
  | addSession session =>
      refine ⟨Nat.lt_succ_of_lt known, ?_, fun _ entry => entry, fun _ entry => entry⟩
      rw [session_addSession, if_neg (Nat.ne_of_lt known)]
      exact removed
  | reserve teid =>
      exact ⟨known, removed, fun _ entry => entry, fun _ entry => get?_reserve.mp entry⟩
  | release teid =>
      exact ⟨known, removed, fun _ entry => entry, fun _ entry => get?_release.mp entry⟩
  | unindex other =>
      exact ⟨known, removed, fun _ entry => (byImsi_unindex.mp entry).1,
        fun _ entry => (byTeid_unindex.mp entry).1⟩
  | change other _ fits =>
      refine ⟨known, ?_, fun _ entry => entry, fun _ entry => entry⟩
      rw [session_updateSession]
      split
      · next same => exact fits _ (same ▸ removed)
      · exact removed
  | @enter teid _ other active _ =>
      -- only a session that is not retired is entered, so it is another one
      have different : id ≠ other := by
        rintro rfl
        simp [removed] at active
      refine ⟨known, by rw [removed_enter]; exact removed, fun imsi entry => ?_,
        fun key entry => ?_⟩
      · rw [byImsi_enter] at entry
        split at entry
        · exact absurd (Option.some.inj entry).symm different
        · exact entry
      · have entry := byTeid_enter.mp entry
        split at entry
        · exact absurd (Holder.session.inj entry) different
        · exact entry.1

theorem fades_moves (known : id < node.sessions.next) (removed : (node.session id).removed = true)
    (moves : Moves KeepsRemoved node next) : Fades id node next := by
  induction moves with
  | refl => exact ⟨known, removed, fun _ entry => entry, fun _ entry => entry⟩
  | tail _ move ih =>
      have last := fades_move ih.known ih.removed move
      exact ⟨last.known, last.removed, fun imsi entry => ih.byImsi imsi (last.byImsi imsi entry),
        fun teid entry => ih.byTeid teid (last.byTeid teid entry)⟩

theorem fades_after (node : Node η) (known : id < node.sessions.next)
    (removed : (node.session id).removed = true) (network : Network) (operation : Operation) :
    Fades id node (operation.after network node) := by
  apply fades_moves known removed
  apply Operation.moves_after network allowsOwn_keepsRemoved
  rintro _ adjustment _ session removed
  exact adjustment.removed_apply removed

/-! ## What is gone -/

structure Gone (node : Node η) (id : SessionId) : Prop where
  known : id < node.sessions.next
  removed : (node.session id).removed = true
  absent : node.Absent id

namespace Gone

theorem after (gone : node.Gone id) (network : Network) (operation : Operation) :
    (operation.after network node).Gone id := by
  have fades := fades_after node gone.known gone.removed network operation
  refine ⟨fades.known, fades.removed, ?_, ?_⟩
  · exact fun imsi entry => gone.absent.imsi imsi (fades.byImsi imsi entry)
  · exact fun teid entry => gone.absent.teid teid (fades.byTeid teid entry)

theorem run (gone : node.Gone id) (network : Network) (operations : List Operation) :
    (Operation.run network operations node).Gone id := by
  induction operations generalizing node with
  | nil => exact gone
  | cons operation operations ih => exact ih (gone.after network operation)

end Gone

/-! ## Entries that stay behind -/

/-- Whether the session has entries under identities that it no longer has, other than the one that
goes over to another session. -/
def Strays (node : Node η) (id : SessionId) (inherited : Option String) : Prop :=
  (∃ teid own, node.endpoint.byTeid.get? teid = some (.session id) ∧
      node.teidOf? id = some own ∧ own ≠ teid) ∨
    ∃ imsi, node.endpoint.byImsi.get? imsi = some id ∧ imsi ≠ (node.session id).imsi ∧
      some imsi ≠ inherited

theorem SameIndices.strays (same : node.SameIndices next) (id : SessionId)
    (inherited : Option String) : next.Strays id inherited ↔ node.Strays id inherited := by
  unfold Strays
  rw [same.byTeid, same.byImsi, same.session, same.teidOf?]

theorem strays_addSession (known : id < node.sessions.next) (session : Session)
    (inherited : Option String) :
    (node.addSession session).2.Strays id inherited ↔ node.Strays id inherited := by
  unfold Strays teidOf?
  rw [session_addSession, if_neg (Nat.ne_of_lt known)]
  rfl

theorem spares_self : node.Spares id teid id ↔ ∃ own, node.teidOf? id = some own ∧ own ≠ teid := by
  unfold Spares
  cases node.teidOf? id <;> simp

theorem finds_retire : (node.retire id).Finds id ↔ node.Strays id none := by
  simp only [finds_iff, byTeid_retire, byImsi_retire, spares_self, Strays]
  apply or_congr
  · constructor
    · rintro ⟨teid, entry, own, recorded⟩
      exact ⟨teid, own, entry, recorded⟩
    · rintro ⟨teid, own, entry, recorded⟩
      exact ⟨teid, entry, own, recorded⟩
  · simp

structure Replaces (node : Node η) (teid : UInt32) (other id : SessionId) (next : Node η) :
    Prop where
  registered : node.register teid other = .ok next
  entry : node.endpoint.byImsi.get? (node.session other).imsi = some id
  different : id ≠ other

namespace Replaces

theorem eq_enter (replaces : node.Replaces teid other id next) :
    node.isUsable teid other = true ∧ next = (node.retire id).enter teid other := by
  obtain ⟨registered, entry, different⟩ := replaces
  obtain ⟨_, indexed⟩ := map_snd_eq_ok.mp registered
  obtain ⟨_, _, usable, outcome⟩ := index_eq_ok.mp indexed
  simp only [entry, Option.filter_some, different, ne_eq, not_false_eq_true, decide_true,
    if_true] at outcome
  exact ⟨usable, (Prod.ext_iff.mp outcome).2⟩

theorem finds (replaces : node.Replaces teid other id next) :
    next.Finds id ↔ node.Strays id (some (node.session other).imsi) := by
  obtain ⟨usable, rfl⟩ := replaces.eq_enter
  have different := replaces.different
  simp only [finds_iff, byTeid_enter, byImsi_enter, imsi_retire]
  apply or_congr
  · constructor
    · rintro ⟨key, entry⟩
      split at entry
      · simp [different] at entry
      · obtain ⟨entry, spared⟩ := byTeid_retire.mp entry.1
        obtain ⟨own, recorded⟩ := spares_self.mp spared
        exact ⟨key, own, entry, recorded⟩
    · rintro ⟨key, own, entry, recorded⟩
      -- the identifier that the successor gets was reserved or its own, so it is none of these
      have elsewhere : key ≠ teid := by
        rintro rfl
        rcases isUsable_iff.mp usable with reserved | held
        · simp [reserved] at entry
        · simp [held, different.symm] at entry
      refine ⟨key, ?_⟩
      rw [if_neg elsewhere]
      refine ⟨byTeid_retire.mpr ⟨entry, spares_self.mpr ⟨own, recorded⟩⟩, ?_⟩
      simp [different]
  · constructor
    · rintro ⟨imsi, entry⟩
      split at entry
      · cases entry
        exact absurd rfl different
      · next kept =>
          obtain ⟨entry, elsewhere⟩ := byImsi_retire.mp entry
          exact ⟨imsi, entry, fun same => elsewhere ⟨rfl, same⟩, by simpa using kept⟩
    · rintro ⟨imsi, entry, elsewhere, kept⟩
      refine ⟨imsi, ?_⟩
      rw [if_neg (by simpa using kept)]
      exact byImsi_retire.mpr ⟨entry, fun same => elsewhere same.2⟩

theorem removed (replaces : node.Replaces teid other id next) :
    (next.session id).removed = true := by
  obtain ⟨_, rfl⟩ := replaces.eq_enter
  rw [removed_enter, session_retire, if_pos rfl]
  rfl

end Replaces

end Node

/-! ## Operations that retire -/

namespace Operation

open Node

variable {η : Type} {network : Network} {node : Node η} {id : SessionId} {operation : Operation}
  {inherited : Option String}

inductive Retires (network : Network) (id : SessionId) :
    Node η → Operation → Option String → Prop where
  | remove {node : Node η} (active : (node.session id).removed = false) :
      Retires network id node (.remove id) none
  | register {node next : Node η} {teid : UInt32} {other : SessionId}
      (replaces : node.Replaces teid other id next) :
      Retires network id node (.register teid other) (some (node.session other).imsi)
  | complete {node next : Node η} {teid : UInt32} {other : SessionId}
      (replaces : node.Replaces teid other id next) :
      Retires network id node (.complete ⟨other, some teid, false⟩) (some (node.session other).imsi)
  | create {node prepared sent : Node η} {peer : SocketAddress} {elements : List Element}
      {creation : Creation} {sequence : UInt32} {inherited : Option String}
      (prepares : node.prepare peer (request elements).body = .ok (creation, prepared))
      (sends : Action.perform (Action.send network peer (request elements)) prepared =
        (.ok sequence, sent))
      (completes : Retires network id sent (.complete creation) inherited) :
      Retires network id node (.create peer elements) inherited

theorem after_register_of_replaces {teid : UInt32} {other : SessionId} {next : Node η}
    (replaces : node.Replaces teid other id next) :
    (register teid other).after network node = next := by
  simp only [after, replaces.registered, orSame]

theorem after_complete_of_replaces {teid : UInt32} {other : SessionId} {next : Node η}
    (replaces : node.Replaces teid other id next) :
    (complete ⟨other, some teid, false⟩).after network node = next := by
  show (register teid other).after network node = next
  exact after_register_of_replaces replaces

theorem after_create_of_sent {peer : SocketAddress} {elements : List Element} {creation : Creation}
    {prepared sent : Node η} {sequence : UInt32}
    (prepares : node.prepare peer (request elements).body = .ok (creation, prepared))
    (sends : Action.perform (Action.send network peer (request elements)) prepared =
      (.ok sequence, sent)) :
    (create peer elements).after network node = (complete creation).after network sent := by
  rw [after_create, prepares]
  simp only [sends]
  rfl

theorem strays_sent {peer : SocketAddress} {elements : List Element} {creation : Creation}
    {prepared sent : Node η} {sequence : UInt32} (known : id < node.sessions.next)
    (prepares : node.prepare peer (request elements).body = .ok (creation, prepared))
    (sends : Action.perform (Action.send network peer (request elements)) prepared =
      (.ok sequence, sent))
    (unindexed : creation.indexed = false) :
    sent.Strays id inherited ↔ node.Strays id inherited := by
  have same := Action.sameIndices_send network peer (request elements) prepared
  rw [sends] at same
  obtain ⟨session, _, outcome⟩ := prepare_eq_ok prepares
  have added : prepared = (node.addSession session).2 := by
    rcases outcome with ⟨_, _, added⟩ | ⟨teid, _, indexed⟩
    · exact added
    · obtain ⟨_, _, _, outcome⟩ := index_eq_ok.mp indexed
      rw [unindexed] at outcome
      split at outcome
      · cases outcome
      · exact (Prod.ext_iff.mp outcome).2
  rw [same.strays, added, strays_addSession known]

theorem Retires.removed (retires : Retires network id node operation inherited) :
    ((operation.after network node).session id).removed = true := by
  induction retires with
  | @remove node active =>
      simp only [after, Node.remove, active, Bool.false_eq_true, if_false]
      rw [session_retire, if_pos rfl]
      rfl
  | register replaces =>
      rw [after_register_of_replaces replaces]
      exact replaces.removed
  | complete replaces =>
      rw [after_complete_of_replaces replaces]
      exact replaces.removed
  | create prepares sends _ ih =>
      rw [after_create_of_sent prepares sends]
      exact ih

theorem Retires.finds (retires : Retires network id node operation inherited)
    (known : id < node.sessions.next) :
    (operation.after network node).Finds id ↔ node.Strays id inherited := by
  cases retires with
  | remove active =>
      simp only [after, Node.remove, active, Bool.false_eq_true, if_false]
      exact finds_retire
  | register replaces =>
      rw [after_register_of_replaces replaces]
      exact replaces.finds
  | complete replaces =>
      rw [after_complete_of_replaces replaces]
      exact replaces.finds
  | create prepares sends completes =>
      rw [after_create_of_sent prepares sends]
      cases completes with
      | complete replaces =>
          rw [← strays_sent known prepares sends rfl]
          rw [after_complete_of_replaces replaces]
          exact replaces.finds

/-- A retired session is found again, at once or ever after, exactly if it has entries under
identities other than those that it has when it is retired. -/
theorem found_after_retirement_iff (known : id < node.sessions.next)
    (retires : Retires network id node operation inherited) :
    (∃ later, (run network later (operation.after network node)).Finds id) ↔
      node.Strays id inherited := by
  constructor
  · rintro ⟨later, found⟩
    apply Classical.byContradiction
    intro none
    have lost := fun found => none ((retires.finds known).mp found)
    have next := next_le_after network operation node
    have gone : (operation.after network node).Gone id :=
      ⟨Nat.lt_of_lt_of_le known next, retires.removed, not_finds_iff.mp lost⟩
    exact not_finds_iff.mpr (gone.run network later).absent found
  · intro strays
    exact ⟨[], (retires.finds known).mpr strays⟩

theorem found_after_retirement_iff_unchanged :
    let node : Node Empty :=
      run .reachable
        [openSession default { imsi := "001010000000001" }, mint fun _ => 7, register 7 0]
        (.ofConfig {})
    0 < node.sessions.next ∧ Retires .reachable 0 node (.remove 0) none ∧
      ((∃ later, (run .reachable later ((remove 0).after .reachable node)).Finds 0) ↔
        node.Strays 0 none) := by
  intro node
  have known : 0 < node.sessions.next := by decide
  have retires : Retires .reachable 0 node (.remove 0) none := .remove (by decide)
  exact ⟨known, retires, found_after_retirement_iff known retires⟩

/-- A session whose subscriber or identifier was changed while it was indexed is still found by the
old one after it was removed. -/
theorem finds_removed_after_change :
    let registered : Node Empty :=
      run .reachable
        [openSession default { imsi := "001010000000001" }, mint fun _ => 7, register 7 0]
        (.ofConfig {})
    let renamed := (adjust 0 (.subscriber fun _ => { imsi := "001010000000002" })).after
      .reachable registered
    let renumbered := (adjust 0 (.teid 0 9)).after .reachable registered
    (renamed.remove 0).1 = true ∧ (renamed.remove 0).2.findImsi "001010000000001" = .ok 0 ∧
      (renumbered.remove 0).1 = true ∧ (renumbered.remove 0).2.findTeid 7 default = .ok 0 := by
  intro registered renamed renumbered
  refine ⟨by decide, ?_, by decide, ?_⟩
  · rw [findImsi_eq_ok]
    decide
  · rw [findTeid_eq_ok]
    exact ⟨by decide, rfl⟩

end Operation

end TunnelControl
