import TunnelControl.Proofs.Endpoint.Bijection
import TunnelControl.Proofs.Endpoint.Ownership

/-!
What others do between the parts of a creation may retire, replace or move its session, but leaves
the session and its identifier in a state from which the creation can be completed or abandoned.
-/

namespace TunnelControl

namespace Node

variable {η : Type} {node after : Node η} {id other : SessionId} {teid : UInt32}

/-! ## Identifiers that sessions record -/

theorem teidOf?_retire : (node.retire id).teidOf? other = node.teidOf? other := by
  rw [retire_eq]
  exact teidOf?_updateSession_retire

theorem records_index {replace indexed : Bool}
    (done : node.index teid id replace = .ok (indexed, after))
    (records : node.teidOf? other ≠ none) : after.teidOf? other ≠ none := by
  have entered (middle : Node η) (same : middle.teidOf? other = node.teidOf? other) :
      (middle.enter teid id).teidOf? other ≠ none := by
    rw [teidOf?_enter]
    split
    · exact Option.some_ne_none teid
    · exact same ▸ records
  obtain ⟨-, -, -, way⟩ := index_eq_ok.mp done
  split at way
  · cases way
    exact entered node rfl
  · split at way
    · cases way
      exact entered _ teidOf?_retire
    · cases way
      exact records

theorem session_unregister (different : other ≠ id) :
    (node.unregister teid id).session other = node.session other := by
  show (Sessions.modify _ _ _).get other = _
  rw [Sessions.get_modify, if_neg different]
  rfl

theorem teidOf?_unregister (different : other ≠ id) :
    (node.unregister teid id).teidOf? other = node.teidOf? other :=
  congrArg (Session.teid? node.endpoint.interface) (session_unregister different)

/-! ## Sessions that are left alone -/

structure Untouched (other : SessionId) (node after : Node η) : Prop where
  session : after.session other = node.session other
  byImsi : ∀ imsi, after.endpoint.byImsi.get? imsi = some other ↔
    node.endpoint.byImsi.get? imsi = some other
  byTeid : ∀ teid, after.endpoint.byTeid.get? teid = some (.session other) ↔
    node.endpoint.byTeid.get? teid = some (.session other)

theorem Untouched.trans {last : Node η} (left : Untouched other node after)
    (right : Untouched other after last) : Untouched other node last :=
  ⟨right.session.trans left.session, fun imsi => (right.byImsi imsi).trans (left.byImsi imsi),
    fun teid => (right.byTeid teid).trans (left.byTeid teid)⟩

theorem SameIndices.untouched (same : node.SameIndices after) : Untouched other node after := by
  refine ⟨same.session other, fun imsi => ?_, fun teid => ?_⟩
  · rw [same.byImsi]
  · rw [same.byTeid]

theorem untouched_enter (usable : node.isUsable teid id = true) (different : other ≠ id)
    (alone : ∀ other, ¬ node.Displaces id other) :
    Untouched other node (node.enter teid id) := by
  constructor
  · rw [session_enter, if_neg different]
  · intro imsi
    rw [byImsi_enter]
    split
    · next same =>
        apply iff_of_false
        · exact fun entry => different (Option.some.inj entry).symm
        · exact fun entry => alone other ⟨same ▸ entry, different⟩
    · rfl
  · intro key
    rw [byTeid_enter]
    split
    · next same =>
        apply iff_of_false
        · exact fun entry => different (by simpa using entry)
        · rw [same]
          rcases isUsable_iff.mp usable with reserved | own
          · simp [reserved]
          · simpa [own] using different.symm
    · simp [different]

theorem untouched_prepare {peer : SocketAddress} {request : Body} {creation : Creation}
    (prepared : node.prepare peer request = .ok (creation, after))
    (different : other ≠ creation.session) : Untouched other node after := by
  obtain ⟨session, own, way⟩ := prepare_eq_ok prepared
  have added : Untouched other node (node.addSession session).2 := by
    refine ⟨?_, fun _ => Iff.rfl, fun _ => Iff.rfl⟩
    rw [session_addSession, if_neg (own ▸ different)]
  rcases way with ⟨-, -, rfl⟩ | ⟨teid, -, done⟩
  · exact added
  · obtain ⟨-, -, usable, way⟩ := index_eq_ok.mp done
    split at way
    · next alone =>
        obtain ⟨-, rfl⟩ := Prod.mk.inj way
        exact added.trans (untouched_enter usable different (alone_iff.mp alone))
    · obtain ⟨-, rfl⟩ := Prod.mk.inj way
      exact added

theorem untouched_unregister (coherent : node.Coherent) (alone : ¬ node.Shadows id)
    (different : other ≠ id) : Untouched other node (node.unregister teid id) := by
  constructor
  · exact session_unregister different
  · intro imsi
    exact byImsi_unindex.trans (and_iff_left fun same => different same.1)
  · intro key
    refine get?_reserve.trans (byTeid_unindex.trans (and_iff_left_iff_imp.mpr fun entry => ?_))
    exact coherent.spares alone entry different

end Node

/-! ## Creations under way -/

structure Creation.Apart (first second : Creation) : Prop where
  session : first.session ≠ second.session
  teid : ∀ teid, second.teid = some teid → first.teid ≠ some teid

theorem Creation.Apart.symm {first second : Creation} (apart : first.Apart second) :
    second.Apart first :=
  ⟨apart.session.symm, fun teid own other => apart.teid teid other own⟩

/-- What holds of a creation between its parts. Its identifier may be in use for its own session
only, and is reserved as long as that session is not indexed, of which nobody else then knows. -/
structure Creation.Underway {η : Type} (creation : Creation) (node : Node η) : Prop where
  known : creation.session < node.sessions.next
  named : creation.indexed = true → creation.teid ≠ none
  records : creation.indexed = true → node.teidOf? creation.session ≠ none
  own : ∀ {teid other}, creation.teid = some teid →
    node.holder? teid = some (.session other) → other = creation.session
  absent : creation.indexed = false → node.Absent creation.session
  reserved : ∀ {teid}, creation.indexed = false → creation.teid = some teid →
    node.holder? teid = some .reserved

namespace Creation.Underway

open Node

variable {η : Type} {node after : Node η} {creation : Creation} {id : SessionId} {teid : UInt32}
  (underway : creation.Underway node)

theorem of_prepare (coherent : node.Coherent) (stocked : node.Stocked) {peer : SocketAddress}
    {request : Body} (prepared : node.prepare peer request = .ok (creation, after)) :
    creation.Underway after := by
  have absent := stocked.absent_next coherent
  have reserved teid := @reserved_of_prepare η node after teid peer request creation prepared
  obtain ⟨session, session_eq, ⟨unindexed, rfl⟩ | ⟨teid, own, indexed, rfl⟩⟩ :=
    prepare_cases prepared
  · constructor
    case known => exact session_eq ▸ Nat.lt_succ_self _
    case named => simp [unindexed]
    case records => simp [unindexed]
    case own =>
      intro teid other own entry
      cases (reserved teid own).symm.trans entry
    case absent => exact fun _ => session_eq ▸ ⟨absent.imsi, absent.teid⟩
    case reserved => exact fun _ own => reserved _ own
  · constructor
    case known => exact session_eq ▸ Nat.lt_succ_self _
    case named => simp [own]
    case records =>
      intro _
      rw [teidOf?_enter, if_pos rfl]
      exact Option.some_ne_none teid
    case own =>
      intro key other same entry
      cases own.symm.trans same
      cases holder?_enter.symm.trans entry
      rfl
    case absent => simp [indexed]
    case reserved => simp [indexed]

include underway

theorem of_loses (known : node.sessions.next ≤ after.sessions.next)
    (records : node.teidOf? creation.session ≠ none → after.teidOf? creation.session ≠ none)
    (absent : creation.indexed = false → after.Absent creation.session)
    (loses : ∀ teid, creation.teid = some teid → Loses (node.holder? teid) (after.holder? teid)) :
    creation.Underway after where
  known := Nat.lt_of_lt_of_le underway.known known
  named := underway.named
  records indexed := records (underway.records indexed)
  absent := absent
  own {teid other} own entry := by
  -- a creation goes on as long as no session gets its identifier, and its own session either is
  -- still hidden or still records an identifier
    have lost := loses teid own
    rw [entry] at lost
    exact underway.own own lost.eq_session
  reserved {teid} unindexed own := by
    have lost := loses teid own
    rw [underway.reserved unindexed own] at lost
    exact lost.eq_reserved

theorem of_sameIndices (same : node.SameIndices after) : creation.Underway after := by
  apply underway.of_loses
  · exact Nat.le_of_eq (congrArg Sessions.next same.sessions).symm
  · rw [same.teidOf?]
    exact fun records => records
  · exact fun unindexed => (underway.absent unindexed).of_sameIndices same
  · intro teid _
    rw [same.holder?]
    exact .keep _

theorem addSession (session : Session) : creation.Underway (node.addSession session).2 := by
  apply underway.of_loses
  · exact Nat.le_succ _
  · unfold teidOf?
    rw [session_addSession, if_neg (Nat.ne_of_lt underway.known)]
    exact fun records => records
  · intro unindexed
    have absent := underway.absent unindexed
    exact ⟨absent.imsi, absent.teid⟩
  · exact fun teid _ => .keep _

theorem index {replace indexed : Bool} (done : node.index teid id replace = .ok (indexed, after))
    (free : creation.teid ≠ some teid) (hidden : creation.session = id → creation.indexed = true) :
    creation.Underway after := by
  have moves := moves_index allowsOwn_keepsImsi done
  apply underway.of_loses
  · exact moves.next_le
  · exact records_index done
  · intro unindexed
    apply (underway.absent unindexed).index done
    intro same
    rw [hidden same] at unindexed
    cases unindexed
  · intro own known
    have other : own ≠ teid := fun same => free (same ▸ known)
    exact loses_index done other

theorem retire (id : SessionId) : creation.Underway (node.retire id) := by
  apply underway.of_loses
  · exact Nat.le_refl _
  · rw [teidOf?_retire]
    exact fun records => records
  · exact fun unindexed => (underway.absent unindexed).retire id
  · exact fun teid _ => loses_retire node id teid

theorem unregister (free : creation.teid ≠ some teid) (different : creation.session ≠ id) :
    creation.Underway (node.unregister teid id) := by
  apply underway.of_loses
  · exact Nat.le_refl _
  · rw [teidOf?_unregister different]
    exact fun records => records
  · exact fun unindexed => (underway.absent unindexed).unregister teid id
  · intro own known
    have other : own ≠ teid := fun same => free (same ▸ known)
    rw [holder?_unregister, if_neg other]
    exact loses_unindex node id own

theorem mint (draw : Nat → UInt32) : creation.Underway (node.mint draw).2 := by
  rcases mint_cases draw node with same | ⟨minted, same⟩
  · rw [same]
    exact underway
  · rw [same]
    constructor
    case known => exact underway.known
    case named => exact underway.named
    case records => exact underway.records
    case own => exact fun own entry => underway.own own (get?_reserve.mp entry)
    case absent =>
      intro unindexed
      have absent := underway.absent unindexed
      exact ⟨absent.imsi, fun teid entry => absent.teid teid (get?_reserve.mp entry)⟩
    case reserved =>
      intro teid unindexed own
      have reserved := underway.reserved unindexed own
      unfold holder? at *
      rw [Table.get?_insertNew]
      split
      · next same => rw [← same, reserved]; rfl
      · exact reserved

theorem release (free : creation.teid ≠ some teid) :
    creation.Underway (node.release teid).2 := by
  apply underway.of_loses
  · exact Nat.le_refl _
  · exact fun records => records
  · intro unindexed
    have absent := underway.absent unindexed
    exact ⟨absent.imsi, fun teid entry => absent.teid teid (get?_release.mp entry)⟩
  · intro own known
    have other : teid ≠ own := fun same => free (same ▸ known)
    rw [holder?_release other]
    exact .keep _

theorem adjust {adjustment : Adjustment} (neutral : adjustment.Neutral node.endpoint.interface) :
    creation.Underway (node.updateSession id adjustment.apply) := by
  apply underway.of_loses
  · exact Nat.le_refl _
  · unfold teidOf?
    rw [session_updateSession]
    split
    · next same =>
        rw [same]
        exact (neutral (node.session id)).2.2.trans_ne
    · exact fun records => records
  · intro unindexed
    have absent := underway.absent unindexed
    exact ⟨absent.imsi, absent.teid⟩
  · exact fun teid _ => .keep _

theorem register (free : creation.teid ≠ some teid)
    (hidden : creation.session = id → creation.indexed = true) :
    creation.Underway (node.orSame (node.register teid id)) := by
  refine orSame_induction underway fun after registered => ?_
  obtain ⟨indexed, done⟩ := map_snd_eq_ok.mp registered
  exact underway.index done free hidden

/-! ## Abandoning a creation -/

theorem not_shadows (indexed : creation.indexed = true) : ¬ node.Shadows creation.session :=
  fun shadows => underway.records indexed shadows.1

theorem untouched_abandon {other : SessionId} (coherent : node.Coherent)
    (different : other ≠ creation.session) : Untouched other node (node.abandon creation) := by
  unfold Node.abandon
  split
  · split
    · next indexed => exact untouched_unregister coherent (underway.not_shadows indexed) different
    · exact (SameIndices.refl node).untouched
  · exact (SameIndices.refl node).untouched

theorem absent_abandon (coherent : node.Coherent) :
    (node.abandon creation).Absent creation.session := by
  have unindexed := coherent.absent_unindex creation.session
  have kept (out : creation.indexed = true → creation.teid = none) :
      node.Absent creation.session := by
    apply underway.absent
    exact Bool.eq_false_iff.mpr fun indexed => underway.named indexed (out indexed)
  unfold Node.abandon
  split
  · split
    · exact ⟨unindexed.imsi, fun key entry => unindexed.teid key (get?_reserve.mp entry)⟩
    · next out => exact kept fun indexed => absurd indexed out
  · next unnamed => exact kept fun _ => unnamed

theorem reserved_abandon (coherent : node.Coherent) (own : creation.teid = some teid) :
    (node.abandon creation).holder? teid = some .reserved := by
  unfold Node.abandon
  rw [own]
  simp only
  split
  · rw [holder?_unregister, if_pos rfl]
    cases left : (node.unindex creation.session).holder? teid with
    | none => rfl
    | some holder =>
        cases holder with
        | reserved => rfl
        | session other =>
            -- only the session itself may have had the identifier, and it was taken out
            have entry := byTeid_unindex.mp left
            have same := underway.own own entry.1
            exact absurd (same ▸ left) ((coherent.absent_unindex creation.session).teid teid)
  · next unindexed => exact underway.reserved (Bool.eq_false_iff.mpr unindexed) own

/-! ## Other creations -/

variable {second : Creation}

theorem prepare {peer : SocketAddress} {request : Body}
    (prepared : node.prepare peer request = .ok (second, after))
    (free : ∀ teid, second.teid = some teid → creation.teid ≠ some teid) :
    creation.Underway after := by
  obtain ⟨session, session_eq, ⟨-, -, rfl⟩ | ⟨teid, own, done⟩⟩ := prepare_eq_ok prepared
  · exact underway.addSession session
  · have different : creation.session ≠ second.session :=
      session_eq ▸ Nat.ne_of_lt underway.known
    exact (underway.addSession session).index done (free teid own) fun same =>
      absurd same different

variable (apart : creation.Apart second)

include apart

theorem complete : creation.Underway (node.orSame (node.complete second)) := by
  unfold Node.complete
  split
  · next teid own =>
      split
      · exact underway
      · exact underway.register (apart.teid teid own) fun same => absurd same apart.session
  · exact underway

theorem abandon : creation.Underway (node.abandon second) := by
  unfold Node.abandon
  split
  · next teid own =>
      split
      · exact underway.unregister (apart.teid teid own) apart.session
      · exact underway
  · exact underway

end Creation.Underway

end TunnelControl
