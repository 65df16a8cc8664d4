import TunnelControl.Proofs.Endpoint.Operation

namespace TunnelControl

namespace Node

variable {η : Type} {node after : Node η} {id other : SessionId} {teid : UInt32} {imsi : String}

/-- Whether the indices agree with each other and with what their sessions record. -/
structure Coherent (node : Node η) : Prop where
  of_imsi : ∀ {imsi id}, node.endpoint.byImsi.get? imsi = some id →
    (node.session id).removed = false ∧ (node.session id).imsi = imsi ∧
      ∃ teid, node.teidOf? id = some teid ∧ node.endpoint.byTeid.get? teid = some (.session id)
  of_teid : ∀ {teid id}, node.endpoint.byTeid.get? teid = some (.session id) →
    node.teidOf? id = some teid ∧ node.endpoint.byImsi.get? (node.session id).imsi = some id

/-- Whether a session that records no identifier shares its subscriber with an indexed one. -/
def Shadows (node : Node η) (id : SessionId) : Prop :=
  node.teidOf? id = none ∧ node.endpoint.byImsi.get? (node.session id).imsi ≠ none

structure Displaces (node : Node η) (id old : SessionId) : Prop where
  entry : node.endpoint.byImsi.get? (node.session id).imsi = some old
  different : old ≠ id

theorem displaces_iff : (node.endpoint.byImsi.get? (node.session id).imsi).filter (· ≠ id) =
    some other ↔ node.Displaces id other := by
  rw [Option.filter_eq_some_iff, decide_eq_true_iff]
  exact ⟨fun found => ⟨found.1, found.2⟩, fun displaces => ⟨displaces.entry, displaces.different⟩⟩

theorem Displaces.unique {old : SessionId} (displaces : node.Displaces id old)
    (others : node.Displaces id other) : other = old :=
  Option.some.inj (others.entry.symm.trans displaces.entry)

theorem Displaces.session_kept {old : SessionId} (displaces : node.Displaces id old) :
    (node.retire old).session id = node.session id := by
  rw [session_retire, if_neg displaces.different.symm]

theorem alone_iff : (node.endpoint.byImsi.get? (node.session id).imsi).filter (· ≠ id) = none ↔
    ∀ other, ¬ node.Displaces id other := by
  rw [Option.eq_none_iff_forall_ne_some]
  exact forall_congr' fun other => not_congr displaces_iff

namespace Coherent

theorem of_unchanged (coherent : node.Coherent)
    (byImsi : after.endpoint.byImsi = node.endpoint.byImsi)
    (byTeid : ∀ teid id, after.endpoint.byTeid.get? teid = some (.session id) ↔
      node.endpoint.byTeid.get? teid = some (.session id))
    (unchanged : ∀ imsi id, node.endpoint.byImsi.get? imsi = some id →
      (after.session id).removed = (node.session id).removed ∧
        (after.session id).imsi = (node.session id).imsi ∧ after.teidOf? id = node.teidOf? id) :
    after.Coherent := by
  constructor
  · intro imsi id entry
    rw [byImsi] at entry
    obtain ⟨removed, known, recorded⟩ := unchanged imsi id entry
    rw [removed, known, recorded]
    obtain ⟨active, own, teid, records, held⟩ := coherent.of_imsi entry
    exact ⟨active, own, teid, records, (byTeid teid id).mpr held⟩
  · intro teid id entry
    obtain ⟨records, held⟩ := coherent.of_teid ((byTeid teid id).mp entry)
    obtain ⟨_, known, recorded⟩ := unchanged _ id held
    rw [recorded, known, byImsi]
    exact ⟨records, held⟩

theorem of_sameIndices (coherent : node.Coherent) (same : node.SameIndices after) :
    after.Coherent := by
  apply coherent.of_unchanged same.byImsi
  · intro teid id
    rw [same.byTeid]
  · intro imsi id _
    rw [same.session]
    exact ⟨rfl, rfl, same.teidOf? id⟩

/-! ## Leaving the indices -/

theorem absent_unindex (coherent : node.Coherent) (id : SessionId) :
    (node.unindex id).Absent id := by
  constructor
  · intro imsi entry
    obtain ⟨entry, other⟩ := byImsi_unindex.mp entry
    exact other ⟨rfl, (coherent.of_imsi entry).2.1.symm⟩
  · intro teid entry
    obtain ⟨entry, spared⟩ := byTeid_unindex.mp entry
    have recorded := (coherent.of_teid entry).1
    simp [Spares, recorded] at spared

theorem spares (coherent : node.Coherent) (alone : ¬ node.Shadows id)
    (entry : node.endpoint.byTeid.get? teid = some (.session other)) (different : other ≠ id) :
    node.Spares id teid other := by
  unfold Spares
  cases recorded : node.teidOf? id with
  | some own => exact fun same => different same.2
  | none =>
      intro same
      apply alone
      refine ⟨recorded, ?_⟩
      rw [← same, (coherent.of_teid entry).2]
      exact Option.some_ne_none other

theorem unindex (coherent : node.Coherent) (alone : ¬ node.Shadows id) :
    (node.unindex id).Coherent := by
  constructor
  · intro imsi other entry
    obtain ⟨entry, kept⟩ := byImsi_unindex.mp entry
    obtain ⟨active, known, teid, recorded, held⟩ := coherent.of_imsi entry
    have different : other ≠ id := fun same => kept ⟨same, same ▸ known.symm⟩
    have spared := coherent.spares alone held different
    exact ⟨active, known, teid, recorded, byTeid_unindex.mpr ⟨held, spared⟩⟩
  · intro teid other entry
    have different : other ≠ id := by
      rintro rfl
      exact (coherent.absent_unindex other).teid teid entry
    obtain ⟨entry, _⟩ := byTeid_unindex.mp entry
    obtain ⟨recorded, held⟩ := coherent.of_teid entry
    exact ⟨recorded, byImsi_unindex.mpr ⟨held, fun same => different same.1⟩⟩

/-! ## Changes of a session -/

theorem updateSession_absent (coherent : node.Coherent) (absent : node.Absent id)
    (change : Session → Session) : (node.updateSession id change).Coherent := by
  refine coherent.of_unchanged rfl (fun _ _ => Iff.rfl) ?_
  intro imsi other entry
  have different : other ≠ id := fun same => absent.imsi imsi (same ▸ entry)
  unfold teidOf?
  rw [session_updateSession, if_neg different]
  exact ⟨rfl, rfl, rfl⟩

theorem adjust (coherent : node.Coherent) {adjustment : Adjustment}
    (neutral : adjustment.Neutral node.endpoint.interface) :
    (node.updateSession id adjustment.apply).Coherent := by
  refine coherent.of_unchanged rfl (fun _ _ => Iff.rfl) ?_
  intro imsi other _
  simp only [teidOf?, session_updateSession]
  split
  · next same => exact same ▸ neutral _
  · exact ⟨rfl, rfl, rfl⟩

theorem retire (coherent : node.Coherent) (alone : ¬ node.Shadows id) :
    (node.retire id).Coherent := by
  rw [retire_eq]
  exact (coherent.unindex alone).updateSession_absent (coherent.absent_unindex id) _

theorem absent_retire (coherent : node.Coherent) (id : SessionId) :
    (node.retire id).Absent id := by
  have absent := coherent.absent_unindex id
  rw [retire_eq]
  exact ⟨absent.imsi, absent.teid⟩

/-! ## Entering the indices -/

theorem enter (coherent : node.Coherent) (active : (node.session id).removed = false)
    (usable : node.isUsable teid id = true)
    (alone : ∀ other, ¬ node.Displaces id other) : (node.enter teid id).Coherent := by
  have vacant {other} (different : other ≠ id) :
      node.endpoint.byTeid.get? teid ≠ some (.session other) := by
    intro entry
    rcases isUsable_iff.mp usable with reserved | held
    · simp [reserved] at entry
    · simp [held, Ne.symm different] at entry
  constructor
  · intro imsi other entry
    rw [byImsi_enter] at entry
    rw [removed_enter, imsi_enter, teidOf?_enter]
    split at entry
    · next same =>
        cases entry
        exact ⟨active, same.symm, teid, if_pos rfl, byTeid_enter.mpr (by simp)⟩
    · next elsewhere =>
        obtain ⟨lives, known, number, recorded, held⟩ := coherent.of_imsi entry
        have different : other ≠ id := fun same => elsewhere (same ▸ known.symm)
        have number_ne : number ≠ teid := fun same => vacant different (same ▸ held)
        rw [if_neg different]
        refine ⟨lives, known, number, recorded, byTeid_enter.mpr ?_⟩
        rw [if_neg number_ne]
        exact ⟨held, fun same => different (by simpa using same.1)⟩
  · intro number other entry
    have entry := byTeid_enter.mp entry
    rw [imsi_enter, teidOf?_enter, byImsi_enter]
    split at entry
    · next same =>
        cases entry
        exact ⟨by rw [if_pos rfl, same], if_pos rfl⟩
    · obtain ⟨held, kept⟩ := entry
      obtain ⟨recorded, known⟩ := coherent.of_teid held
      have different : other ≠ id := by
        rintro rfl
        exact kept ⟨rfl, recorded⟩
      have elsewhere : (node.session other).imsi ≠ (node.session id).imsi :=
        fun same => alone other ⟨same ▸ known, different⟩
      rw [if_neg different, if_neg elsewhere]
      exact ⟨recorded, known⟩

theorem not_shadows (coherent : node.Coherent)
    (entry : node.endpoint.byImsi.get? imsi = some id) : ¬ node.Shadows id := by
  obtain ⟨_, _, teid, recorded, _⟩ := coherent.of_imsi entry
  exact fun shadows => by simp [shadows.1] at recorded

/-! ## Making room -/

section room

variable {old : SessionId} (coherent : node.Coherent) (displaces : node.Displaces id old)

include coherent displaces

theorem imsi_displaced : (node.session old).imsi = (node.session id).imsi :=
  (coherent.of_imsi displaces.entry).2.1

theorem byImsi_retire_of_ne (elsewhere : imsi ≠ (node.session id).imsi) :
    (node.retire old).endpoint.byImsi.get? imsi = node.endpoint.byImsi.get? imsi := by
  apply Option.ext
  intro other
  rw [byImsi_retire, and_iff_left_iff_imp]
  rintro _ ⟨_, same⟩
  exact elsewhere (same.trans (coherent.imsi_displaced displaces))

theorem byTeid_retire_of_ne (foreign : node.endpoint.byTeid.get? teid ≠ some (.session old)) :
    (node.retire old).endpoint.byTeid.get? teid = node.endpoint.byTeid.get? teid := by
  -- the session that is retired is indexed, so it takes no entry of another one along
  obtain ⟨_, _, own, recorded, _⟩ := coherent.of_imsi displaces.entry
  rw [retire_eq]
  apply Option.ext
  intro holder
  refine held_unindex.trans (and_iff_left_iff_imp.mpr ?_)
  rintro entry other rfl
  simp only [Spares, recorded]
  rintro ⟨_, rfl⟩
  exact foreign entry

theorem alone_retire (other : SessionId) : ¬ (node.retire old).Displaces id other := by
  rintro ⟨entry, _⟩
  rw [imsi_retire] at entry
  obtain ⟨entry, kept⟩ := byImsi_retire.mp entry
  have same : other = old := Option.some.inj (entry.symm.trans displaces.entry)
  exact kept ⟨same, (coherent.imsi_displaced displaces).symm⟩

theorem isUsable_retire (usable : node.isUsable teid id = true) :
    (node.retire old).isUsable teid id = true := by
  rw [isUsable_iff] at usable ⊢
  rw [coherent.byTeid_retire_of_ne displaces]
  · exact usable
  · intro held
    rcases usable with reserved | own
    · simp [reserved] at held
    · simp [own, displaces.different.symm] at held

end room

theorem index (coherent : node.Coherent) {replace : Bool} {result : Bool × Node η}
    (indexed : node.index teid id replace = .ok result) : result.2.Coherent := by
  obtain ⟨active, _, usable, outcome⟩ := index_eq_ok.mp indexed
  split at outcome
  · next free =>
      rw [outcome]
      exact coherent.enter active usable (alone_iff.mp free)
  · next old taken =>
      have displaces : node.Displaces id old := displaces_iff.mp taken
      cases replace with
      | false => rw [outcome]; exact coherent
      | true =>
          rw [outcome]
          apply (coherent.retire (coherent.not_shadows displaces.entry)).enter
          · rw [displaces.session_kept]
            exact active
          · exact coherent.isUsable_retire displaces usable
          · exact coherent.alone_retire displaces

theorem register (coherent : node.Coherent) (registered : node.register teid id = .ok after) :
    after.Coherent := by
  obtain ⟨_, indexed⟩ := map_snd_eq_ok.mp registered
  exact coherent.index indexed

/-! ## Identifiers that no session has -/

theorem of_teids (coherent : node.Coherent) {byTeid : Table UInt32 Holder}
    (same : ∀ teid id, byTeid.get? teid = some (.session id) ↔
      node.endpoint.byTeid.get? teid = some (.session id)) :
    ({ node with endpoint.byTeid := byTeid } : Node η).Coherent :=
  coherent.of_unchanged rfl same fun _ _ _ => ⟨rfl, rfl, rfl⟩

theorem mint (coherent : node.Coherent) (draw : Nat → UInt32) : (node.mint draw).2.Coherent := by
  rcases mint_cases draw node with same | ⟨teid, minted⟩
  · rw [same]
    exact coherent
  · rw [minted]
    exact coherent.of_teids fun _ _ => get?_reserve

theorem release (coherent : node.Coherent) (teid : UInt32) : (node.release teid).2.Coherent :=
  coherent.of_teids fun _ _ => get?_release

theorem unregister (coherent : node.Coherent) (alone : ¬ node.Shadows id) (teid : UInt32) :
    (node.unregister teid id).Coherent := by
  have absent := coherent.absent_unindex id
  apply ((coherent.unindex alone).of_teids fun _ _ => get?_reserve).updateSession_absent
  constructor
  · exact absent.imsi
  · exact fun key entry => absent.teid key (get?_reserve.mp entry)

/-! ## New sessions -/

theorem addSession (coherent : node.Coherent) (unused : node.Absent node.sessions.next)
    (session : Session) : (node.addSession session).2.Coherent := by
  refine coherent.of_unchanged rfl (fun _ _ => Iff.rfl) ?_
  intro imsi other entry
  have different : other ≠ node.sessions.next := fun same => unused.imsi imsi (same ▸ entry)
  unfold teidOf?
  rw [session_addSession, if_neg different]
  exact ⟨rfl, rfl, rfl⟩

/-! ## The operation that tears the indices apart -/

theorem shadowed (coherent : node.Coherent) (shadows : node.Shadows id) :
    ∃ other, other ≠ id ∧ node.endpoint.byImsi.get? (node.session id).imsi = some other ∧
      ∀ teid, (node.unindex id).endpoint.byTeid.get? teid ≠ some (.session other) := by
  obtain ⟨unrecorded, indexed⟩ := shadows
  obtain ⟨other, entry⟩ := Option.ne_none_iff_exists'.mp indexed
  obtain ⟨_, known, teid, recorded, _⟩ := coherent.of_imsi entry
  refine ⟨other, ?_, entry, ?_⟩
  · rintro rfl
    simp [unrecorded] at recorded
  · intro key held
    have spared := (byTeid_unindex.mp held).2
    simp only [Spares, unrecorded] at spared
    exact spared known

theorem not_retire (coherent : node.Coherent) (shadows : node.Shadows id) :
    ¬ (node.retire id).Coherent := by
  intro kept
  obtain ⟨other, different, entry, lost⟩ := coherent.shadowed shadows
  obtain ⟨_, _, teid, _, held⟩ :=
    kept.of_imsi (byImsi_retire.mpr ⟨entry, fun same => different same.1⟩)
  exact lost teid (byTeid_unindex.mpr (byTeid_retire.mp held))

theorem not_unregister (coherent : node.Coherent) (shadows : node.Shadows id) (teid : UInt32) :
    ¬ (node.unregister teid id).Coherent := by
  intro kept
  obtain ⟨other, different, entry, lost⟩ := coherent.shadowed shadows
  have entry : (node.unregister teid id).endpoint.byImsi.get? (node.session id).imsi = some other :=
    byImsi_unindex.mpr ⟨entry, fun same => different same.1⟩
  obtain ⟨_, _, number, _, held⟩ := kept.of_imsi entry
  exact lost number (get?_reserve.mp held)

end Coherent

end Node

end TunnelControl
