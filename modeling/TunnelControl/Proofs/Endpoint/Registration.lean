import TunnelControl.Proofs.Endpoint.Coherence
import TunnelControl.Proofs.Endpoint.Retirement

namespace TunnelControl

namespace Node

variable {η : Type} {node after : Node η} {id old other : SessionId} {teid : UInt32} {error : Error}

inductive Refused (node : Node η) (teid : UInt32) (id : SessionId) : Error → Prop where
  | retired (removed : (node.session id).removed = true) : Refused node teid id .retired
  | noIdentity (active : (node.session id).removed = false)
      (unknown : (node.session id).imsi = "") : Refused node teid id .noIdentity
  | unknownTeid (active : (node.session id).removed = false) (known : (node.session id).imsi ≠ "")
      (unreserved : node.endpoint.byTeid.get? teid ≠ some .reserved)
      (foreign : node.endpoint.byTeid.get? teid ≠ some (.session id)) :
      Refused node teid id (.unknownTeid teid)

structure Registered (node : Node η) (teid : UInt32) (id : SessionId) (after : Node η) :
    Prop where
  coherent : after.Coherent
  foundByTeid : after.findTeid teid (node.session id).peer = .ok id
  foundByImsi : after.findImsi (node.session id).imsi = .ok id
  recorded : after.teidOf? id = some teid
  session : after.session id = (node.session id).addTeid node.endpoint.interface teid
  gone : ∀ old, node.Displaces id old → (after.session old).removed = true ∧ after.Absent old
  retired : ∀ old, node.Displaces id old → after.session old = (node.session old).retire
  moved : ∀ key, key ≠ teid → node.endpoint.byTeid.get? key = some (.session id) →
    after.endpoint.byTeid.get? key = none
  others : ∀ other, other ≠ id → ¬ node.Displaces id other →
    after.session other = node.session other
  byImsi : ∀ imsi, imsi ≠ (node.session id).imsi →
    after.endpoint.byImsi.get? imsi = node.endpoint.byImsi.get? imsi
  byTeid : ∀ key, key ≠ teid → node.endpoint.byTeid.get? key ≠ some (.session id) →
    (∀ old, node.Displaces id old → node.endpoint.byTeid.get? key ≠ some (.session old)) →
    after.endpoint.byTeid.get? key = node.endpoint.byTeid.get? key
  endpoint : after.endpoint =
    { node.endpoint with byTeid := after.endpoint.byTeid, byImsi := after.endpoint.byImsi }
  known : after.sessions.next = node.sessions.next
  traffic : after.traffic = node.traffic

theorem Refused.index_eq (refused : node.Refused teid id error) (replace : Bool) :
    node.index teid id replace = .error error := by
  unfold index
  cases refused with
  | retired removed =>
      simp only [removed, if_true]
      rfl
  | noIdentity active unknown =>
      simp only [active, Bool.false_eq_true, if_false, unknown, if_true]
      rfl
  | unknownTeid active known unreserved foreign =>
      have unusable : node.isUsable teid id = false := by
        rw [Bool.eq_false_iff, ne_eq, isUsable_iff]
        exact fun usable => usable.elim unreserved foreign
      simp only [active, Bool.false_eq_true, if_false, known, unusable, Bool.not_false, if_true]
      rfl

theorem allowed_of_not_refused (allowed : ∀ error, ¬ node.Refused teid id error) :
    (node.session id).removed = false ∧ (node.session id).imsi ≠ "" ∧
      node.isUsable teid id = true := by
  have active : (node.session id).removed = false :=
    Bool.eq_false_iff.mpr fun removed => allowed _ (.retired removed)
  have known : (node.session id).imsi ≠ "" := fun unknown => allowed _ (.noIdentity active unknown)
  refine ⟨active, known, ?_⟩
  rw [isUsable_iff]
  apply Classical.byContradiction
  intro unusable
  rw [not_or] at unusable
  exact allowed _ (.unknownTeid active known unusable.1 unusable.2)

namespace Registered

theorem enter (coherent : node.Coherent) (active : (node.session id).removed = false)
    (usable : node.isUsable teid id = true) (alone : ∀ old, ¬ node.Displaces id old) :
    node.Registered teid id (node.enter teid id) where
  coherent := coherent.enter active usable alone
  foundByTeid := by
    refine findTeid_eq_ok.mpr ⟨byTeid_enter.mpr (by simp), ?_⟩
    rw [session_enter, if_pos rfl]
    rfl
  foundByImsi := by
    rw [findImsi_eq_ok, byImsi_enter, if_pos rfl]
  recorded := by rw [teidOf?_enter, if_pos rfl]
  session := by rw [session_enter, if_pos rfl]
  gone old displaces := absurd displaces (alone old)
  retired old displaces := absurd displaces (alone old)
  moved key elsewhere held := by
    rw [Option.eq_none_iff_forall_ne_some]
    intro holder entry
    rw [byTeid_enter, if_neg elsewhere] at entry
    obtain ⟨entry, other⟩ := entry
    cases held.symm.trans entry
    exact other ⟨rfl, (coherent.of_teid held).1⟩
  others other different _ := by rw [session_enter, if_neg different]
  byImsi imsi elsewhere := by rw [byImsi_enter, if_neg elsewhere]
  byTeid key elsewhere foreign _ := by
    apply Option.ext
    intro holder
    rw [byTeid_enter, if_neg elsewhere, and_iff_left_iff_imp]
    rintro entry ⟨rfl, _⟩
    exact foreign entry
  endpoint := rfl
  known := rfl
  traffic := rfl

theorem byTeid_of_alone (registered : node.Registered teid id after)
    (alone : ∀ other, ¬ node.Displaces id other) {key : UInt32} (elsewhere : key ≠ teid)
    (foreign : node.endpoint.byTeid.get? key ≠ some (.session id)) :
    after.endpoint.byTeid.get? key = node.endpoint.byTeid.get? key :=
  registered.byTeid key elsewhere foreign fun other displaces => absurd displaces (alone other)

theorem keeps_absent (registered : node.Registered teid id after)
    (alone : ∀ other, ¬ node.Displaces id other) (absent : node.Absent old) (different : old ≠ id) :
    after.Absent old := by
  constructor
  · intro imsi entry
    by_cases own : imsi = (node.session id).imsi
    · have found := findImsi_eq_ok.mp registered.foundByImsi
      rw [← own, entry] at found
      exact different (Option.some.inj found)
    · rw [registered.byImsi imsi own] at entry
      exact absent.imsi imsi entry
  · intro key entry
    by_cases own : key = teid
    · have found := (findTeid_eq_ok.mp registered.foundByTeid).1
      rw [← own, entry] at found
      exact different (by simpa using found)
    · -- what the registered session held before is given up, and all else is as it was
      by_cases held : node.endpoint.byTeid.get? key = some (.session id)
      · simp [registered.moved key own held] at entry
      · rw [registered.byTeid_of_alone alone own held] at entry
        exact absent.teid key entry

theorem of_retire (coherent : node.Coherent) (displaces : node.Displaces id old)
    (registered : (node.retire old).Registered teid id after) : node.Registered teid id after := by
  have session_id := displaces.session_kept
  have alone := coherent.alone_retire displaces
  have after_old : after.session old = (node.session old).retire := by
    rw [registered.others old displaces.different (alone old), session_retire, if_pos rfl]
  have absent := coherent.absent_retire old
  have kept {key : UInt32} (held : node.endpoint.byTeid.get? key = some (.session id)) :
      (node.retire old).endpoint.byTeid.get? key = some (.session id) := by
    rw [coherent.byTeid_retire_of_ne displaces, held]
    rw [held]
    simpa using displaces.different.symm
  constructor
  case coherent => exact registered.coherent
  case foundByTeid => exact session_id ▸ registered.foundByTeid
  case foundByImsi => exact session_id ▸ registered.foundByImsi
  case recorded => exact registered.recorded
  case session => exact session_id ▸ registered.session
  case gone =>
    intro other others
    rw [displaces.unique others, after_old]
    exact ⟨rfl, registered.keeps_absent alone absent displaces.different⟩
  case retired =>
    intro other others
    rw [displaces.unique others]
    exact after_old
  case moved => exact fun key elsewhere held => registered.moved key elsewhere (kept held)
  case others =>
    intro other different remains
    have apart : other ≠ old := fun same => remains (same ▸ displaces)
    rw [registered.others other different (alone other), session_retire, if_neg apart]
  case byImsi =>
    intro imsi elsewhere
    rw [registered.byImsi imsi (session_id ▸ elsewhere),
      coherent.byImsi_retire_of_ne displaces elsewhere]
  case byTeid =>
    intro key elsewhere foreign spared
    have same := coherent.byTeid_retire_of_ne displaces (spared old displaces)
    rw [registered.byTeid_of_alone alone elsewhere (same ▸ foreign), same]
  case endpoint => exact registered.endpoint
  case known => exact registered.known
  case traffic => exact registered.traffic

end Registered

theorem exists_registered (coherent : node.Coherent)
    (allowed : ∀ error, ¬ node.Refused teid id error) :
    ∃ after, node.register teid id = .ok after ∧ node.Registered teid id after := by
  obtain ⟨active, known, usable⟩ := allowed_of_not_refused allowed
  cases place : (node.endpoint.byImsi.get? (node.session id).imsi).filter (· ≠ id) with
  | none =>
      have alone : ∀ old, ¬ node.Displaces id old := alone_iff.mp place
      refine ⟨node.enter teid id, map_snd_eq_ok.mpr ⟨true, ?_⟩, .enter coherent active usable alone⟩
      exact index_eq_ok.mpr ⟨active, known, usable, by rw [place]⟩
  | some old =>
      have displaces : node.Displaces id old := displaces_iff.mp place
      refine ⟨(node.retire old).enter teid id, map_snd_eq_ok.mpr ⟨true, ?_⟩,
        .of_retire coherent displaces (.enter ?_ ?_ ?_ ?_)⟩
      · exact index_eq_ok.mpr ⟨active, known, usable, by rw [place]; rfl⟩
      · exact coherent.retire (coherent.not_shadows displaces.entry)
      · rw [displaces.session_kept]
        exact active
      · exact coherent.isUsable_retire displaces usable
      · exact coherent.alone_retire displaces

end Node

namespace Action

open Node

variable {η : Type} {node : Node η}

theorem perform_register (teid : UInt32) (id : SessionId) (node : Node η) :
    perform (register teid id) node =
      match node.register teid id with
      | .ok after => (.ok (), after)
      | .error error => (.error error, node) := by
  unfold register
  rw [perform_attempt]
  cases node.register teid id <;> rfl

/-- A registration at a node with coherent indices fails for one of three reasons and then changes
nothing, or it is done as a whole. -/
theorem register_atomic (coherent : node.Coherent) (teid : UInt32) (id : SessionId) :
    (∀ error, node.Refused teid id error →
      perform (register teid id) node = (.error error, node)) ∧
    ((∀ error, ¬ node.Refused teid id error) →
      ∃ after, perform (register teid id) node = (.ok (), after) ∧
        node.Registered teid id after) := by
  constructor
  · intro error refused
    have failed : node.register teid id = .error error :=
      congrArg (Except.map Prod.snd) (refused.index_eq true)
    rw [perform_register, failed]
  · intro allowed
    obtain ⟨after, registered, done⟩ := exists_registered coherent allowed
    exact ⟨after, by rw [perform_register, registered], done⟩

theorem register_atomic_replacing :
    let node : Node Empty :=
      Operation.run .reachable
        [.openSession default { imsi := "001010000000001" }, .mint fun _ => 7, .register 7 0,
          .openSession default { imsi := "001010000000002" }, .mint fun _ => 8, .register 8 1,
          .openSession default { imsi := "001010000000001" }, .adjust 2 (.teid 0 8),
          .mint fun _ => 9]
        (.ofConfig {})
    node.Coherent ∧ perform (register 7 2) node = (.error (.unknownTeid 7), node) ∧
      ∃ after, perform (register 9 2) node = (.ok (), after) ∧ node.Registered 9 2 after := by
  intro node
  have imsis : node.endpoint.byImsi.entries = [("001010000000001", 0), ("001010000000002", 1)] := by
    decide
  have teids :
      node.endpoint.byTeid.entries = [(7, .session 0), (8, .session 1), (9, .reserved)] := by
    decide
  have active : (node.session 2).removed = false := by decide
  have known : (node.session 2).imsi ≠ "" := by decide
  have coherent : node.Coherent := by
    constructor
    · intro imsi id entry
      have member := Table.get?_eq_some.mp entry
      simp only [imsis, List.mem_cons, List.not_mem_nil, or_false, Prod.mk.injEq] at member
      rcases member with ⟨rfl, rfl⟩ | ⟨rfl, rfl⟩
      · exact ⟨by decide, by decide, 7, by decide, by decide⟩
      · exact ⟨by decide, by decide, 8, by decide, by decide⟩
    · intro teid id entry
      have member := Table.get?_eq_some.mp entry
      simp only [teids, List.mem_cons, List.not_mem_nil, or_false, Prod.mk.injEq,
        Holder.session.injEq, reduceCtorEq, and_false] at member
      rcases member with ⟨rfl, rfl⟩ | ⟨rfl, rfl⟩ <;> exact ⟨by decide, by decide⟩
  refine ⟨coherent, ?_, ?_⟩
  · exact (register_atomic coherent 7 2).1 _ (.unknownTeid active known (by decide) (by decide))
  · apply (register_atomic coherent 9 2).2
    intro error refused
    cases refused with
    | retired removed => exact Bool.false_ne_true (active.symm.trans removed)
    | noIdentity _ unknown => exact known unknown
    | unknownTeid _ _ unreserved _ => exact unreserved (by decide)

end Action

end TunnelControl
