import TunnelControl.Endpoint.Creation
import TunnelControl.Proofs.Result

namespace TunnelControl.Node

variable {η : Type} {node after : Node η} {id other : SessionId} {teid : UInt32} {imsi : String}

structure Absent (node : Node η) (id : SessionId) : Prop where
  imsi : ∀ key, node.endpoint.byImsi.get? key ≠ some id
  teid : ∀ key, node.endpoint.byTeid.get? key ≠ some (.session id)

/-! ## Reserved identifiers -/

theorem get?_reserve {byTeid : Table UInt32 Holder} {key : UInt32} :
    (byTeid.insertNew teid .reserved).get? key = some (.session id) ↔
      byTeid.get? key = some (.session id) := by
  rw [Table.get?_insertNew]
  split
  · next same =>
      rw [same]
      cases byTeid.get? teid <;> simp
  · rfl

theorem get?_release {byTeid : Table UInt32 Holder} {key : UInt32} :
    (byTeid.eraseEntry teid .reserved).get? key = some (.session id) ↔
      byTeid.get? key = some (.session id) := by
  rw [Table.get?_eraseEntry]
  split
  · next erased => simp [erased.1, erased.2]
  · rfl

/-! ## Sessions -/

@[simp] theorem session_updateSession (change : Session → Session) :
    (node.updateSession id change).session other =
      if other = id then change (node.session id) else node.session other :=
  Sessions.get_modify id other change node.sessions

theorem session_enter : (node.enter teid id).session other =
    if other = id then (node.session id).addTeid node.endpoint.interface teid
    else node.session other :=
  Sessions.get_modify id other _ node.sessions

@[simp] theorem removed_enter :
    ((node.enter teid id).session other).removed = (node.session other).removed := by
  rw [session_enter]
  split
  · next same => rw [same]; rfl
  · rfl

@[simp] theorem imsi_enter :
    ((node.enter teid id).session other).imsi = (node.session other).imsi := by
  rw [session_enter]
  split
  · next same => rw [same]; rfl
  · rfl

theorem teidOf?_enter :
    (node.enter teid id).teidOf? other = if other = id then some teid else node.teidOf? other := by
  change ((node.enter teid id).session other).teid? node.endpoint.interface = _
  rw [session_enter]
  split
  · simp [Session.teid?, Session.addTeid]
  · rfl

/-! ## Leaving the indices -/

theorem byImsi_unindex : (node.unindex id).endpoint.byImsi.get? imsi = some other ↔
    node.endpoint.byImsi.get? imsi = some other ∧
      ¬ (other = id ∧ imsi = (node.session id).imsi) := by
  change (node.endpoint.byImsi.eraseEntry _ id).get? imsi = _ ↔ _
  rw [Table.get?_eraseEntry]
  split
  · next erased =>
      obtain ⟨rfl, held⟩ := erased
      simp only [held, Option.some.injEq]
      grind
  · next kept => grind

def Spares (node : Node η) (id : SessionId) (teid : UInt32) (other : SessionId) : Prop :=
  match node.teidOf? id with
  | some own => ¬ (own = teid ∧ other = id)
  | none => (node.session other).imsi ≠ (node.session id).imsi

theorem held_unindex {holder : Holder} :
    (node.unindex id).endpoint.byTeid.get? teid = some holder ↔
      node.endpoint.byTeid.get? teid = some holder ∧
        ∀ other, holder = .session other → node.Spares id teid other := by
  unfold unindex Spares
  cases node.teidOf? id with
  | some own =>
      simp only [Table.get?_eraseEntry]
      grind
  | none =>
      simp only [Table.get?_filter]
      cases node.endpoint.byTeid.get? teid with
      | none => simp
      | some held => cases held <;> grind [Option.filter]

theorem byTeid_unindex : (node.unindex id).endpoint.byTeid.get? teid = some (.session other) ↔
    node.endpoint.byTeid.get? teid = some (.session other) ∧ node.Spares id teid other := by
  rw [held_unindex]
  simp

theorem reserved_unindex : (node.unindex id).endpoint.byTeid.get? teid = some .reserved ↔
    node.endpoint.byTeid.get? teid = some .reserved := by
  rw [held_unindex]
  simp

/-! ## Retiring -/

theorem imsi_updateSession_retire :
    ((node.updateSession id Session.retire).session other).imsi = (node.session other).imsi := by
  rw [session_updateSession]
  split
  · next same => rw [same]; rfl
  · rfl

theorem teidOf?_updateSession_retire :
    (node.updateSession id Session.retire).teidOf? other = node.teidOf? other := by
  change ((node.updateSession id Session.retire).session other).teid? _ = _
  rw [session_updateSession]
  split
  · next same => rw [same]; rfl
  · rfl

theorem retire_eq (node : Node η) (id : SessionId) :
    node.retire id = (node.unindex id).updateSession id Session.retire := by
  unfold retire
  rw [unindex]
  simp only [imsi_updateSession_retire, teidOf?_updateSession_retire]
  rfl

@[simp] theorem session_retire : (node.retire id).session other =
    if other = id then (node.session id).retire else node.session other := by
  rw [retire_eq, session_updateSession]
  rfl

@[simp] theorem imsi_retire :
    ((node.retire id).session other).imsi = (node.session other).imsi :=
  imsi_updateSession_retire

theorem byImsi_retire : (node.retire id).endpoint.byImsi.get? imsi = some other ↔
    node.endpoint.byImsi.get? imsi = some other ∧
      ¬ (other = id ∧ imsi = (node.session id).imsi) := by
  rw [retire_eq]
  exact byImsi_unindex

theorem byTeid_retire : (node.retire id).endpoint.byTeid.get? teid = some (.session other) ↔
    node.endpoint.byTeid.get? teid = some (.session other) ∧ node.Spares id teid other := by
  rw [retire_eq]
  exact byTeid_unindex

/-! ## Entering the indices -/

theorem byImsi_enter : (node.enter teid id).endpoint.byImsi.get? imsi =
    if imsi = (node.session id).imsi then some id else node.endpoint.byImsi.get? imsi :=
  Table.get?_insert _ _ _ _

theorem byTeid_enter {key : UInt32} {holder : Holder} :
    (node.enter teid id).endpoint.byTeid.get? key = some holder ↔
      if key = teid then holder = .session id
      else node.endpoint.byTeid.get? key = some holder ∧
        ¬ (holder = .session id ∧ node.teidOf? id = some key) := by
  unfold enter
  simp only [Table.get?_insert]
  split
  · grind
  · cases node.teidOf? id with
    | none => simp
    | some old =>
        simp only
        split
        · grind
        · simp only [Table.get?_eraseEntry]
          grind

theorem index_eq_ok {replace : Bool} {result : Bool × Node η} :
    node.index teid id replace = .ok result ↔
      (node.session id).removed = false ∧ (node.session id).imsi ≠ "" ∧
        node.isUsable teid id = true ∧
        match (node.endpoint.byImsi.get? (node.session id).imsi).filter (· ≠ id) with
        | none => result = (true, node.enter teid id)
        | some old =>
            result =
              if replace then (true, (node.retire old).enter teid id) else (false, node) := by
  unfold index
  by_cases removed : (node.session id).removed = true
  · simp [removed, bind, Except.bind]
  by_cases known : (node.session id).imsi = ""
  · simp [removed, known, bind, Except.bind]
  by_cases usable : node.isUsable teid id = true
  · simp only [removed, known, usable, bind, Except.bind, pure, Except.pure]
    cases (node.endpoint.byImsi.get? (node.session id).imsi).filter (· ≠ id) with
    | none => simp [known, @eq_comm _ result]
    | some old => cases replace <;> simp [known, @eq_comm _ result]
  · simp [removed, known, usable, bind, Except.bind]

theorem isUsable_iff : node.isUsable teid id = true ↔
    node.endpoint.byTeid.get? teid = some .reserved ∨
      node.endpoint.byTeid.get? teid = some (.session id) := by
  unfold isUsable
  cases node.endpoint.byTeid.get? teid with
  | none => simp
  | some holder => cases holder <;> simp

/-! ## Sessions that stay out of the indices -/

theorem Absent.unindex (absent : node.Absent other) (id : SessionId) :
    (node.unindex id).Absent other := by
  constructor
  · exact fun imsi entry => absent.imsi imsi (byImsi_unindex.mp entry).1
  · exact fun teid entry => absent.teid teid (byTeid_unindex.mp entry).1

theorem Absent.retire (absent : node.Absent other) (id : SessionId) :
    (node.retire id).Absent other := by
  rw [retire_eq]
  exact ⟨(absent.unindex id).imsi, (absent.unindex id).teid⟩

theorem Absent.unregister (absent : node.Absent other) (teid : UInt32) (id : SessionId) :
    (node.unregister teid id).Absent other := by
  constructor
  · exact (absent.unindex id).imsi
  · exact fun key entry => (absent.unindex id).teid key (get?_reserve.mp entry)

theorem Absent.enter (absent : node.Absent other) (teid : UInt32) (different : other ≠ id) :
    (node.enter teid id).Absent other := by
  constructor
  · intro imsi entry
    rw [byImsi_enter] at entry
    split at entry
    · exact different (Option.some.inj entry).symm
    · exact absent.imsi imsi entry
  · intro key entry
    have entry := byTeid_enter.mp entry
    split at entry
    · cases entry
      exact different rfl
    · exact absent.teid key entry.1

theorem Absent.index {replace indexed : Bool} (absent : node.Absent other)
    (done : node.index teid id replace = .ok (indexed, after)) (different : other ≠ id) :
    after.Absent other := by
  obtain ⟨-, -, -, way⟩ := index_eq_ok.mp done
  split at way
  · cases way
    exact absent.enter teid different
  · next old _ =>
      split at way
      · cases way
        exact (absent.retire old).enter teid different
      · cases way
        exact absent

/-! ## New sessions and identifiers -/

theorem session_addSession (session : Session) : (node.addSession session).2.session other =
    if other = node.sessions.next then session else node.session other :=
  Sessions.get_add session node.sessions other

theorem usable_of_firstUsable {usable : UInt32 → Bool} {attempts : Nat} {draw : Nat → UInt32}
    (found : firstUsable usable attempts draw = some teid) : usable teid = true := by
  induction attempts generalizing draw with
  | zero => cases found
  | succ attempts ih =>
      unfold firstUsable at found
      split at found
      · next fits =>
          cases found
          exact fits
      · exact ih found

theorem mint_cases (draw : Nat → UInt32) (node : Node η) :
    (node.mint draw).2 = node ∨ ∃ teid, (node.mint draw).2 =
      { node with endpoint.byTeid := node.endpoint.byTeid.insertNew teid .reserved } := by
  unfold mint
  simp only
  split
  · exact .inl rfl
  · next teid found =>
      have usable := usable_of_firstUsable found
      simp only [Bool.and_eq_true, Bool.not_eq_true'] at usable
      exact .inr ⟨teid, by simp [Table.insertNew, usable.2]⟩

/-! ## Preparing a creation -/

theorem describe_eq_ok {peer : SocketAddress} {request : Body} {result : SessionId × Node η}
    (described : node.describe peer request = .ok result) :
    ∃ session, result = node.addSession session := by
  obtain ⟨session, _, same⟩ := Except.bind_ok_eq_ok.mp described
  exact ⟨session, same⟩

theorem prepare_eq_ok {peer : SocketAddress} {request : Body} {creation : Creation}
    (prepared : node.prepare peer request = .ok (creation, after)) :
    ∃ session, creation.session = node.sessions.next ∧
      ((creation.indexed = false ∧ creation.teid = none ∧ after = (node.addSession session).2) ∨
        ∃ teid, creation.teid = some teid ∧
          (node.addSession session).2.index teid creation.session false =
            .ok (creation.indexed, after)) := by
  obtain ⟨result, described, done⟩ := Except.bind_eq_ok.mp prepared
  obtain ⟨session, rfl⟩ := describe_eq_ok described
  refine ⟨session, ?_⟩
  simp only at done
  split at done
  · next unclaimed =>
      cases done
      exact ⟨rfl, .inl ⟨rfl, unclaimed, rfl⟩⟩
  · next teid reserved =>
      obtain ⟨_, indexed, same⟩ := Except.bind_ok_eq_ok.mp done
      cases same
      exact ⟨rfl, .inr ⟨teid, reserved, indexed⟩⟩

theorem reserved_of_prepare {peer : SocketAddress} {request : Body} {creation : Creation}
    (prepared : node.prepare peer request = .ok (creation, after))
    (own : creation.teid = some teid) : node.endpoint.byTeid.get? teid = some .reserved := by
  obtain ⟨result, described, done⟩ := Except.bind_eq_ok.mp prepared
  obtain ⟨session, rfl⟩ := describe_eq_ok described
  have found : creation.teid = Option.filter (node.addSession session).2.isReserved
      ((node.addSession session).2.teidOf? (node.addSession session).1) := by
    simp only at done
    split at done
    · cases done
      rfl
    · obtain ⟨_, _, same⟩ := Except.bind_ok_eq_ok.mp done
      cases same
      rfl
  rw [own] at found
  have reserved := (Option.filter_eq_some_iff.mp found.symm).2
  exact of_decide_eq_true reserved

theorem prepare_cases {peer : SocketAddress} {request : Body} {creation : Creation}
    (prepared : node.prepare peer request = .ok (creation, after)) :
    ∃ session, creation.session = node.sessions.next ∧
      ((creation.indexed = false ∧ after = (node.addSession session).2) ∨
        ∃ teid, creation.teid = some teid ∧ creation.indexed = true ∧
          after = (node.addSession session).2.enter teid creation.session) := by
  obtain ⟨session, own, ⟨unindexed, -, added⟩ | ⟨teid, known, done⟩⟩ := prepare_eq_ok prepared
  · exact ⟨session, own, .inl ⟨unindexed, added⟩⟩
  · refine ⟨session, own, ?_⟩
    obtain ⟨-, -, -, way⟩ := index_eq_ok.mp done
    split at way
    · obtain ⟨indexed, entered⟩ := Prod.ext_iff.mp way
      exact .inr ⟨teid, known, indexed, entered⟩
    · obtain ⟨unindexed, added⟩ := Prod.ext_iff.mp way
      exact .inl ⟨unindexed, added⟩

end TunnelControl.Node
