import TunnelControl.Proofs.Endpoint.Move

/-!
A tunnel endpoint identifier is free, reserved, or in use for a session. What operations do to that
is the same whichever of them it is: `Passes` lists the ways, and giving up a reserved identifier
comes on top.
-/

namespace TunnelControl

inductive Loses : Option Holder → Option Holder → Prop where
  | keep (entry : Option Holder) : Loses entry entry
  | drop (id : SessionId) : Loses (some (.session id)) none

/-- Whether an entry may become another one without its identifier being given up. -/
inductive Passes : Option Holder → Option Holder → Prop where
  | lose {before after : Option Holder} (loses : Loses before after) : Passes before after
  | reserve : Passes none (some .reserved)
  | index (id : SessionId) : Passes (some .reserved) (some (.session id))
  | undo (id : SessionId) : Passes (some (.session id)) (some .reserved)

variable {before after : Option Holder} {id : SessionId}

namespace Loses

theorem of_held (held : ∀ holder, after = some holder → before = some holder)
    (reserved : before = some .reserved → after = some .reserved) : Loses before after := by
  cases after with
  | some holder =>
      rw [held holder rfl]
      exact .keep _
  | none =>
      cases before with
      | none => exact .keep none
      | some holder =>
          cases holder with
          | session id => exact .drop id
          | reserved => cases reserved rfl

theorem trans {last : Option Holder} (left : Loses before after) (right : Loses after last) :
    Loses before last := by
  cases left with
  | keep => exact right
  | drop id =>
      cases right with
      | keep => exact .drop id

theorem eq_session (loses : Loses before (some (.session id))) : before = some (.session id) := by
  cases loses
  rfl

theorem eq_reserved (loses : Loses (some .reserved) after) : after = some .reserved := by
  cases loses
  rfl

end Loses

namespace Passes

theorem refl (entry : Option Holder) : Passes entry entry := .lose (.keep entry)

theorem of_restored (loses : Loses before after) :
    Passes before (some (after.getD .reserved)) := by
  cases loses with
  | drop id => exact .undo id
  | keep =>
      cases before with
      | none => exact .reserve
      | some holder => exact .refl _

theorem of_reserved (passes : Passes (some .reserved) after) :
    after = some .reserved ∨ ∃ id, after = some (.session id) := by
  cases passes with
  | lose loses => exact .inl loses.eq_reserved
  | index id => exact .inr ⟨id, rfl⟩

theorem of_session (passes : Passes (some (.session id)) after) :
    after = some (.session id) ∨ after = none ∨ after = some .reserved := by
  cases passes with
  | lose loses =>
      cases loses with
      | keep => exact .inl rfl
      | drop => exact .inr (.inl rfl)
  | undo => exact .inr (.inr rfl)

end Passes

namespace Node

variable {η : Type} {node after : Node η} {id : SessionId} {teid key : UInt32}

def holder? (node : Node η) (teid : UInt32) : Option Holder := node.endpoint.byTeid.get? teid

theorem SameIndices.holder? (same : node.SameIndices after) (teid : UInt32) :
    after.holder? teid = node.holder? teid := by
  unfold Node.holder?
  rw [same.byTeid]

/-! ## Identifiers of sessions -/

theorem loses_unindex (node : Node η) (id : SessionId) (key : UInt32) :
    Loses (node.holder? key) ((node.unindex id).holder? key) :=
  .of_held (fun _ entry => (held_unindex.mp entry).1) fun entry => reserved_unindex.mpr entry

theorem loses_retire (node : Node η) (id : SessionId) (key : UInt32) :
    Loses (node.holder? key) ((node.retire id).holder? key) := by
  rw [retire_eq]
  exact loses_unindex node id key

theorem holder?_enter : (node.enter teid id).holder? teid = some (.session id) := by
  apply byTeid_enter.mpr
  rw [if_pos rfl]

theorem loses_enter (node : Node η) (id : SessionId) (other : key ≠ teid) :
    Loses (node.holder? key) ((node.enter teid id).holder? key) := by
  have entered (holder : Holder) := @byTeid_enter η node id teid key holder
  simp only [if_neg other] at entered
  apply Loses.of_held
  · exact fun holder entry => ((entered holder).mp entry).1
  · exact fun entry => (entered .reserved).mpr ⟨entry, by simp⟩

theorem passes_of_usable (usable : node.isUsable teid id = true) :
    Passes (node.holder? teid) (some (.session id)) := by
  unfold holder?
  rcases isUsable_iff.mp usable with reserved | own
  · rw [reserved]
    exact .index id
  · rw [own]
    exact .refl _

section index

variable {replace indexed : Bool} (done : node.index teid id replace = .ok (indexed, after))

include done

theorem loses_index (other : key ≠ teid) : Loses (node.holder? key) (after.holder? key) := by
  obtain ⟨-, -, -, way⟩ := index_eq_ok.mp done
  split at way
  · cases way
    exact loses_enter node id other
  · next old _ =>
      split at way
      · cases way
        exact (loses_retire node old key).trans (loses_enter (node.retire old) id other)
      · cases way
        exact .keep _

theorem holder?_index :
    after.holder? teid = some (.session id) ∨ after.holder? teid = node.holder? teid := by
  obtain ⟨-, -, -, way⟩ := index_eq_ok.mp done
  split at way
  · cases way
    exact .inl holder?_enter
  · split at way
    · cases way
      exact .inl holder?_enter
    · cases way
      exact .inr rfl

theorem passes_index (key : UInt32) : Passes (node.holder? key) (after.holder? key) := by
  obtain ⟨-, -, usable, -⟩ := index_eq_ok.mp done
  by_cases same : key = teid
  · rw [same]
    rcases holder?_index done with entered | unchanged
    · rw [entered]
      exact passes_of_usable usable
    · rw [unchanged]
      exact .refl _
  · exact .lose (loses_index done same)

end index

theorem passes_register (node : Node η) (teid : UInt32) (id : SessionId) (key : UInt32) :
    Passes (node.holder? key) ((node.orSame (node.register teid id)).holder? key) := by
  let P (after : Node η) := Passes (node.holder? key) (after.holder? key)
  refine orSame_induction (P := P) (.refl _) fun after done => ?_
  obtain ⟨indexed, done⟩ := map_snd_eq_ok.mp done
  exact passes_index done key

theorem holder?_unregister : (node.unregister teid id).holder? key =
    if key = teid then some (((node.unindex id).holder? teid).getD .reserved)
    else (node.unindex id).holder? key :=
  Table.get?_insertNew _ _ _ _

theorem passes_unregister (node : Node η) (teid : UInt32) (id : SessionId) (key : UInt32) :
    Passes (node.holder? key) ((node.unregister teid id).holder? key) := by
  rw [holder?_unregister]
  split
  · next same =>
      rw [same]
      exact .of_restored (loses_unindex node id teid)
  · exact .lose (loses_unindex node id key)

theorem holder?_release {other : UInt32} (different : other ≠ teid) :
    (node.release other).2.holder? teid = node.holder? teid := by
  show (node.endpoint.byTeid.eraseEntry other .reserved).get? teid = _
  rw [Table.get?_eraseEntry, if_neg (fun erased => different erased.1.symm)]
  rfl

/-! ## Creations -/

theorem passes_complete (node : Node η) (creation : Creation) (key : UInt32) :
    Passes (node.holder? key) ((node.orSame (node.complete creation)).holder? key) := by
  unfold complete
  split
  · split
    · exact .refl _
    · exact passes_register node _ _ key
  · exact .refl _

theorem passes_abandon (node : Node η) (creation : Creation) (key : UInt32) :
    Passes (node.holder? key) ((node.abandon creation).holder? key) := by
  unfold abandon
  split
  · split
    · exact passes_unregister node _ _ key
    · exact .refl _
  · exact .refl _

theorem passes_prepare {peer : SocketAddress} {request : Body} {creation : Creation}
    (prepared : node.prepare peer request = .ok (creation, after)) (key : UInt32) :
    Passes (node.holder? key) (after.holder? key) := by
  obtain ⟨session, -, ⟨-, -, rfl⟩ | ⟨teid, -, done⟩⟩ := prepare_eq_ok prepared
  · exact .refl _
  · exact passes_index done key

theorem passes_reserved_of_loses {entry : Option Holder}
    (loses : Loses (some (.session id)) entry) :
    Passes (some .reserved) (some (entry.getD .reserved)) := by
  -- the session of a creation may lose the identifier again that it has just got
  cases loses with
  | keep => exact .index id
  | drop => exact .refl _

theorem passes_prepare_abandon {peer : SocketAddress} {request : Body} {creation : Creation}
    {sent : Node η} (prepared : node.prepare peer request = .ok (creation, after))
    (same : after.SameIndices sent) (key : UInt32) :
    Passes (node.holder? key) ((sent.abandon creation).holder? key) := by
  have reserved teid := @reserved_of_prepare η node after teid peer request creation prepared
  obtain ⟨session, -, ⟨-, rfl⟩ | ⟨teid, own, indexed, rfl⟩⟩ := prepare_cases prepared
  · have passes := passes_abandon sent creation key
    rw [same.holder?] at passes
    exact passes
  · have undone : sent.abandon creation = sent.unregister teid creation.session := by
      simp [abandon, own, indexed]
    have loses := loses_unindex sent creation.session key
    rw [same.holder?] at loses
    rw [undone, holder?_unregister]
    split
    · next key_eq =>
        rw [key_eq, holder?_enter] at loses
        unfold holder?
        rw [key_eq, reserved teid own]
        exact passes_reserved_of_loses loses
    · next other =>
        have entered := loses_enter (node.addSession session).2 creation.session other
        exact .lose (entered.trans loses)

theorem passes_prepare_complete {peer : SocketAddress} {request : Body} {creation : Creation}
    {sent : Node η} (prepared : node.prepare peer request = .ok (creation, after))
    (same : after.SameIndices sent) (key : UInt32) :
    Passes (node.holder? key) ((sent.orSame (sent.complete creation)).holder? key) := by
  obtain ⟨session, -, ⟨-, rfl⟩ | ⟨teid, own, indexed, -⟩⟩ := prepare_cases prepared
  · have passes := passes_complete sent creation key
    rw [same.holder?] at passes
    exact passes
  · have done : sent.complete creation = .ok sent := by simp [complete, own, indexed]
    rw [done]
    show Passes _ (sent.holder? key)
    rw [same.holder?]
    exact passes_prepare prepared key

end Node

namespace Operation

open Node

variable {η : Type} {network : Network} {node start : Node η} {operation : Operation}
  {operations : List Operation} {teid : UInt32}

theorem passes_create (network : Network) (node : Node η) (peer : SocketAddress)
    (elements : List Element) (teid : UInt32) :
    Passes (node.holder? teid) (((create peer elements).after network node).holder? teid) := by
  rw [after_create]
  cases begun : node.prepare peer (request elements).body with
  | error error => exact .refl _
  | ok result =>
      obtain ⟨creation, prepared⟩ := result
      have same := Action.sameIndices_send network peer (request elements) prepared
      simp only
      split
      · next sequence sent outcome =>
          rw [outcome] at same
          exact passes_prepare_complete begun same teid
      · next error sent outcome =>
          rw [outcome] at same
          exact passes_prepare_abandon begun same teid

theorem passes_mint (node : Node η) (draw : Nat → UInt32) (teid : UInt32) :
    Passes (node.holder? teid) ((node.mint draw).2.holder? teid) := by
  rcases mint_cases draw node with same | ⟨minted, reserved⟩
  · rw [same]
    exact .refl _
  · rw [reserved]
    unfold holder?
    rw [Table.get?_insertNew]
    split
    · next same =>
        rw [same]
        exact .of_restored (.keep _)
    · exact .refl _

theorem passes_after (network : Network) (node : Node η) (kept : operation ≠ .release teid) :
    Passes (node.holder? teid) ((operation.after network node).holder? teid) := by
  cases operation with
  | openSession peer subscriber => exact .refl _
  | describe peer request =>
      let P (after : Node η) := Passes (node.holder? teid) (after.holder? teid)
      refine orSame_induction (P := P) (.refl _) fun after described => ?_
      obtain ⟨id, described⟩ := map_snd_eq_ok.mp described
      obtain ⟨session, added⟩ := describe_eq_ok described
      cases added
      exact .refl _
  | mint draw => exact passes_mint node draw teid
  | release other =>
      have different : other ≠ teid := fun same => kept (congrArg release same)
      show Passes _ ((node.release other).2.holder? teid)
      rw [holder?_release different]
      exact .refl _
  | register other id => exact passes_register node other id teid
  | remove id =>
      simp only [after, Node.remove]
      split
      · exact .refl _
      · exact .lose (loses_retire node id teid)
  | create peer elements => exact passes_create network node peer elements teid
  | prepare peer request =>
      let P (after : Node η) := Passes (node.holder? teid) (after.holder? teid)
      refine orSame_induction (P := P) (.refl _) fun after prepared => ?_
      obtain ⟨creation, prepared⟩ := map_snd_eq_ok.mp prepared
      exact passes_prepare prepared teid
  | complete creation => exact passes_complete node creation teid
  | abandon creation => exact passes_abandon node creation teid
  | adjust id adjustment => exact .refl _

theorem leaves_reserved (network : Network) (operation : Operation)
    (reserved : node.holder? teid = some .reserved)
    (leaves : (operation.after network node).holder? teid ≠ some .reserved) :
    (operation = .release teid ∧ (node.release teid).1 = true) ∨
      ∃ id, (operation.after network node).holder? teid = some (.session id) := by
  by_cases kept : operation = .release teid
  · exact .inl ⟨kept, decide_eq_true reserved⟩
  · have passes := passes_after network node kept
    rw [reserved] at passes
    rcases passes.of_reserved with same | indexed
    · exact absurd same leaves
    · exact .inr indexed

theorem leaves_session {id : SessionId} (network : Network) (operation : Operation)
    (held : node.holder? teid = some (.session id))
    (leaves : (operation.after network node).holder? teid ≠ some (.session id)) :
    (operation.after network node).holder? teid = none ∨
      (operation.after network node).holder? teid = some .reserved := by
  by_cases kept : operation = .release teid
  · -- only a reserved identifier is given up
    have same : ((node.release teid).2.holder? teid) = some (.session id) := get?_release.mpr held
    rw [kept] at leaves
    exact absurd same leaves
  · have passes := passes_after network node kept
    rw [held] at passes
    exact passes.of_session.resolve_left leaves

theorem becomes_free (network : Network) (operation : Operation) (held : node.holder? teid ≠ none)
    (free : (operation.after network node).holder? teid = none) :
    (operation = .release teid ∧ (node.release teid).1 = true) ∨
      ∃ id, node.holder? teid = some (.session id) := by
  by_cases reserved : node.holder? teid = some .reserved
  · have leaves : (operation.after network node).holder? teid ≠ some .reserved := by
      rw [free]
      exact (Option.some_ne_none _).symm
    rcases leaves_reserved network operation reserved leaves with released | ⟨id, indexed⟩
    · exact .inl released
    · rw [free] at indexed
      cases indexed
  · cases entry : node.holder? teid with
    | none => exact absurd entry held
    | some holder =>
        cases holder with
        | reserved => exact absurd entry reserved
        | session id => exact .inr ⟨id, rfl⟩

/-! ## Runs -/

theorem exists_last {P : Node η → Prop} (network : Network) (start : Node η) (first : P start)
    (last : ¬ P (run network operations start)) :
    ∃ earlier operation later, operations = earlier ++ operation :: later ∧
      P (run network earlier start) ∧
      ¬ P (operation.after network (run network earlier start)) := by
  -- what holds at the start of a run and not at its end ceases at one of its operations
  induction operations generalizing start with
  | nil => exact absurd first last
  | cons operation operations ih =>
      by_cases next : P (operation.after network start)
      · obtain ⟨earlier, ceasing, later, parts, before, after⟩ := ih _ next last
        exact ⟨operation :: earlier, ceasing, later, by rw [parts]; rfl, before, after⟩
      · exact ⟨[], operation, operations, rfl, first, next⟩

theorem exists_free_between {id other : SessionId} (network : Network) (operations : List Operation)
    (start : Node η) (first : start.holder? teid = some (.session id))
    (last : (run network operations start).holder? teid = some (.session other))
    (different : id ≠ other) :
    ∃ earlier, earlier <+: operations ∧ ((run network earlier start).holder? teid = none ∨
      (run network earlier start).holder? teid = some .reserved) := by
  let P (node : Node η) := node.holder? teid = some (.session id)
  have ceased : ¬ P (run network operations start) := by
    intro same
    cases last.symm.trans same
    exact different rfl
  obtain ⟨earlier, operation, later, parts, before, after⟩ :=
    exists_last (P := P) network start first ceased
  refine ⟨earlier ++ [operation], ⟨later, by simp [parts]⟩, ?_⟩
  rw [run_snoc]
  exact leaves_session network operation before after

end Operation

namespace Node

/-! ## Minting -/

variable {η : Type} {node : Node η} {teid : UInt32}

theorem firstUsable_eq_none {usable : UInt32 → Bool} {attempts : Nat} {draw : Nat → UInt32} :
    firstUsable usable attempts draw = none ↔ ∀ i < attempts, usable (draw i) = false := by
  induction attempts generalizing draw with
  | zero => exact ⟨fun _ i few => absurd few (Nat.not_lt_zero i), fun _ => rfl⟩
  | succ attempts ih =>
      unfold firstUsable
      rw [Nat.forall_lt_succ_left]
      split
      · next fits => simp [fits]
      · next unfit => simp [unfit, ih]

theorem not_mintable_iff : (teid ≠ 0 && !node.endpoint.byTeid.contains teid) = false ↔
    teid = 0 ∨ node.holder? teid ≠ none := by
  unfold holder? Table.contains
  by_cases zero : teid = 0 <;> cases node.endpoint.byTeid.get? teid <;> simp [zero]

theorem mint_eq_none {draw : Nat → UInt32} : (node.mint draw).1 = none ↔
    ∀ i < node.endpoint.config.mintAttempts.toNat,
      draw i = 0 ∨ node.holder? (draw i) ≠ none := by
  have fails := @firstUsable_eq_none
    (fun teid => teid ≠ 0 && !node.endpoint.byTeid.contains teid)
    node.endpoint.config.mintAttempts.toNat draw
  simp only [not_mintable_iff] at fails
  rw [← fails]
  unfold mint
  simp only
  split
  · next failed => exact ⟨fun _ => failed, fun _ => rfl⟩
  · next found => rw [found]

theorem mint_failed {draw : Nat → UInt32} (failed : (node.mint draw).1 = none) :
    (node.mint draw).2 = node := by
  unfold mint at *
  simp only at *
  split
  · rfl
  · next found =>
      rw [found] at failed
      cases failed

theorem mint_eq_some {draw : Nat → UInt32} (minted : (node.mint draw).1 = some teid) :
    teid ≠ 0 ∧ node.holder? teid = none ∧ (node.mint draw).2.holder? teid = some .reserved := by
  unfold mint at *
  simp only at *
  split at minted
  · cases minted
  · next found =>
      cases minted
      have mintable := usable_of_firstUsable found
      have fresh : ¬ _ := fun taken => Bool.eq_false_iff.mp (not_mintable_iff.mpr taken) mintable
      obtain ⟨positive, free⟩ := not_or.mp fresh
      refine ⟨positive, Classical.not_not.mp free, ?_⟩
      unfold holder?
      rw [Table.get?_insert, if_pos rfl]

end Node

namespace Operation

open Node

variable {η : Type} {node : Node η} {teid : UInt32}

theorem given_up_between (network : Network) (between : List Operation)
    {first second : Nat → UInt32}
    (minted : (node.mint first).1 = some teid)
    (again : ((run network between (node.mint first).2).mint second).1 = some teid) :
    ∃ earlier operation later, between = earlier ++ operation :: later ∧
      let before := run network earlier (node.mint first).2
      (operation = .release teid ∧ (before.release teid).1 = true) ∨
        ∃ id, before.holder? teid = some (.session id) ∧
          (operation.after network before).holder? teid = none := by
  obtain ⟨-, -, reserved⟩ := mint_eq_some minted
  obtain ⟨-, free, -⟩ := mint_eq_some again
  let P (node : Node η) := node.holder? teid ≠ none
  have start : P (node.mint first).2 := by
    show _ ≠ none
    rw [reserved]
    exact Option.some_ne_none _
  obtain ⟨earlier, operation, later, parts, before, after⟩ :=
    exists_last (P := P) network _ start (fun held => held free)
  refine ⟨earlier, operation, later, parts, ?_⟩
  have freed := Classical.not_not.mp after
  rcases becomes_free network operation before freed with released | ⟨id, held⟩
  · exact .inl released
  · exact .inr ⟨id, held, freed⟩

structure Owned (network : Network) (node : Node η) (teid : UInt32) : Prop where
  minted : ∀ draw, (node.mint draw).1 = some teid →
    teid ≠ 0 ∧ node.holder? teid = none ∧ (node.mint draw).2.holder? teid = some .reserved
  unreserved : ∀ operation : Operation, node.holder? teid = some .reserved →
    (operation.after network node).holder? teid ≠ some .reserved →
      (operation = .release teid ∧ (node.release teid).1 = true) ∨
        ∃ id, (operation.after network node).holder? teid = some (.session id)
  passed : ∀ later id other, node.holder? teid = some (.session id) →
    (run network later node).holder? teid = some (.session other) → id ≠ other →
      ∃ earlier, earlier <+: later ∧ ((run network earlier node).holder? teid = none ∨
        (run network earlier node).holder? teid = some .reserved)
  mintedTwice : ∀ first second between, (node.mint first).1 = some teid →
    ((run network between (node.mint first).2).mint second).1 = some teid →
      ∃ earlier operation later, between = earlier ++ operation :: later ∧
        let before := run network earlier (node.mint first).2
        (operation = .release teid ∧ (before.release teid).1 = true) ∨
          ∃ id, before.holder? teid = some (.session id) ∧
            (operation.after network before).holder? teid = none
  exhausted : ∀ draw, (node.mint draw).1 = none ↔
    ∀ i < node.endpoint.config.mintAttempts.toNat, draw i = 0 ∨ node.holder? (draw i) ≠ none
  unminted : ∀ draw, (node.mint draw).1 = none → (node.mint draw).2 = node

theorem teid_ownership (network : Network) (operations : List Operation) (start : Node η)
    (teid : UInt32) : Owned network (run network operations start) teid where
  minted _ minted := mint_eq_some minted
  unreserved operation reserved leaves := leaves_reserved network operation reserved leaves
  passed later _ _ first last different :=
    exists_free_between network later _ first last different
  mintedTwice _ _ between minted again := given_up_between network between minted again
  exhausted _ := mint_eq_none
  unminted _ failed := mint_failed failed

theorem teid_ownership_minted_twice :
    let node : Node Empty :=
      run .reachable
        [openSession default { imsi := "001010000000001" },
          openSession default { imsi := "001010000000002" }, mint fun _ => 7, register 7 0]
        (.ofConfig {})
    let later : List Operation := [remove 0, mint fun _ => 7, register 7 1]
    node.holder? 7 = some (.session 0) ∧
      (run .reachable later node).holder? 7 = some (.session 1) ∧
      ∃ earlier, earlier <+: later ∧ ((run .reachable earlier node).holder? 7 = none ∨
        (run .reachable earlier node).holder? 7 = some .reserved) := by
  intro node later
  have first : node.holder? 7 = some (.session 0) := by decide
  have last : (run .reachable later node).holder? 7 = some (.session 1) := by decide
  have owned := teid_ownership .reachable
    [openSession default { imsi := "001010000000001" },
      openSession default { imsi := "001010000000002" }, mint fun _ => 7, register 7 0]
    (Node.ofConfig {} : Node Empty) 7
  exact ⟨first, last, owned.passed later 0 1 first last (by decide)⟩

end Operation

end TunnelControl
