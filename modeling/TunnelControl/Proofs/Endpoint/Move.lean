import Mathlib.Data.List.Induction
import Mathlib.Logic.Relation
import TunnelControl.Proofs.Endpoint.Operation

namespace TunnelControl

namespace Node

variable {η : Type} {allowed : (Session → Session) → Prop} {node after : Node η} {id : SessionId}
  {teid : UInt32}

inductive Move (allowed : (Session → Session) → Prop) : Node η → Node η → Prop where
  | same {node after : Node η} (same : node.SameIndices after) : Move allowed node after
  | addSession (session : Session) (node : Node η) : Move allowed node (node.addSession session).2
  | reserve (teid : UInt32) (node : Node η) :
      Move allowed node
        { node with endpoint.byTeid := node.endpoint.byTeid.insertNew teid .reserved }
  | release (teid : UInt32) (node : Node η) : Move allowed node (node.release teid).2
  | unindex (id : SessionId) (node : Node η) : Move allowed node (node.unindex id)
  | change (id : SessionId) {change : Session → Session} (node : Node η)
      (fits : allowed change) : Move allowed node (node.updateSession id change)
  | enter (teid : UInt32) {node : Node η} {id : SessionId}
      (active : (node.session id).removed = false) (known : (node.session id).imsi ≠ "") :
      Move allowed node (node.enter teid id)

abbrev Moves (allowed : (Session → Session) → Prop) : Node η → Node η → Prop :=
  Relation.ReflTransGen (Move allowed)

structure AllowsOwn (allowed : (Session → Session) → Prop) : Prop where
  retire : allowed Session.retire
  eraseTeid : ∀ interface, allowed (·.eraseTeid interface)

theorem Moves.config (moves : Moves allowed node after) :
    after.endpoint.config = node.endpoint.config := by
  induction moves with
  | refl => rfl
  | tail _ move ih =>
      rw [← ih]
      cases move with
      | same same => exact same.config
      | _ => rfl

theorem Moves.next_le (moves : Moves allowed node after) :
    node.sessions.next ≤ after.sessions.next := by
  induction moves with
  | refl => exact Nat.le_refl _
  | tail _ move ih =>
      apply Nat.le_trans ih
      cases move with
      | same same => exact Nat.le_of_eq (congrArg Sessions.next same.sessions.symm)
      | addSession => exact Nat.le_succ _
      | _ => exact Nat.le_refl _

theorem moves_retire (own : AllowsOwn allowed) (id : SessionId) (node : Node η) :
    Moves allowed node (node.retire id) :=
  .head (.change id node own.retire) (.single (.unindex id _))

theorem moves_index (own : AllowsOwn allowed) {replace : Bool} {result : Bool × Node η}
    (indexed : node.index teid id replace = .ok result) : Moves allowed node result.2 := by
  obtain ⟨active, known, usable, outcome⟩ := index_eq_ok.mp indexed
  split at outcome
  · rw [outcome]
    exact .single (.enter teid active known)
  · next old taken =>
      cases replace with
      | false =>
          rw [outcome]
          exact .refl
      | true =>
          rw [outcome]
          have different : old ≠ id := by simpa using (Option.filter_eq_some_iff.mp taken).2
          apply (moves_retire own old node).tail
          apply Move.enter teid
          · rw [session_retire, if_neg different.symm]
            exact active
          · rw [imsi_retire]
            exact known

theorem moves_register (own : AllowsOwn allowed) (registered : node.register teid id = .ok after) :
    Moves allowed node after := by
  obtain ⟨_, indexed⟩ := map_snd_eq_ok.mp registered
  exact moves_index own indexed

theorem moves_unregister (own : AllowsOwn allowed) (teid : UInt32) (id : SessionId)
    (node : Node η) : Moves allowed node (node.unregister teid id) := by
  apply Relation.ReflTransGen.head (.unindex id node)
  apply Relation.ReflTransGen.head (.reserve teid (node.unindex id))
  exact .single (.change id _ (own.eraseTeid node.endpoint.interface))

theorem moves_mint (draw : Nat → UInt32) (node : Node η) :
    Moves allowed node (node.mint draw).2 := by
  rcases mint_cases draw node with same | ⟨teid, minted⟩
  · rw [same]
  · rw [minted]
    exact .single (.reserve teid node)

theorem moves_describe {peer : SocketAddress} {request : Body} {result : SessionId × Node η}
    (described : node.describe peer request = .ok result) : Moves allowed node result.2 := by
  obtain ⟨session, rfl⟩ := describe_eq_ok described
  exact .single (.addSession session node)

theorem moves_prepare (own : AllowsOwn allowed) {peer : SocketAddress} {request : Body}
    {creation : Creation} (prepared : node.prepare peer request = .ok (creation, after)) :
    Moves allowed node after := by
  obtain ⟨session, _, ⟨_, _, added⟩ | ⟨teid, _, indexed⟩⟩ := prepare_eq_ok prepared
  · exact added ▸ .single (.addSession session node)
  · exact .head (.addSession session node) (moves_index own indexed)

theorem moves_complete (own : AllowsOwn allowed) {creation : Creation}
    (completed : node.complete creation = .ok after) : Moves allowed node after := by
  unfold complete at completed
  split at completed
  · split at completed
    · cases completed
      exact .refl
    · exact moves_register own completed
  · cases completed
    exact .refl

theorem moves_abandon (own : AllowsOwn allowed) (creation : Creation) (node : Node η) :
    Moves allowed node (node.abandon creation) := by
  unfold abandon
  split
  · split
    · exact moves_unregister own _ _ node
    · exact .refl
  · exact .refl

end Node

namespace Operation

variable {η : Type} {allowed : (Session → Session) → Prop} (network : Network)

theorem moves_create (own : Node.AllowsOwn allowed) (peer : SocketAddress)
    (elements : List Element) (node : Node η) :
    Node.Moves allowed node ((create peer elements).after network node) := by
  rw [after_create]
  cases begun : node.prepare peer (request elements).body with
  | error error => exact .refl
  | ok result =>
      obtain ⟨creation, prepared⟩ := result
      have sending := Action.sameIndices_send network peer (request elements) prepared
      have started := (Node.moves_prepare own begun).tail (.same sending)
      simp only
      split
      · next sequence sent outcome =>
          rw [outcome] at started
          exact started.trans
            (Node.orSame_induction .refl fun after completed => Node.moves_complete own completed)
      · next error sent outcome =>
          rw [outcome] at started
          exact started.trans (Node.moves_abandon own creation sent)

theorem moves_after (own : Node.AllowsOwn allowed) (node : Node η) (operation : Operation)
    (adjusts : ∀ id adjustment, operation = .adjust id adjustment → allowed adjustment.apply) :
    Node.Moves allowed node (operation.after network node) := by
  cases operation with
  | openSession peer subscriber => exact .single (.addSession _ node)
  | describe peer request =>
      apply Node.orSame_induction .refl
      intro after described
      obtain ⟨id, described⟩ := Node.map_snd_eq_ok.mp described
      exact Node.moves_describe described
  | mint draw => exact Node.moves_mint draw node
  | release teid => exact .single (.release teid node)
  | register teid id =>
      exact Node.orSame_induction .refl fun after registered => Node.moves_register own registered
  | remove id =>
      simp only [after, Node.remove]
      split
      · exact .refl
      · exact Node.moves_retire own id node
  | create peer elements => exact moves_create network own peer elements node
  | prepare peer request =>
      apply Node.orSame_induction .refl
      intro after prepared
      obtain ⟨creation, prepared⟩ := Node.map_snd_eq_ok.mp prepared
      exact Node.moves_prepare own prepared
  | complete creation =>
      exact Node.orSame_induction .refl fun after completed => Node.moves_complete own completed
  | abandon creation => exact Node.moves_abandon own creation node
  | adjust id adjustment => exact .single (.change id node (adjusts id adjustment rfl))

theorem run_snoc (operations : List Operation) (operation : Operation)
    (node : Node η) :
    run network (operations ++ [operation]) node =
      operation.after network (run network operations node) := by
  simp [run]

theorem moves_any (operation : Operation) (node : Node η) :
    Node.Moves (fun _ => True) node (operation.after network node) :=
  moves_after network ⟨trivial, fun _ => trivial⟩ node operation fun _ _ _ => trivial

theorem config_after (operation : Operation) (node : Node η) :
    (operation.after network node).endpoint.config = node.endpoint.config :=
  (moves_any network operation node).config

theorem next_le_after (operation : Operation) (node : Node η) :
    node.sessions.next ≤ (operation.after network node).sessions.next :=
  (moves_any network operation node).next_le

theorem config_run (operations : List Operation) (node : Node η) :
    (run network operations node).endpoint.config = node.endpoint.config := by
  induction operations using List.reverseRecOn with
  | nil => rfl
  | append_singleton operations operation ih => rw [run_snoc, config_after, ih]

end Operation

end TunnelControl
