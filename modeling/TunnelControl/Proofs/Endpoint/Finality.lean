import TunnelControl.Proofs.Endpoint.Retirement

namespace TunnelControl

namespace Node

variable {η : Type} {id : SessionId}

theorem remove_of_removed (node : Node η) (removed : (node.session id).removed = true) :
    node.remove id = (false, node) := by
  rw [remove, if_pos removed]

theorem register_of_removed (node : Node η) (teid : UInt32)
    (removed : (node.session id).removed = true) :
    node.register teid id = .error .retired := by
  unfold register index
  simp only [removed, if_true]
  rfl

theorem removed_unregister (teid : UInt32) (other : SessionId) (node : Node η) (id : SessionId) :
    ((node.unregister teid other).session id).removed = (node.session id).removed := by
  have same : (node.unregister teid other).session id =
      if id = other then (node.session other).eraseTeid node.endpoint.interface
      else node.session id := Sessions.get_modify other id _ node.sessions
  rw [same]
  split
  · next own =>
      rw [own]
      rfl
  · rfl

theorem removed_abandon (creation : Creation) (node : Node η) (id : SessionId) :
    ((node.abandon creation).session id).removed = (node.session id).removed := by
  unfold abandon
  split
  · split
    · exact removed_unregister _ creation.session node id
    · rfl
  · rfl

end Node

/-- Endpoints that share their sessions, each at a place of its own. -/
structure Hosts (η : Type) where
  endpoints : Nat → Endpoint η
  sessions : Sessions := {}
  traffic : Traffic := []

namespace Hosts

variable {η : Type}

def node (hosts : Hosts η) (place : Nat) : Node η :=
  ⟨hosts.endpoints place, hosts.sessions, hosts.traffic⟩

def put (place : Nat) (node : Node η) (hosts : Hosts η) : Hosts η :=
  ⟨Function.update hosts.endpoints place node.endpoint, node.sessions, node.traffic⟩

structure Deed (η : Type) where
  hosts : Hosts η
  place : Nat
  operation : Operation

namespace Deed

def node (deed : Deed η) : Node η := deed.hosts.node deed.place

def Removes (deed : Deed η) (id : SessionId) : Prop :=
  deed.operation = .remove id ∧ (deed.node.remove id).1 = true

/-- Whether a session is removed here, or another one gets its place. -/
def Retires (network : Network) (deed : Deed η) (id : SessionId) : Prop :=
  ∃ inherited, Operation.Retires network id deed.node deed.operation inherited

theorem Removes.retires {deed : Deed η} {id : SessionId} (removes : deed.Removes id)
    (network : Network) : deed.Retires network id := by
  obtain ⟨removal, told⟩ := removes
  refine ⟨none, ?_⟩
  rw [removal]
  cases removed : (deed.node.session id).removed with
  | true => cases (congrArg Prod.fst (Node.remove_of_removed _ removed)).symm.trans told
  | false => exact .remove removed

end Deed

/-- What happens at once: an operation, something that does not concern sessions, or that there is a
new endpoint or a session that no endpoint has opened. -/
inductive Step (network : Network) (hosts : Hosts η) : Option (Deed η) → Hosts η → Prop where
  | operation (place : Nat) (operation : Operation) :
      Step network hosts (some ⟨hosts, place, operation⟩)
        (hosts.put place (operation.after network (hosts.node place)))
  | other (place : Nat) {node : Node η} (same : (hosts.node place).SameIndices node) :
      Step network hosts none (hosts.put place node)
  | openEndpoint (place : Nat) (config : Config) :
      Step network hosts none
        { hosts with endpoints := Function.update hosts.endpoints place (.ofConfig config) }
  | openSession (session : Session) :
      Step network hosts none { hosts with sessions := (hosts.sessions.add session).2 }

inductive Run (network : Network) (start : Hosts η) : List (Deed η) → Hosts η → Prop where
  | start : Run network start [] start
  | step {history : List (Deed η)} {hosts after : Hosts η} {deed : Option (Deed η)}
      (earlier : Run network start history hosts) (step : Step network hosts deed after) :
      Run network start (deed.toList ++ history) after

variable {network : Network} {start hosts after : Hosts η} {history : List (Deed η)}
  {deed : Option (Deed η)} {id : SessionId}

theorem endpoints_put (place other : Nat) (node : Node η) :
    (hosts.put place node).endpoints other =
      if other = place then node.endpoint else hosts.endpoints other := by
  simp [put, Function.update_apply]

structure Fades (id : SessionId) (hosts after : Hosts η) : Prop where
  known : id < after.sessions.next
  removed : (after.sessions.get id).removed = true
  byImsi : ∀ place imsi, (after.endpoints place).byImsi.get? imsi = some id →
    (hosts.endpoints place).byImsi.get? imsi = some id
  byTeid : ∀ place teid, (after.endpoints place).byTeid.get? teid = some (.session id) →
    (hosts.endpoints place).byTeid.get? teid = some (.session id)

theorem fades_put {place : Nat} {node : Node η} (fades : Node.Fades id (hosts.node place) node) :
    Fades id hosts (hosts.put place node) := by
  -- what one endpoint leaves of a session is left by all of them
  refine ⟨fades.known, fades.removed, fun other imsi entry => ?_, fun other teid entry => ?_⟩
  · rw [endpoints_put] at entry
    split at entry
    · next same =>
        rw [same]
        exact fades.byImsi imsi entry
    · exact entry
  · rw [endpoints_put] at entry
    split at entry
    · next same =>
        rw [same]
        exact fades.byTeid teid entry
    · exact entry

theorem Step.next_le (step : Step network hosts deed after) :
    hosts.sessions.next ≤ after.sessions.next := by
  cases step with
  | operation place operation => exact Operation.next_le_after network operation (hosts.node place)
  | other place same => exact Nat.le_of_eq (congrArg Sessions.next same.sessions).symm
  | openEndpoint => exact Nat.le_refl _
  | openSession => exact Nat.le_succ _

theorem Step.fades (step : Step network hosts deed after) (known : id < hosts.sessions.next)
    (removed : (hosts.sessions.get id).removed = true) : Fades id hosts after := by
  cases step with
  | operation place operation =>
      exact fades_put (Node.fades_after (hosts.node place) known removed network operation)
  | other place same =>
      exact fades_put (Node.fades_move known removed (.same same))
  | openEndpoint place config =>
      refine ⟨known, removed, fun other imsi entry => ?_, fun other teid entry => ?_⟩
      · simp only [Function.update_apply] at entry
        split at entry
        · cases entry
        · exact entry
      · simp only [Function.update_apply] at entry
        split at entry
        · cases entry
        · exact entry
  | openSession session =>
      refine ⟨Nat.lt_succ_of_lt known, ?_, fun _ _ entry => entry, fun _ _ entry => entry⟩
      rw [Sessions.get_add, if_neg (Nat.ne_of_lt known)]
      exact removed

theorem Step.removed (step : Step network hosts deed after) {own : Deed η} (same : deed = some own)
    (retires : own.Retires network id) : (after.sessions.get id).removed = true := by
  cases step with
  | operation place operation =>
      cases same
      obtain ⟨_, retires⟩ := retires
      exact retires.removed
  | _ => cases same

namespace Run

theorem known (run : Run network start history hosts) (known : id < start.sessions.next) :
    id < hosts.sessions.next := by
  induction run with
  | start => exact known
  | step _ step ih => exact Nat.lt_of_lt_of_le ih step.next_le

theorem fades (run : Run network start history hosts) (known : id < start.sessions.next)
    (removed : (start.sessions.get id).removed = true) : Fades id start hosts := by
  induction run with
  | start => exact ⟨known, removed, fun _ _ entry => entry, fun _ _ entry => entry⟩
  | step _ step ih =>
      have last := step.fades ih.known ih.removed
      exact ⟨last.known, last.removed,
        fun place imsi entry => ih.byImsi place imsi (last.byImsi place imsi entry),
        fun place teid entry => ih.byTeid place teid (last.byTeid place teid entry)⟩

theorem removed (run : Run network start history hosts) (known : id < start.sessions.next)
    {own : Deed η} (member : own ∈ history) (retires : own.Retires network id) :
    (hosts.sessions.get id).removed = true := by
  induction run with
  | start => simp at member
  | step earlier step ih =>
      rcases List.mem_append.mp member with now | before
      · exact step.removed (Option.mem_toList.mp now) retires
      · exact (step.fades (earlier.known known) (ih before)).removed

theorem removed_once (run : Run network start history hosts) (known : id < start.sessions.next) :
    history.Pairwise fun later earlier => later.Removes id → ¬ earlier.Retires network id := by
  induction run with
  | start => exact .nil
  | @step _ hosts _ _ earlier step ih =>
      cases step with
      | operation place operation =>
          refine List.pairwise_cons.mpr ⟨fun own member removes retires => ?_, ih⟩
          have removed := earlier.removed known member retires
          obtain ⟨_, told⟩ := removes
          have refused := congrArg Prod.fst (Node.remove_of_removed (hosts.node place) removed)
          cases refused.symm.trans told
      | _ => exact ih

end Run

/-- Whatever a run starts from, a session that is retired stays retired and gets no more entries,
and nobody can register it. Of all removals at whatever endpoints one at most is told that it
succeeded, and none is after another session has taken the place. A creation that is undone retires
nobody. -/
theorem retired_for_good (run : Run network start history hosts)
    (known : id < start.sessions.next) :
    ((start.sessions.get id).removed = true → (hosts.sessions.get id).removed = true) ∧
    (history.Pairwise fun later earlier =>
      later.Removes id → ¬ earlier.Removes id ∧ ¬ earlier.Retires network id) ∧
    ((hosts.sessions.get id).removed = true → ∀ place teid,
      Action.perform (Action.register teid id) (hosts.node place) =
        (.error .retired, hosts.node place)) ∧
    ((start.sessions.get id).removed = true → ∀ place,
      (∀ imsi, (hosts.endpoints place).byImsi.get? imsi = some id →
        (start.endpoints place).byImsi.get? imsi = some id) ∧
      ∀ teid, (hosts.endpoints place).byTeid.get? teid = some (.session id) →
        (start.endpoints place).byTeid.get? teid = some (.session id)) ∧
    ∀ place creation other, (((hosts.node place).abandon creation).session other).removed =
      ((hosts.node place).session other).removed := by
  refine ⟨fun removed => ?_, ?_, fun removed place teid => ?_, fun removed place => ?_,
    fun place creation other => Node.removed_abandon creation _ other⟩
  · exact (run.fades known removed).removed
  · apply (run.removed_once known).imp
    intro later earlier once removes
    exact ⟨fun also => once removes (also.retires network), once removes⟩
  · rw [Action.register, Action.perform_attempt,
      Node.register_of_removed (hosts.node place) teid removed]
    rfl
  · have fades := run.fades known removed
    exact ⟨fades.byImsi place, fades.byTeid place⟩

theorem retired_for_good_shared :
    let indexed : Node Empty :=
      Operation.run .reachable
        [.openSession default { imsi := "001010000000001" }, .mint fun _ => 7, .register 7 0]
        (.ofConfig {})
    let other : Node Empty := (Operation.mint fun _ => 9).after .reachable (.ofConfig {})
    let start : Hosts Empty :=
      { endpoints := fun place => if place = 0 then indexed.endpoint else other.endpoint
        sessions := indexed.sessions }
    let deed : Deed Empty := ⟨start, 0, .remove 0⟩
    let hosts := start.put 0 ((Operation.remove 0).after .reachable (start.node 0))
    0 < start.sessions.next ∧ Run .reachable start [deed] hosts ∧
      (start.sessions.get 0).removed = false ∧ deed.Removes 0 ∧
      (hosts.sessions.get 0).removed = true ∧ (hosts.node 1).isUsable 9 0 = true ∧
      Action.perform (Action.register 9 0) (hosts.node 1) = (.error .retired, hosts.node 1) := by
  intro indexed other start deed hosts
  have known : 0 < start.sessions.next := by decide
  have run : Run .reachable start [deed] hosts := .step .start (.operation 0 (.remove 0))
  have removed : (hosts.sessions.get 0).removed = true := by decide
  obtain ⟨_, _, refused, _⟩ := retired_for_good run known
  exact ⟨known, run, by decide, ⟨rfl, by decide⟩, removed, by decide, refused removed 1 9⟩

end Hosts

end TunnelControl
