import Mathlib.Data.List.Perm.Basic
import Mathlib.Logic.Relation
import TunnelControl.Proofs.Endpoint.Transmission

/-!
Requests of one endpoint are sent at the same time. Each gets its number before it is written, and
gives it back if that fails, but only as long as no other request has got a number since. Numbers
are counted from the one that the endpoint starts with, so that the order in which they are given
out shows across the largest one.
-/

namespace TunnelControl

/-! ## Actions that give out no number -/

namespace Action

variable {η α β : Type} {network : Network}

def Silent (action : Action η α) : Prop :=
  ∀ node, (perform action node).2.endpoint.sequence = node.endpoint.sequence

namespace Silent

theorem of_endpoint {action : Action η α}
    (same : ∀ node, (perform action node).2.endpoint = node.endpoint) : action.Silent :=
  fun node => congrArg Endpoint.sequence (same node)

theorem pure (a : α) : (Pure.pure a : Action η α).Silent := fun _ => rfl

theorem throw (error : Error) : (throw error : Action η α).Silent := fun _ => rfl

theorem bind {action : Action η α} {next : α → Action η β} (silent : action.Silent)
    (then_silent : ∀ a, (next a).Silent) : (action >>= next).Silent := by
  intro node
  have first := silent node
  rw [perform_bind]
  cases performed : perform action node with
  | mk result after =>
      rw [performed] at first
      cases result with
      | ok a => exact (then_silent a after).trans first
      | error error => exact first

theorem get : (get : Action η (Node η)).Silent := fun _ => rfl

theorem mark (exchange : Exchange) :
    (update (Node.onEndpoint fun endpoint => ((), endpoint.markAnswered exchange)) :
      Action η Unit).Silent :=
  fun _ => rfl

theorem respond (peer : SocketAddress) (request message : Message) :
    (respond network peer request message : Action η Unit).Silent :=
  bind (of_endpoint (endpoint_transmit network peer _)) fun _ => mark _

theorem reject (peer : SocketAddress) (request : Message) (cause : UInt8)
    (offending : Option (ElementType × UInt8)) :
    (reject network peer request cause offending : Action η Unit).Silent :=
  bind (of_endpoint (endpoint_replyWithCause network peer request _)) fun _ => mark _

theorem answerEcho (dispatch : Dispatch) : (answerEcho network dispatch : Action η Unit).Silent :=
  bind get fun _ => respond _ _ _

theorem enter (dispatch : Dispatch) : (enter dispatch : Action η Unit).Silent := by
  unfold Action.enter
  split
  · exact fun _ => rfl
  · exact pure ()

theorem letIn (dispatch : Dispatch) : (letIn dispatch : Action η (Handler η)).Silent := by
  refine bind get fun node => ?_
  split
  · exact throw _
  · exact bind (enter dispatch) fun _ => pure _

theorem accept (dispatch : Dispatch) :
    (accept network dispatch : Action η (Handler η)).Silent := by
  rw [accept_eq]
  refine bind get fun node => ?_
  split
  · exact bind (of_endpoint (endpoint_validate network dispatch)) fun _ => letIn dispatch
  · exact letIn dispatch

theorem leave (dispatch : Dispatch) : (leave dispatch : Action η Bool).Silent := by
  unfold Action.leave
  split
  · exact fun _ => rfl
  · exact pure false

theorem conclude (dispatch : Dispatch) (result : Except Error Unit) :
    (conclude network dispatch result : Action η Unit).Silent := by
  refine bind (leave dispatch) fun answered => ?_
  cases result with
  | ok => exact pure ()
  | error error =>
      have answer := of_endpoint (endpoint_answerFailure (η := η) network dispatch error)
      dsimp only
      split
      · exact bind answer fun _ => throw _
      · exact throw _

end Silent

end Action

/-- A node, the numbers of requests that are being sent and of those that were, and how many numbers
were given out. -/
structure Numbering (η : Type) where
  node : Node η
  pending : List UInt32 := []
  sent : List UInt32 := []
  given : Nat := 0

namespace Numbering

variable {η : Type} {start state after : Numbering η} {number : UInt32} {front back : List UInt32}

def counter (state : Numbering η) : UInt32 := state.node.endpoint.sequence

def next (state : Numbering η) : UInt32 := (state.node.onEndpoint Endpoint.nextSequence).1

def held (state : Numbering η) : List UInt32 := state.pending ++ state.sent

def allocate (state : Numbering η) : Numbering η :=
  { state with
    node := (state.node.onEndpoint Endpoint.nextSequence).2
    pending := state.next :: state.pending
    given := state.given + 1 }

def succeed (front back : List UInt32) (number : UInt32) (state : Numbering η) : Numbering η :=
  { state with pending := front ++ back, sent := number :: state.sent }

def fail (front back : List UInt32) (number : UInt32) (state : Numbering η) : Numbering η :=
  { state with
    node := (state.node.onEndpoint fun endpoint => ((), endpoint.releaseSequence number)).2
    pending := front ++ back }

inductive Step : Numbering η → Numbering η → Prop where
  | allocate (state : Numbering η) : Step state state.allocate
  | succeed {state : Numbering η} {front back : List UInt32} {number : UInt32}
      (sending : state.pending = front ++ number :: back) :
      Step state (state.succeed front back number)
  | fail {state : Numbering η} {front back : List UInt32} {number : UInt32}
      (sending : state.pending = front ++ number :: back) :
      Step state (state.fail front back number)
  | other {state : Numbering η} {node : Node η}
      (same : node.endpoint.sequence = state.node.endpoint.sequence) :
      Step state { state with node }

abbrev Run : Numbering η → Numbering η → Prop := Relation.ReflTransGen Step

/-! ## The counter -/

def bound : Nat := 0x1000000

def distance (first second : UInt32) : Nat := (second.toNat + bound - first.toNat) % bound

theorem toNat_counter_allocate (valid : state.counter.toNat < bound) :
    state.next.toNat = (state.counter.toNat + 1) % bound := by
  have same : state.next =
      if Endpoint.maxSequence ≤ state.counter then 0 else state.counter + 1 := rfl
  have largest : Endpoint.maxSequence.toNat = 0xFFFFFF := rfl
  rw [same]
  unfold bound at *
  split
  · next last =>
      have last := UInt32.le_iff_toNat_le.mp last
      rw [UInt32.toNat_zero]
      omega
  · next before =>
      have before := mt UInt32.le_iff_toNat_le.mpr before
      rw [UInt32.toNat_add, UInt32.toNat_one]
      omega

theorem counter_allocate (state : Numbering η) : state.allocate.counter = state.next := rfl

theorem counter_fail (front back : List UInt32) (number : UInt32) (state : Numbering η) :
    (state.fail front back number).counter =
      if state.counter = number then
        if number = 0 then Endpoint.maxSequence else number - 1
      else state.counter := by
  show (state.node.endpoint.releaseSequence number).sequence = _
  unfold Endpoint.releaseSequence counter
  split <;> rfl

theorem toNat_pred (valid : number.toNat < bound) :
    (if number = 0 then Endpoint.maxSequence else number - 1).toNat =
      (number.toNat + bound - 1) % bound := by
  unfold bound at *
  split
  · next zero => rw [zero]; rfl
  · next other =>
      have positive : number.toNat ≠ 0 := fun zero => other (UInt32.toNat_inj.mp zero)
      rw [UInt32.toNat_sub, UInt32.toNat_one]
      omega

theorem distance_inj {first second third : UInt32} (second_lt : second.toNat < bound)
    (third_lt : third.toNat < bound) (same : distance first second = distance first third)
    (first_lt : first.toNat < bound) : second = third := by
  apply UInt32.toNat_inj.mp
  unfold distance bound at *
  omega

/-! ## The numbers in use -/

/-- Whether the numbers in use lie in the order in which they are given out between the first one
and the last one. -/
structure Ordered (first : UInt32) (state : Numbering η) : Prop where
  counter_lt : state.counter.toNat < bound
  held_lt : ∀ number ∈ state.held, number.toNat < bound
  distinct : state.held.Nodup
  positive : ∀ number ∈ state.held, 0 < distance first number
  before : ∀ number ∈ state.held, distance first number ≤ distance first state.counter
  counted : distance first state.counter ≤ state.given

theorem ordered_start (node : Node η) (valid : node.endpoint.sequence.toNat < bound) :
    Ordered node.endpoint.sequence ({ node } : Numbering η) where
  counter_lt := valid
  held_lt _ member := absurd member List.not_mem_nil
  distinct := List.nodup_nil
  positive _ member := absurd member List.not_mem_nil
  before _ member := absurd member List.not_mem_nil
  counted := by
    show distance node.endpoint.sequence node.endpoint.sequence ≤ 0
    unfold distance bound
    omega

namespace Ordered

variable {first : UInt32}

theorem held_sending (sending : state.pending = front ++ number :: back) :
    state.held.Perm (number :: (front ++ back ++ state.sent)) := by
  unfold held
  rw [sending, List.append_assoc, List.append_assoc, List.cons_append]
  exact List.perm_middle

variable (first_lt : first.toNat < bound) (ordered : Ordered first state)

include ordered

theorem of_perm (counter : after.counter = state.counter) (given : after.given = state.given)
    (held : after.held.Perm state.held) : Ordered first after where
  counter_lt := counter ▸ ordered.counter_lt
  held_lt number member := ordered.held_lt number (held.mem_iff.mp member)
  distinct := held.nodup_iff.mpr ordered.distinct
  positive number member := ordered.positive number (held.mem_iff.mp member)
  before number member := counter ▸ ordered.before number (held.mem_iff.mp member)
  counted := by
    rw [counter, given]
    exact ordered.counted

include first_lt

theorem distance_next (few : state.given + 1 < bound) :
    distance first state.next = distance first state.counter + 1 := by
  have counted := ordered.counted
  have counter_lt := ordered.counter_lt
  have next := toNat_counter_allocate counter_lt
  unfold distance bound at *
  omega

theorem before_next (few : state.given + 1 < bound) (member : number ∈ state.held) :
    distance first number < distance first state.next := by
  rw [ordered.distance_next first_lt few]
  exact Nat.lt_succ_of_le (ordered.before number member)

theorem allocate (few : state.given + 1 < bound) : Ordered first state.allocate := by
  have next_lt : state.next.toNat < bound := by
    rw [toNat_counter_allocate ordered.counter_lt]
    exact Nat.mod_lt _ (by decide)
  have ahead := ordered.distance_next first_lt few
  have later : ∀ number ∈ state.held, distance first number < distance first state.next :=
    fun number member => ordered.before_next first_lt few member
  constructor
  case counter_lt => exact next_lt
  case held_lt =>
    intro number member
    rcases List.mem_cons.mp member with rfl | member
    · exact next_lt
    · exact ordered.held_lt number member
  case distinct =>
    refine List.nodup_cons.mpr ⟨fun member => ?_, ordered.distinct⟩
    exact Nat.lt_irrefl _ (later state.next member)
  case positive =>
    intro number member
    rcases List.mem_cons.mp member with rfl | member
    · omega
    · exact ordered.positive number member
  case before =>
    intro number member
    rw [counter_allocate]
    rcases List.mem_cons.mp member with rfl | member
    · exact Nat.le_refl _
    · exact Nat.le_of_lt (later number member)
  case counted =>
    rw [counter_allocate, ahead]
    exact Nat.succ_le_succ ordered.counted

theorem fail (sending : state.pending = front ++ number :: back) :
    Ordered first (state.fail front back number) := by
  have held := held_sending sending
  obtain ⟨fresh, distinct⟩ := List.nodup_cons.mp (held.nodup_iff.mp ordered.distinct)
  have was_held {other} (member : other ∈ (state.fail front back number).held) :
      other ∈ state.held := held.mem_iff.mpr (List.mem_cons_of_mem number member)
  have number_held : number ∈ state.held := held.mem_iff.mpr List.mem_cons_self
  have number_lt := ordered.held_lt number number_held
  have positive := ordered.positive number number_held
  have counted := ordered.counted
  have previous := toNat_pred number_lt
  have counter := counter_fail front back number state
  constructor
  case held_lt => exact fun other member => ordered.held_lt other (was_held member)
  case distinct => exact distinct
  case positive => exact fun other member => ordered.positive other (was_held member)
  case counter_lt =>
    rw [counter]
    split
    · rw [previous]
      exact Nat.mod_lt _ (by decide)
    · exact ordered.counter_lt
  case before =>
    intro other member
    have before := ordered.before other (was_held member)
    have other_lt := ordered.held_lt other (was_held member)
    have apart : distance first other ≠ distance first number :=
      fun same => fresh (distance_inj other_lt number_lt same first_lt ▸ member)
    rw [counter]
    split
    · next last =>
        -- the number before the last one, and all others in use are before the last one
        rw [last] at before
        unfold distance bound at *
        omega
    · exact before
  case counted =>
    show _ ≤ state.given
    rw [counter]
    split
    · next last =>
        rw [last] at counted
        unfold distance bound at *
        omega
    · exact counted

end Ordered

theorem Step.given_le (step : Step state after) : state.given ≤ after.given := by
  cases step with
  | allocate => exact Nat.le_succ _
  | _ => exact Nat.le_refl _

theorem Run.given_le (run : Run state after) : state.given ≤ after.given := by
  induction run with
  | refl => exact Nat.le_refl _
  | tail _ step ih => exact Nat.le_trans ih step.given_le

theorem Step.ordered {first : UInt32} (first_lt : first.toNat < bound)
    (ordered : Ordered first state) (step : Step state after) (few : after.given < bound) :
    Ordered first after := by
  cases step with
  | allocate => exact ordered.allocate first_lt few
  | succeed sending =>
      refine ordered.of_perm rfl rfl ?_
      exact List.perm_middle.trans (Ordered.held_sending sending).symm
  | fail sending => exact ordered.fail first_lt sending
  | other same => exact ordered.of_perm same rfl (.refl _)

theorem Run.ordered {first : UInt32} (first_lt : first.toNat < bound)
    (ordered : Ordered first start) (run : Run start state) (few : state.given < bound) :
    Ordered first state := by
  induction run with
  | refl => exact ordered
  | tail _ step ih =>
      have earlier := ih (Nat.lt_of_le_of_lt step.given_le few)
      exact step.ordered first_lt earlier few

/-! ## Numbers that are given back -/

theorem mem_insert {other : UInt32} (member : number ∈ front ++ back) :
    number ∈ front ++ other :: back :=
  List.perm_middle.mem_iff.mpr (List.mem_cons_of_mem other member)

theorem counter_of_quiet {first : UInt32} (first_lt : first.toNat < bound)
    (ordered : Ordered first state) (few : state.given + 1 < bound) (run : Run state.allocate after)
    (quiet : after.given = state.given + 1) (sending : state.next ∈ after.pending) :
    after.counter = state.next := by
  -- until another number is given out, a number that was given out last is the last one as long as
  -- its request is being sent
  induction run with
  | refl => rfl
  | @tail earlier after run step ih =>
      have least : state.given + 1 ≤ earlier.given := Run.given_le run
      have silent : earlier.given = state.given + 1 :=
        Nat.le_antisymm (quiet ▸ step.given_le) least
      have distinct := (Run.ordered first_lt (ordered.allocate first_lt few) run
        (silent ▸ few)).distinct
      cases step with
      | allocate =>
          have more : earlier.given + 1 = state.given + 1 := quiet
          omega
      | @succeed front back number held =>
          apply ih silent
          exact held ▸ mem_insert sending
      | @fail front back number held =>
          have last := ih silent (held ▸ mem_insert sending)
          have fresh := (List.nodup_cons.mp
            ((Ordered.held_sending held).nodup_iff.mp distinct)).1
          have other : earlier.counter ≠ number := by
            intro same
            apply fresh
            rw [← same, last]
            exact List.mem_append_left _ sending
          rw [counter_fail, if_neg other]
          exact last
      | other same => exact same.trans (ih silent sending)

theorem counter_fail_quiet {first : UInt32} (first_lt : first.toNat < bound)
    (ordered : Ordered first state) (few : state.given + 1 < bound) (run : Run state.allocate after)
    (quiet : after.given = state.given + 1)
    (sending : after.pending = front ++ state.next :: back) :
    (after.fail front back state.next).counter = state.counter := by
  have member : state.next ∈ after.pending := sending ▸ List.mem_append_cons_self
  have last := counter_of_quiet first_lt ordered few run quiet member
  have next := toNat_counter_allocate ordered.counter_lt
  have next_lt : state.next.toNat < bound := by
    rw [next]
    exact Nat.mod_lt _ (by decide)
  have counter_lt := ordered.counter_lt
  apply UInt32.toNat_inj.mp
  rw [counter_fail, if_pos last, toNat_pred next_lt, next]
  unfold bound at *
  omega

/-! ## Requests -/

open TunnelControl.Action in
theorem run_send (network : Network) (peer : SocketAddress) (message : Message)
    (state : Numbering η) :
    ∃ after, Run state after ∧ after.node = (perform (send network peer message) state.node).2 ∧
      after.pending = state.pending ∧
      after.sent =
        match (perform (send network peer message) state.node).1 with
        | .ok number => number :: state.sent
        | .error _ => state.sent := by
  have written := endpoint_transmit network peer (message.withSequence state.next)
    state.allocate.node
  have sending : state.allocate.pending = [] ++ state.next :: state.pending := rfl
  have numbered : (Node.onEndpoint Endpoint.nextSequence state.node) =
      (state.next, state.allocate.node) := rfl
  simp only [send, perform_bind, perform_update, perform_outcome, numbered]
  cases performed : perform (transmit network peer (message.withSequence state.next))
      state.allocate.node with
  | mk outcome node =>
      rw [performed] at written
      have run : Run state { state.allocate with node } :=
        .tail (.single (.allocate state)) (.other (congrArg Endpoint.sequence written))
      cases outcome with
      | ok => exact ⟨_, run.tail (.succeed sending), rfl, rfl, rfl⟩
      | error error => exact ⟨_, run.tail (.fail sending), rfl, rfl, rfl⟩

structure Numbered (first : UInt32) (state : Numbering η) : Prop where
  distinct : state.held.Nodup
  ahead : state.given + 1 < bound → ∀ number ∈ state.held,
    distance first number < distance first state.next
  restored : state.given + 1 < bound → ∀ after front back, Run state.allocate after →
    after.given = state.given + 1 → after.pending = front ++ state.next :: back →
      (after.fail front back state.next).counter = state.counter
  sends : ∀ (network : Network) (peer : SocketAddress) (message : Message), ∃ after,
    Run state after ∧ after.node = ((Action.send network peer message).perform state.node).2 ∧
      after.pending = state.pending ∧
      after.sent =
        match ((Action.send network peer message).perform state.node).1 with
        | .ok number => number :: state.sent
        | .error _ => state.sent
  answers : ∀ (network : Network) (peer : SocketAddress) (request message : Message)
    (cause : UInt8) (offending : Option (ElementType × UInt8)) (dispatch : Dispatch)
    (result : Except Error Unit),
      (Action.respond network peer request message : Action η Unit).Silent ∧
      (Action.reject network peer request cause offending : Action η Unit).Silent ∧
      (Action.accept network dispatch : Action η (Handler η)).Silent ∧
      (Action.conclude network dispatch result : Action η Unit).Silent ∧
      (Action.answerEcho network dispatch : Action η Unit).Silent

theorem sequence_numbers (node : Node η) (valid : node.endpoint.sequence ≤ Endpoint.maxSequence)
    (run : Run { node } state) (few : state.given < bound) :
    Numbered node.endpoint.sequence state := by
  have first_lt : node.endpoint.sequence.toNat < bound :=
    Nat.lt_of_le_of_lt (UInt32.le_iff_toNat_le.mp valid) (by decide)
  have ordered := Run.ordered first_lt (ordered_start node first_lt) run few
  constructor
  case distinct => exact ordered.distinct
  case ahead => exact fun more number member => ordered.before_next first_lt more member
  case restored =>
    exact fun more after front back later quiet sending =>
      counter_fail_quiet first_lt ordered more later quiet sending
  case sends => exact fun network peer message => run_send network peer message state
  case answers =>
    intro network peer request message cause offending dispatch result
    exact ⟨.respond peer request message, .reject peer request cause offending, .accept dispatch,
      .conclude dispatch result, .answerEcho dispatch⟩

theorem sequence_numbers_wrap :
    let node : Node Unit := { endpoint := { Endpoint.ofConfig {} with sequence := 0xFFFFFF } }
    ∃ state : Numbering Unit, node.endpoint.sequence ≤ Endpoint.maxSequence ∧ Run { node } state ∧
      state.given < bound ∧ state.pending = [2] ∧ state.sent = [1] ∧ state.held.Nodup ∧
      ∀ number ∈ state.held, distance 0xFFFFFF number < distance 0xFFFFFF state.next := by
  intro node
  -- 0 fails after 1 was given out, 1 is sent, and 2 fails and is given out again
  have both : Run { node } ({ node } : Numbering Unit).allocate.allocate :=
    .tail (.single (.allocate _)) (.allocate _)
  have kept := both.tail (@Step.fail _ _ [1] [] 0 rfl)
  have sent := (kept.tail (@Step.succeed _ _ [] [] 1 rfl)).tail (.allocate _)
  have again := (sent.tail (@Step.fail _ _ [] [] 2 rfl)).tail (.allocate _)
  have valid : node.endpoint.sequence ≤ Endpoint.maxSequence := by decide
  have numbered := sequence_numbers node valid again (by decide)
  exact ⟨_, valid, again, by decide, rfl, rfl, numbered.distinct, numbered.ahead (by decide)⟩

end Numbering

end TunnelControl
