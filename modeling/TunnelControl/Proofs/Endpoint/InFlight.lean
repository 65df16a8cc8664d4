import Mathlib.Logic.Relation
import TunnelControl.Proofs.Endpoint.Gate

namespace TunnelControl

theorem Table.eq_empty {κ α : Type} [DecidableEq κ] {table : Table κ α}
    (missing : ∀ key, table.get? key = none) : table = .empty := by
  obtain ⟨entries, distinct⟩ := table
  cases entries with
  | nil => rfl
  | cons entry rest => exact absurd List.mem_cons_self (get?_eq_none.mp (missing entry.1))

namespace Action

variable {η : Type} (network : Network)

def check (dispatch : Dispatch) : Action η Unit := do
  if (← get).endpoint.validation then validate network dispatch

def settle (dispatch : Dispatch) (answered : Bool) (result : Except Error Unit) :
    Action η Unit := do
  match result with
  | .ok () => return
  | .error error =>
      if !answered then answerFailure network dispatch error
      throw (.inHandler dispatch.message.type dispatch.peer error)

theorem accept_eq_check (dispatch : Dispatch) :
    (accept network dispatch : Action η (Handler η)) =
      (do check network dispatch; letIn dispatch) := by
  rw [accept_eq, check, bind_assoc]
  congr
  funext node
  split <;> simp

theorem conclude_eq_settle (dispatch : Dispatch) (result : Except Error Unit) :
    (conclude network dispatch result : Action η Unit) =
      (do settle network dispatch (← leave dispatch) result) := rfl

theorem endpoint_check (dispatch : Dispatch) (node : Node η) :
    (perform (check network dispatch) node).2.endpoint = node.endpoint := by
  unfold check
  rw [perform_bind, perform_get]
  simp only
  split
  · exact endpoint_validate network dispatch node
  · rfl

theorem endpoint_settle (dispatch : Dispatch) (answered : Bool) (result : Except Error Unit)
    (node : Node η) :
    (perform (settle network dispatch answered result) node).2.endpoint = node.endpoint := by
  unfold settle
  cases result with
  | ok => rfl
  | error error =>
      cases answered with
      | true => rfl
      | false =>
          rw [← endpoint_answerFailure network dispatch error node]
          exact congrArg Node.endpoint (perform_before_throw _ _ _)

end Action

inductive Stage where
  | arrived
  | checked
  | assigned
  | inside
  | left (answered : Bool) (result : Except Error Unit)
  | returned (outcome : Except Error Unit)

structure Passage where
  dispatch : Dispatch
  stage : Stage := .arrived

structure Passage.Holds (passage : Passage) (exchange : Exchange) : Prop where
  inside : passage.stage = .inside
  request : passage.dispatch.message.isRequest = true
  exchange : passage.dispatch.exchange = exchange

/-- A node, the messages that are handled at it at the same time, and the exchanges of which an
answer was sent and is not noted yet. -/
structure Workload (η : Type) where
  node : Node η
  passages : List Passage := []
  pending : List Exchange := []

namespace Workload

open TunnelControl.Action

variable {η : Type} {network : Network} {start state after : Workload η} {node ended : Node η}
  {dispatch : Dispatch} {exchange : Exchange} {before next : Stage}

/-- One part of the handling of a message. A handler may end in any way. -/
inductive Passes (network : Network) (dispatch : Dispatch) (node : Node η) :
    Stage → Stage → Node η → Prop where
  | check {ended : Node η} (passed : perform (check network dispatch) node = (.ok (), ended)) :
      Passes network dispatch node .arrived .checked ended
  | refuse {error : Error} {ended : Node η}
      (refused : perform (check network dispatch) node = (.error error, ended)) :
      Passes network dispatch node .arrived (.returned (.error error)) ended
  | assign {handler : Handler η}
      (found : node.endpoint.handlers.get? dispatch.message.type = some handler) :
      Passes network dispatch node .checked .assigned node
  | dismiss (unknown : node.endpoint.handlers.get? dispatch.message.type = none) :
      Passes network dispatch node .checked
        (.returned (.error (.noHandler dispatch.message.type))) node
  | enter {ended : Node η} (entered : perform (enter dispatch) node = (.ok (), ended)) :
      Passes network dispatch node .assigned .inside ended
  | leave {answered : Bool} {ended : Node η} (result : Except Error Unit)
      (left : perform (leave dispatch) node = (.ok answered, ended)) :
      Passes network dispatch node .inside (.left answered result) ended
  | settle {answered : Bool} {result outcome : Except Error Unit} {ended : Node η}
      (settled : perform (settle network dispatch answered result) node = (outcome, ended)) :
      Passes network dispatch node (.left answered result) (.returned outcome) ended

inductive Sending (network : Network) : Exchange → Action η Unit → Prop where
  | respond (peer : SocketAddress) (request message : Message) :
      Sending network (peer, request.sequence)
        (transmit network peer (message.withSequence request.sequence))
  | reject (peer : SocketAddress) (request : Message) (verdict : Verdict) :
      Sending network (peer, request.sequence) (replyWithCause network peer request verdict)

inductive Step (network : Network) : Workload η → Workload η → Prop where
  | arrive {state : Workload η} (dispatch : Dispatch) :
      Step network state { state with passages := { dispatch } :: state.passages }
  | pass {state : Workload η} {front back : List Passage} {dispatch : Dispatch}
      {before next : Stage} {ended : Node η}
      (passages : state.passages = front ++ ⟨dispatch, before⟩ :: back)
      (passes : Passes network dispatch state.node before next ended) :
      Step network state
        { state with node := ended, passages := front ++ ⟨dispatch, next⟩ :: back }
  | send {state : Workload η} {exchange : Exchange} {action : Action η Unit} {ended : Node η}
      (sending : Sending network exchange action)
      (sent : perform action state.node = (.ok (), ended)) :
      Step network state { state with node := ended, pending := exchange :: state.pending }
  | unsent {state : Workload η} {exchange : Exchange} {action : Action η Unit} {error : Error}
      {ended : Node η} (sending : Sending network exchange action)
      (failed : perform action state.node = (.error error, ended)) :
      Step network state { state with node := ended }
  | note {state : Workload η} {front back : List Exchange} {exchange : Exchange}
      (pending : state.pending = front ++ exchange :: back) :
      Step network state {
        state with
        node.endpoint := state.node.endpoint.markAnswered exchange
        pending := front ++ back }
  | other {state : Workload η} {node : Node η}
      (same : node.endpoint.inFlight = state.node.endpoint.inFlight) :
      Step network state { state with node }

abbrev Run (network : Network) : Workload η → Workload η → Prop :=
  Relation.ReflTransGen (Step network)

def Owned (state : Workload η) : Prop :=
  ∀ exchange, state.node.endpoint.inFlight.get? exchange ≠ none →
    ∃ passage ∈ state.passages, passage.Holds exchange

theorem Passes.inFlight_cases (passes : Passes network dispatch node before next ended)
    (noted : ended.endpoint.inFlight.get? exchange ≠ none) :
    Passage.Holds ⟨dispatch, next⟩ exchange ∨
      (node.endpoint.inFlight.get? exchange ≠ none ∧
        ¬ Passage.Holds ⟨dispatch, before⟩ exchange) := by
  have outside {stage : Stage} (elsewhere : stage ≠ .inside) :
      ¬ Passage.Holds ⟨dispatch, stage⟩ exchange := fun holds => elsewhere holds.inside
  have silent {action : Action η Unit} {result : Except Error Unit}
      (same : (perform action node).2.endpoint = node.endpoint)
      (performed : perform action node = (result, ended)) :
      node.endpoint.inFlight.get? exchange ≠ none := by
    rw [performed] at same
    exact fun missing => noted ((congrArg (·.inFlight.get? exchange) same).trans missing)
  cases passes with
  | check passed =>
      exact .inr ⟨silent (endpoint_check network dispatch node) passed, outside (by simp)⟩
  | refuse refused =>
      exact .inr ⟨silent (endpoint_check network dispatch node) refused, outside (by simp)⟩
  | assign => exact .inr ⟨noted, outside (by simp)⟩
  | dismiss => exact .inr ⟨noted, outside (by simp)⟩
  | enter entered =>
      rw [perform_enter] at entered
      cases entered
      unfold Node.entered at noted
      split at noted
      · next request =>
          rw [Table.get?_insertNew] at noted
          split at noted
          · next same => exact .inl ⟨rfl, request, same.symm⟩
          · exact .inr ⟨noted, outside (by simp)⟩
      · exact .inr ⟨noted, outside (by simp)⟩
  | leave _ left =>
      rw [perform_leave_eq] at left
      cases left
      unfold Node.left at noted
      split at noted
      · rw [Table.get?_erase] at noted
        split at noted
        · exact absurd rfl noted
        · next different =>
            -- other requests of the exchange that left may be inside, but it is noted no more
            exact .inr ⟨noted, fun holds => different holds.exchange.symm⟩
      · next other => exact .inr ⟨noted, fun holds => other holds.request⟩
  | settle settled =>
      exact .inr ⟨silent (endpoint_settle network dispatch _ _ node) settled, outside (by simp)⟩

theorem Sending.endpoint {action : Action η Unit} (sending : Sending network exchange action)
    (node : Node η) : (perform action node).2.endpoint = node.endpoint := by
  cases sending with
  | respond peer request message => exact endpoint_transmit network peer _ node
  | reject peer request verdict => exact endpoint_replyWithCause network peer request verdict node

theorem Owned.of_inFlight {pending : List Exchange} (owned : state.Owned)
    (same : ∀ exchange, ended.endpoint.inFlight.get? exchange ≠ none →
      state.node.endpoint.inFlight.get? exchange ≠ none) :
    Owned ⟨ended, state.passages, pending⟩ :=
  fun exchange noted => owned exchange (same exchange noted)

theorem Owned.of_endpoint {pending : List Exchange} {action : Action η Unit}
    {result : Except Error Unit} (owned : state.Owned)
    (silent : (perform action state.node).2.endpoint = state.node.endpoint)
    (performed : perform action state.node = (result, ended)) :
    Owned ⟨ended, state.passages, pending⟩ := by
  rw [performed] at silent
  apply owned.of_inFlight
  rw [← silent]
  exact fun _ => id

theorem Step.owned (owned : state.Owned) (step : Step network state after) : after.Owned := by
  cases step with
  | arrive dispatch =>
      intro exchange noted
      obtain ⟨passage, member, holds⟩ := owned exchange noted
      exact ⟨passage, List.mem_cons_of_mem _ member, holds⟩
  | @pass front back dispatch before next ended passages passes =>
      intro exchange noted
      rcases passes.inFlight_cases noted with holds | ⟨earlier, away⟩
      · exact ⟨_, List.mem_append_right front List.mem_cons_self, holds⟩
      · obtain ⟨passage, member, holds⟩ := owned exchange earlier
        refine ⟨passage, ?_, holds⟩
        rw [passages] at member
        simp only [List.mem_append, List.mem_cons] at member ⊢
        rcases member with member | rfl | member
        · exact .inl member
        · exact absurd holds away
        · exact .inr (.inr member)
  | send sending sent => exact owned.of_endpoint (sending.endpoint state.node) sent
  | unsent sending failed => exact owned.of_endpoint (sending.endpoint state.node) failed
  | @note front back exchange pending =>
      -- a late note is of an exchange that is not in flight, and does not put it there
      apply owned.of_inFlight
      intro other noted missing
      apply noted
      show (state.node.endpoint.inFlight.modify exchange fun _ => true).get? other = none
      rw [Table.get?_modify]
      split
      · next same => rw [← same, missing]; rfl
      · exact missing
  | other same => exact owned.of_inFlight fun exchange noted => same ▸ noted

theorem Run.owned (owned : start.Owned) (run : Run network start state) : state.Owned := by
  induction run with
  | refl => exact owned
  | tail _ step ih => exact step.owned ih

theorem Owned.vacant (owned : state.Owned)
    (outside : ∀ passage ∈ state.passages, passage.stage ≠ .inside) :
    state.node.endpoint.inFlight = .empty := by
  apply Table.eq_empty
  intro exchange
  by_contra noted
  obtain ⟨passage, member, holds⟩ := owned exchange noted
  exact outside passage member holds.inside

theorem run_answer {action : Action η Unit} (sending : Sending network exchange action)
    (state : Workload η) :
    Run network state {
      state with
      node := (perform
        (do action; update (Node.onEndpoint fun endpoint => ((), endpoint.markAnswered exchange)))
        state.node).2 } := by
  rw [perform_bind]
  cases performed : perform action state.node with
  | mk result ended =>
      cases result with
      | error error => exact .single (.unsent sending performed)
      | ok =>
          have sent : Run network state _ := .single (.send sending performed)
          exact sent.tail (@Step.note η network _ [] state.pending exchange rfl)

def joined (dispatch : Dispatch) (stage : Stage) (node : Node η) (state : Workload η) :
    Workload η :=
  { state with node, passages := ⟨dispatch, stage⟩ :: state.passages }

theorem run_accept (network : Network) (dispatch : Dispatch) (state : Workload η) :
    match perform (accept network dispatch) state.node with
    | (.ok _, ended) => Run network state (state.joined dispatch .inside ended)
    | (.error error, ended) =>
        Run network state (state.joined dispatch (.returned (.error error)) ended) := by
  have arrived : Run network state (state.joined dispatch .arrived state.node) :=
    .single (.arrive dispatch)
  have pass {before next : Stage} {node ended : Node η}
      (passes : Passes network dispatch node before next ended) :
      Step network (state.joined dispatch before node) (state.joined dispatch next ended) :=
    @Step.pass _ _ _ [] state.passages _ _ _ _ rfl passes
  rw [accept_eq_check, perform_bind]
  cases performed : perform (check network dispatch) state.node with
  | mk result node =>
      cases result with
      | error error => exact arrived.tail (pass (.refuse performed))
      | ok =>
          have checked := arrived.tail (pass (.check performed))
          simp only
          rw [perform_letIn]
          cases found : node.endpoint.handlers.get? dispatch.message.type with
          | none => exact checked.tail (pass (.dismiss found))
          | some handler =>
              have assigned := checked.tail (pass (.assign found))
              exact assigned.tail (pass (.enter (perform_enter dispatch node)))

theorem run_conclude (network : Network) (front back : List Passage) (result : Except Error Unit)
    (passages : state.passages = front ++ ⟨dispatch, .inside⟩ :: back) :
    Run network state {
      state with
      node := (perform (conclude network dispatch result) state.node).2
      passages := front ++
        ⟨dispatch, .returned (perform (conclude network dispatch result) state.node).1⟩ ::
          back } := by
  rw [conclude_eq_settle, perform_bind, perform_leave_eq]
  have left : Run network state _ :=
    .single (.pass passages (.leave result (perform_leave_eq dispatch state.node)))
  exact left.tail (.pass rfl (.settle rfl))

theorem run_handle (network : Network) (custom : η → Dispatch → Action η Unit)
    (dispatch : Dispatch) (state : Workload η)
    (works : ∀ handler entered, Run network (state.joined dispatch .inside entered)
      (state.joined dispatch .inside (perform (run network custom dispatch handler) entered).2)) :
    Run network state (state.joined dispatch
      (.returned (perform (handle network custom dispatch.peer dispatch.message) state.node).1)
      (perform (handle network custom dispatch.peer dispatch.message) state.node).2) := by
  have accepted := run_accept network dispatch state
  rw [handle_eq, perform_bind]
  cases performed : perform (accept network dispatch) state.node with
  | mk result entered =>
      rw [performed] at accepted
      cases result with
      | error error => exact accepted
      | ok handler =>
          simp only
          rw [perform_bind, perform_outcome]
          exact (accepted.trans (works handler entered)).trans
            (run_conclude network [] state.passages _ rfl)

theorem noted_of_enter (request : dispatch.message.isRequest = true) (node : Node η) :
    (perform (enter dispatch) node).2.endpoint.inFlight.get? dispatch.exchange ≠ none := by
  rw [perform_enter, Node.entered, if_pos request, Table.get?_insertNew, if_pos rfl]
  exact Option.some_ne_none _

structure Accounted (network : Network) (state : Workload η) : Prop where
  noted : ∀ dispatch : Dispatch, dispatch.message.isRequest = true →
    (perform (enter dispatch) state.node).2.endpoint.inFlight.get? dispatch.exchange ≠ none
  owned : state.Owned
  vacant : (∀ passage ∈ state.passages, passage.stage ≠ .inside) →
    state.node.endpoint.inFlight = .empty
  responds : ∀ peer request message, Run network state
    { state with node := (perform (respond network peer request message) state.node).2 }
  rejects : ∀ peer request cause offending, Run network state
    { state with node := (perform (reject network peer request cause offending) state.node).2 }
  handles : ∀ custom dispatch,
    (∀ handler entered, Run network (state.joined dispatch .inside entered)
      (state.joined dispatch .inside
        (perform (run network custom dispatch handler) entered).2)) →
    Run network state (state.joined dispatch
      (.returned (perform (handle network custom dispatch.peer dispatch.message) state.node).1)
      (perform (handle network custom dispatch.peer dispatch.message) state.node).2)

/-- Whatever is handled and answered at the same time, an exchange is in flight only as long as a
request of it is inside its handler, and none is in flight once all have left. -/
theorem accounted (vacant : start.node.endpoint.inFlight = .empty)
    (run : Run network start state) : state.Accounted network := by
  have owned : state.Owned := by
    refine run.owned fun exchange noted => ?_
    rw [vacant] at noted
    exact absurd rfl noted
  constructor
  case noted => exact fun dispatch request => noted_of_enter request state.node
  case owned => exact owned
  case vacant => exact owned.vacant
  case responds =>
    exact fun peer request message => run_answer (.respond peer request message) state
  case rejects =>
    exact fun peer request cause offending => run_answer (.reject peer request _) state
  case handles => exact fun custom dispatch => run_handle network custom dispatch state

theorem accounted_late :
    let first := (Handling.ofType 0 32).dispatch
    let second := (Handling.ofType 1 34).dispatch
    let start : Workload Unit := { node := Handling.twoHandlers }
    start.node.endpoint.inFlight = .empty ∧ first.exchange = second.exchange ∧
      ∃ both late : Workload Unit, Run .reachable start both ∧
        both.node.endpoint.inFlight.get? first.exchange = some false ∧ both.Owned ∧
        Run .reachable both late ∧ late.pending = [] ∧
        (∀ passage ∈ late.passages, passage.stage ≠ .inside) ∧
        late.node.endpoint.inFlight = .empty := by
  intro first second start
  let inside (dispatch : Dispatch) (state : Workload Unit) : Workload Unit :=
    state.joined dispatch .inside (perform (accept .reachable dispatch) state.node).2
  have one : Run .reachable start (inside first start) := run_accept .reachable first start
  have two : Run .reachable (inside first start) (inside second (inside first start)) :=
    run_accept .reachable second (inside first start)
  have both := one.trans two
  have sent : Run .reachable (inside second (inside first start)) _ :=
    .single (.send (.respond second.peer second.message first.message) rfl)
  have left := sent.trans (run_conclude .reachable [] _ (.ok ()) rfl)
  have noted := left.tail (@Step.note _ _ _ [] [] _ rfl)
  have late := noted.trans (run_conclude .reachable [_] [] (.error (.missingElement 93)) rfl)
  refine ⟨rfl, rfl, _, _, both, rfl, (accounted rfl both).owned, late, rfl, ?_, ?_⟩
  · simp
  · apply (accounted rfl (both.trans late)).vacant
    simp

end Workload

end TunnelControl
