import TunnelControl.Proofs.Endpoint.Transmission

namespace TunnelControl

structure Handling where
  number : Nat
  dispatch : Dispatch

namespace Handling

variable {η : Type}

def exchange (handling : Handling) : Exchange := handling.dispatch.exchange

inductive Event where
  | enter (handling : Handling)
  | answer (handling : Handling)
  | leave (handling : Handling) (result : Except Error Unit)

open Event

def Inside (handling : Handling) (history : List Event) : Prop :=
  enter handling ∈ history ∧ ∀ result, leave handling result ∉ history

/-- Whether a request of the exchange has entered its handler since the last one left. -/
def Open (exchange : Exchange) : List Event → Prop
  | [] => False
  | enter handling :: earlier => handling.exchange = exchange ∨ Open exchange earlier
  | answer _ :: earlier => Open exchange earlier
  | leave handling _ :: earlier => handling.exchange ≠ exchange ∧ Open exchange earlier

/-- Whether a request of the exchange was answered since then. -/
def Marked (exchange : Exchange) : List Event → Prop
  | [] => False
  | enter _ :: earlier => Marked exchange earlier
  | answer handling :: earlier =>
      (handling.exchange = exchange ∧ Open exchange earlier) ∨ Marked exchange earlier
  | leave handling _ :: earlier => handling.exchange ≠ exchange ∧ Marked exchange earlier

inductive Answers (network : Network) (handling : Handling) (node : Node η) : Node η → Prop where
  | respond {message : Message}
      (done : ((Action.respond network handling.dispatch.peer handling.dispatch.message
        message).perform node).1 = .ok ()) :
      Answers network handling node
        ((Action.respond network handling.dispatch.peer handling.dispatch.message
          message).perform node).2
  | reject {cause : UInt8} {offending : Option (ElementType × UInt8)}
      (done : ((Action.reject network handling.dispatch.peer handling.dispatch.message cause
        offending).perform node).1 = .ok ()) :
      Answers network handling node
        ((Action.reject network handling.dispatch.peer handling.dispatch.message cause
          offending).perform node).2

/-- How an endpoint gets from a start to a node while requests enter their handlers, are answered
there and leave, one step at a time. Whatever else happens leaves the notes on them alone. -/
inductive Run (network : Network) (start : Node η) : List Event → Node η → Prop where
  | start : Run network start [] start
  | enter {history : List Event} {node : Node η} {handling : Handling} {handler : Handler η}
      (earlier : Run network start history node)
      (request : handling.dispatch.message.isRequest = true) (fresh : .enter handling ∉ history)
      (accepted : ((Action.accept network handling.dispatch).perform node).1 = .ok handler) :
      Run network start (.enter handling :: history)
        ((Action.accept network handling.dispatch).perform node).2
  | answer {history : List Event} {node after : Node η} {handling : Handling}
      (earlier : Run network start history node) (inside : Inside handling history)
      (answers : Answers network handling node after) :
      Run network start (.answer handling :: history) after
  | leave {history : List Event} {node : Node η} {handling : Handling} {result : Except Error Unit}
      (earlier : Run network start history node) (inside : Inside handling history) :
      Run network start (.leave handling result :: history)
        ((Action.conclude network handling.dispatch result).perform node).2
  | other {history : List Event} {node after : Node η}
      (earlier : Run network start history node)
      (same : after.endpoint.inFlight = node.endpoint.inFlight) : Run network start history after

structure Noted (history : List Event) (inFlight : Table Exchange Bool) : Prop where
  isOpen : ∀ exchange, inFlight.get? exchange ≠ none ↔ Open exchange history
  isMarked : ∀ exchange, inFlight.get? exchange = some true ↔ Marked exchange history

namespace Noted

variable {history : List Event} {inFlight : Table Exchange Bool} {handling : Handling}

theorem enter (noted : Noted history inFlight) (handling : Handling) :
    Noted (.enter handling :: history) (inFlight.insertNew handling.exchange false) := by
  constructor
  · intro exchange
    rw [Table.get?_insertNew, Open, ← noted.isOpen]
    split
    · next same => simp [same]
    · next other => simp [Ne.symm other]
  · intro exchange
    rw [Table.get?_insertNew, Marked, ← noted.isMarked]
    split
    · next same =>
        rw [same]
        cases inFlight.get? handling.exchange <;> simp
    · rfl

theorem answer (noted : Noted history inFlight) (handling : Handling) :
    Noted (.answer handling :: history) (inFlight.modify handling.exchange fun _ => true) := by
  constructor
  · intro exchange
    rw [Table.get?_modify, Open, ← noted.isOpen]
    split
    · next same => simp [same]
    · rfl
  · intro exchange
    rw [Table.get?_modify, Marked, ← noted.isMarked, ← noted.isOpen]
    split
    · next same =>
        rw [same]
        cases inFlight.get? handling.exchange <;> simp
    · next other => simp [Ne.symm other]

theorem leave (noted : Noted history inFlight) (handling : Handling) (result : Except Error Unit) :
    Noted (.leave handling result :: history) (inFlight.erase handling.exchange) := by
  constructor
  · intro exchange
    rw [Table.get?_erase, Open, ← noted.isOpen]
    split
    · next same => simp [same]
    · next other => simp [Ne.symm other]
  · intro exchange
    rw [Table.get?_erase, Marked, ← noted.isMarked]
    split
    · next same => simp [same]
    · next other => simp [Ne.symm other]

end Noted

theorem Answers.endpoint {network : Network} {handling : Handling} {node after : Node η}
    (answers : Answers network handling node after) :
    after.endpoint = node.endpoint.markAnswered handling.exchange := by
  cases answers with
  | respond done => exact Action.endpoint_respond done
  | reject done => exact Action.endpoint_reject done

namespace Run

variable {network : Network} {start node : Node η} {history : List Event} {handling : Handling}

theorem isRequest (run : Run network start history node) (entered : .enter handling ∈ history) :
    handling.dispatch.message.isRequest = true := by
  induction run with
  | start => simp at entered
  | enter _ request _ _ ih =>
      rcases List.mem_cons.mp entered with same | entered
      · cases same
        exact request
      · exact ih entered
  | answer _ _ _ ih => exact ih (by simpa using entered)
  | leave _ _ ih => exact ih (by simpa using entered)
  | other _ _ ih => exact ih entered

theorem noted (run : Run network start history node) (vacant : start.endpoint.inFlight = .empty) :
    Noted history node.endpoint.inFlight := by
  induction run with
  | start =>
      rw [vacant]
      exact ⟨fun _ => by simp [Open], fun _ => by simp [Marked]⟩
  | enter _ request _ accepted ih =>
      rw [Action.inFlight_accept request accepted]
      exact ih.enter _
  | answer _ _ answers ih =>
      rw [answers.endpoint]
      exact ih.answer _
  | leave earlier inside ih =>
      rw [Action.inFlight_conclude (earlier.isRequest inside.1)]
      exact ih.leave _ _
  | other _ same ih =>
      rw [same]
      exact ih

end Run

/-- Whether a handler that ends in a failure has its message answered exactly if it did not do so
itself. -/
def EndsRight (network : Network) (node : Node η) (dispatch : Dispatch) (error : Error)
    (answered : Prop) : Prop :=
  let after := ((Action.conclude network dispatch (.error error)).perform node).2
  let left := ((Action.leave dispatch).perform node).2
  (answered → after = left) ∧
    (¬ answered → after = ((Action.answerFailure network dispatch error).perform left).2)

variable {network : Network} {start node : Node η} {history : List Event} {handling : Handling}
  {error : Error}

theorem answerFailure_ne_leave (network : Network) {dispatch : Dispatch}
    (request : dispatch.message.isRequest = true) (calls : error.verdict? ≠ none)
    (bound : node.endpoint.bound = true) :
    ((Action.answerFailure network dispatch error).perform
        ((Action.leave dispatch).perform node).2).2 ≠ ((Action.leave dispatch).perform node).2 := by
  have bound : ((Action.leave dispatch).perform node).2.endpoint.bound = true := by
    rw [Action.perform_leave request]
    exact bound
  obtain ⟨octets, grown⟩ := Action.traffic_answerFailure request calls bound
  intro same
  rw [same] at grown
  simp at grown

theorem endsRight_iff_noted {dispatch : Dispatch} {answered : Prop}
    (request : dispatch.message.isRequest = true) (calls : error.verdict? ≠ none) :
    EndsRight network node dispatch error answered ↔
      (node.endpoint.bound = true →
        (node.endpoint.inFlight.get? dispatch.exchange = some true ↔ answered)) := by
  unfold EndsRight
  simp only [Action.perform_conclude_error request]
  cases bound : node.endpoint.bound with
  | true =>
      have different := answerFailure_ne_leave network request calls bound
      by_cases noted : node.endpoint.inFlight.get? dispatch.exchange = some true
      · simp only [noted, if_true]
        constructor
        · rintro ⟨_, unanswered⟩ _
          refine ⟨fun _ => ?_, fun _ => trivial⟩
          exact Classical.byContradiction fun none => different (unanswered none).symm
        · intro same
          exact ⟨fun _ => trivial, fun none => absurd ((same trivial).mp trivial) none⟩
      · simp only [noted, if_false]
        constructor
        · rintro ⟨done, _⟩ _
          exact ⟨False.elim, fun answered => different (done answered)⟩
        · intro same
          exact ⟨fun answered => ((same trivial).mpr answered).elim, fun _ => trivial⟩
  | false =>
      have unbound : ((Action.leave dispatch).perform node).2.endpoint.bound = false := by
        rw [Action.perform_leave request]
        exact bound
      rw [Action.perform_answerFailure_unbound unbound]
      simp

def Alone : List Event → Prop
  | [] => True
  | enter handling :: earlier =>
      (∀ other, Inside other earlier → other.exchange ≠ handling.exchange) ∧ Alone earlier
  | answer _ :: earlier => Alone earlier
  | leave _ _ :: earlier => Alone earlier

theorem inside_enter {other : Handling}
    (inside : Inside handling (.enter other :: history)) :
    handling = other ∨ Inside handling history := by
  obtain ⟨entered, stayed⟩ := inside
  rcases List.mem_cons.mp entered with same | entered
  · cases same
    exact .inl rfl
  · exact .inr ⟨entered, fun result left => stayed result (List.mem_cons_of_mem _ left)⟩

theorem inside_answer {other : Handling} :
    Inside handling (.answer other :: history) ↔ Inside handling history := by
  simp [Inside]

theorem inside_leave {other : Handling} {result : Except Error Unit} :
    Inside handling (.leave other result :: history) ↔
      handling ≠ other ∧ Inside handling history := by
  constructor
  · rintro ⟨entered, stayed⟩
    refine ⟨?_, by simpa using entered,
      fun result left => stayed result (List.mem_cons_of_mem _ left)⟩
    rintro rfl
    exact stayed result List.mem_cons_self
  · rintro ⟨different, entered, stayed⟩
    refine ⟨List.mem_cons_of_mem _ entered, fun result left => ?_⟩
    rcases List.mem_cons.mp left with same | left
    · cases same
      exact different rfl
    · exact stayed result left

theorem open_of_marked {exchange : Exchange} (marked : Marked exchange history) :
    Open exchange history := by
  induction history with
  | nil => exact marked
  | cons event earlier ih =>
      cases event with
      | enter => exact .inr (ih marked)
      | answer => exact marked.elim And.right ih
      | leave => exact ⟨marked.1, ih marked.2⟩

namespace Run

theorem entered (run : Run network start history node)
    (seen : .answer handling ∈ history ∨ ∃ result, .leave handling result ∈ history) :
    .enter handling ∈ history := by
  induction run with
  | start => simp at seen
  | enter _ _ _ _ ih => exact List.mem_cons_of_mem _ (ih (by simpa using seen))
  | answer _ inside _ ih =>
      simp only [List.mem_cons, Event.answer.injEq] at seen
      rcases seen with (rfl | seen) | ⟨result, seen⟩
      · exact List.mem_cons_of_mem _ inside.1
      · exact List.mem_cons_of_mem _ (ih (.inl seen))
      · exact List.mem_cons_of_mem _ (ih (.inr ⟨result, by simpa using seen⟩))
  | leave _ inside ih =>
      simp only [List.mem_cons, Event.leave.injEq] at seen
      rcases seen with (seen | seen) | ⟨result, ⟨rfl, _⟩ | seen⟩
      · cases seen
      · exact List.mem_cons_of_mem _ (ih (.inl seen))
      · exact List.mem_cons_of_mem _ inside.1
      · exact List.mem_cons_of_mem _ (ih (.inr ⟨result, seen⟩))
  | other _ _ ih => exact ih seen

theorem inside_of_open {exchange : Exchange} (run : Run network start history node)
    (opened : Open exchange history) :
    ∃ other, Inside other history ∧ other.exchange = exchange := by
  induction run with
  | start => exact opened.elim
  | @enter history _ handling _ earlier _ fresh _ ih =>
      rcases opened with same | opened
      · refine ⟨handling, ⟨List.mem_cons_self, fun result left => ?_⟩, same⟩
        exact fresh (earlier.entered (.inr ⟨result, by simpa using left⟩))
      · obtain ⟨other, ⟨entered, stayed⟩, same⟩ := ih opened
        exact ⟨other, ⟨List.mem_cons_of_mem _ entered, by simpa using stayed⟩, same⟩
  | answer _ _ _ ih =>
      obtain ⟨other, inside, same⟩ := ih opened
      exact ⟨other, inside_answer.mpr inside, same⟩
  | leave _ _ ih =>
      obtain ⟨other, inside, same⟩ := ih opened.2
      refine ⟨other, inside_leave.mpr ⟨?_, inside⟩, same⟩
      rintro rfl
      exact opened.1 same
  | other _ _ ih => exact ih opened

theorem unique (run : Run network start history node) (alone : Alone history) {other : Handling}
    (inside : Inside handling history) (also : Inside other history)
    (same : other.exchange = handling.exchange) : other = handling := by
  induction run with
  | start => simp [Inside] at inside
  | enter _ _ _ _ ih =>
      rcases inside_enter inside with rfl | before
      · rcases inside_enter also with rfl | before
        · rfl
        · exact absurd same (alone.1 other before)
      · rcases inside_enter also with rfl | alsoBefore
        · exact absurd same.symm (alone.1 handling before)
        · exact ih alone.2 before alsoBefore
  | answer _ _ _ ih => exact ih alone (inside_answer.mp inside) (inside_answer.mp also)
  | leave _ _ ih => exact ih alone (inside_leave.mp inside).2 (inside_leave.mp also).2
  | other _ _ ih => exact ih alone inside also

theorem open_of_inside (run : Run network start history node) (alone : Alone history)
    (inside : Inside handling history) : Open handling.exchange history := by
  induction run with
  | start => simp [Inside] at inside
  | enter _ _ _ _ ih =>
      rcases inside_enter inside with rfl | inside
      · exact .inl rfl
      · exact .inr (ih alone.2 inside)
  | answer _ _ _ ih => exact ih alone (inside_answer.mp inside)
  | leave earlier leaves ih =>
      obtain ⟨different, inside⟩ := inside_leave.mp inside
      refine ⟨fun same => different ?_, ih alone inside⟩
      exact (earlier.unique alone inside leaves same).symm
  | other _ _ ih => exact ih alone inside

theorem marked_iff_of_alone (run : Run network start history node) (alone : Alone history)
    (inside : Inside handling history) :
    Marked handling.exchange history ↔ .answer handling ∈ history := by
  induction run with
  | start => simp [Inside] at inside
  | enter earlier _ fresh _ ih =>
      rcases inside_enter inside with rfl | inside
      · constructor
        · intro marked
          -- an earlier answer would be of a request that is still inside
          obtain ⟨other, inside, same⟩ := earlier.inside_of_open (open_of_marked marked)
          exact absurd same (alone.1 other inside)
        · intro answered
          exact absurd (earlier.entered (.inl (by simpa using answered))) fresh
      · simpa [Marked] using ih alone.2 inside
  | @answer history _ _ other earlier answering _ ih =>
      have inside := inside_answer.mp inside
      by_cases same : other = handling
      · subst same
        exact iff_of_true (.inl ⟨rfl, earlier.open_of_inside alone inside⟩) List.mem_cons_self
      · have apart : other.exchange ≠ handling.exchange :=
          fun equal => same (earlier.unique alone inside answering equal)
        simpa [Marked, apart, Ne.symm same] using ih alone inside
  | @leave history _ other _ earlier leaves ih =>
      obtain ⟨different, inside⟩ := inside_leave.mp inside
      have apart : other.exchange ≠ handling.exchange :=
        fun same => different (earlier.unique alone inside leaves same).symm
      simpa [Marked, apart] using ih alone inside
  | other _ _ ih => exact ih alone inside

end Run

theorem endsRight_of_alone (run : Run network start history node)
    (vacant : start.endpoint.inFlight = .empty) (alone : Alone history)
    (inside : Inside handling history) (calls : error.verdict? ≠ none) :
    EndsRight network node handling.dispatch error (.answer handling ∈ history) := by
  rw [endsRight_iff_noted (run.isRequest inside.1) calls]
  intro _
  exact ((run.noted vacant).isMarked _).trans (run.marked_iff_of_alone alone inside)

def twoHandlers : Node Unit :=
  { endpoint := { (Endpoint.ofConfig {}).addHandlers [(32, ()), (34, ())] with bound := true } }

def ofType (number : Nat) (type : UInt8) : Handling :=
  ⟨number, ⟨default, .ofElements type 0 7 []⟩⟩

theorem answering_isRequest : (ofType 0 32).dispatch.message.isRequest = true := by decide

theorem failing_isRequest : (ofType 1 34).dispatch.message.isRequest = true := by decide

theorem ofType_ne : ofType 1 34 ≠ ofType 0 32 :=
  fun same => absurd (congrArg number same) (by decide)

/-- A failed handler of a bound endpoint ends as it should exactly if it answered its message in
case that any request of its exchange was answered since the last one of them left. -/
theorem endsRight_iff (run : Run network start history node)
    (vacant : start.endpoint.inFlight = .empty) (inside : Inside handling history)
    (calls : error.verdict? ≠ none) :
    EndsRight network node handling.dispatch error (.answer handling ∈ history) ↔
      (node.endpoint.bound = true →
        (Marked handling.exchange history ↔ .answer handling ∈ history)) := by
  rw [endsRight_iff_noted (run.isRequest inside.1) calls]
  have noted := (run.noted vacant).isMarked handling.exchange
  exact imp_congr_right fun _ => iff_congr noted Iff.rfl

theorem endsRight_iff_second :
    let answering : Handling := ofType 0 32
    let failing : Handling := ofType 1 34
    let history : List Event := [.enter failing, .answer answering, .enter answering]
    ∃ node, Run .reachable twoHandlers history node ∧
      twoHandlers.endpoint.inFlight = .empty ∧ Inside failing history ∧
      (Error.missingElement 93).verdict? ≠ none ∧
      (EndsRight .reachable node failing.dispatch (.missingElement 93) (.answer failing ∈ history) ↔
        (node.endpoint.bound = true →
          (Marked failing.exchange history ↔ .answer failing ∈ history))) := by
  intro answering failing history
  have entered :=
    Run.enter (.start : Run .reachable twoHandlers [] _) answering_isRequest (by simp) rfl
  have inside : Inside answering [.enter answering] := by simp [Inside]
  have answered := entered.answer inside (@Answers.reject _ _ _ _ 64 none rfl)
  have run := answered.enter failing_isRequest (by simp [ofType_ne]) rfl
  have inside : Inside failing history := by simp [Inside, history]
  exact ⟨_, run, rfl, inside, by decide, endsRight_iff run rfl inside (by decide)⟩

/-- Of two requests with one sequence number, one is not answered because the other one was, and one
is answered twice because the other one has left. -/
theorem not_endsRight_overlapping :
    (∃ history node, Run .reachable twoHandlers history node ∧ Inside (ofType 1 34) history ∧
      .answer (ofType 1 34) ∉ history ∧
      ((Action.conclude .reachable (ofType 1 34).dispatch (.error (.missingElement 93))).perform
        node).2.traffic = node.traffic) ∧
    ∃ history node, Run .reachable twoHandlers history node ∧ Inside (ofType 0 32) history ∧
      .answer (ofType 0 32) ∈ history ∧
      ((Action.conclude .reachable (ofType 0 32).dispatch (.error (.missingElement 1))).perform
        node).2.traffic.length = node.traffic.length + 1 := by
  have entered :=
    Run.enter (.start : Run .reachable twoHandlers [] _) answering_isRequest (by simp) rfl
  constructor
  · have inside : Inside (ofType 0 32) [.enter (ofType 0 32)] := by simp [Inside]
    have answered := entered.answer inside (@Answers.reject _ _ _ _ 64 none rfl)
    have both := answered.enter failing_isRequest (by simp [ofType_ne]) rfl
    exact ⟨_, _, both, by simp [Inside], by simp [ofType_ne], by decide⟩
  · have both := entered.enter failing_isRequest (by simp [ofType_ne]) rfl
    have inside : Inside (ofType 0 32) [.enter (ofType 1 34), .enter (ofType 0 32)] := by
      simp [Inside]
    have answered := both.answer inside (@Answers.reject _ _ _ _ 64 none rfl)
    have leaves : Inside (ofType 1 34)
        [.answer (ofType 0 32), .enter (ofType 1 34), .enter (ofType 0 32)] := by simp [Inside]
    have left := @Run.leave _ _ _ _ _ _ (.ok ()) answered leaves
    exact ⟨_, _, left, by simp [Inside, ofType_ne.symm], by simp, by decide⟩

end Handling

end TunnelControl
