import Mathlib.Logic.Relation
import TunnelControl.Proofs.Session.Inbox
import TunnelControl.Proofs.Session.Request
import TunnelControl.Scenario.Schedule

namespace TunnelControl

open Inbox

structure Handover (σ τ : Type) where
  inbox : Inbox σ τ
  waiting : Ticket → Option Inbox.Call := fun _ => none
  history : List Ending := []

namespace Handover

variable {σ τ : Type} {channel : Channel σ Message} {lock : Lock τ}
  {Holds : Nat → σ → Contents Message → Prop} {Owned : τ → Option Ticket → Prop}
  {capacity : Nat} {state after : Handover σ τ} {contents : Contents Message}

def accepted (state : Handover σ τ) : List Message := state.history.filterMap Ending.accepted?

def taken (state : Handover σ τ) : List Message := state.history.filterMap Ending.taken?

def start (channel : Channel σ Message) (lock : Lock τ) (capacity : Nat) : Handover σ τ where
  inbox := .ofCapacity channel lock capacity

def await (ticket : Ticket) (call : Inbox.Call) (state : Handover σ τ) : Handover σ τ :=
  { state with waiting := Function.update state.waiting ticket (some call) }

def advance (ticket : Ticket) (state : Handover σ τ) (outcome : Outcome σ τ) : Handover σ τ where
  inbox := outcome.2.2
  waiting := Function.update state.waiting ticket outcome.1.call?
  history := state.history ++ outcome.1.ending?.toList

/-- Tasks call, get on with their calls whenever they like, and run out of time whenever they
wait. -/
inductive Step (channel : Channel σ Message) (lock : Lock τ) (state : Handover σ τ) :
    Handover σ τ → Prop where
  | deliver (ticket : Ticket) (message : Message) (free : state.waiting ticket = none) :
      Step channel lock state (state.await ticket (.deliver message))
  | awaitReply (ticket : Ticket) (sequence : UInt32) (free : state.waiting ticket = none) :
      Step channel lock state (state.await ticket (.awaitReply sequence))
  | attempt (ticket : Ticket) {call : Inbox.Call} (waits : state.waiting ticket = some call) :
      Step channel lock state
        (state.advance ticket (state.inbox.attempt channel lock ticket call))
  | timeout (ticket : Ticket) {call : Inbox.Call} (waits : state.waiting ticket = some call) :
      Step channel lock state
        (state.advance ticket
          (.ends (state.inbox.giveUp channel lock ticket call).1,
            (state.inbox.giveUp channel lock ticket call).2))

abbrev Run (channel : Channel σ Message) (lock : Lock τ) : Handover σ τ → Handover σ τ → Prop :=
  Relation.ReflTransGen (Step channel lock)

structure Sound (Holds : Nat → σ → Contents Message → Prop) (Owned : τ → Option Ticket → Prop)
    (capacity : Nat) (state : Handover σ τ) (contents : Contents Message) : Prop where
  fits : Fits Holds Owned capacity state.inbox contents
  agrees : ∀ ticket, Agrees contents ticket (state.waiting ticket)
  conserves : state.accepted = state.taken ++ contents.stored

theorem Sound.await (sound : Sound Holds Owned capacity state contents) {ticket : Ticket}
    {call : Inbox.Call} (free : state.waiting ticket = none)
    (begins : ∀ sequence, call ≠ .receive sequence) :
    Sound Holds Owned capacity (state.await ticket call) contents := by
  refine ⟨sound.fits, fun other => ?_, sound.conserves⟩
  have agrees := sound.agrees other
  obtain rfl | distinct := eq_or_ne other ticket
  · rw [free] at agrees
    refine ⟨fun message sending => ?_, ?_⟩
    · cases agrees.sends message sending
    · simpa [Handover.await, begins] using agrees.receives
  · rwa [show (state.await ticket call).waiting other = state.waiting other from
      Function.update_of_ne distinct _ _]

theorem Sound.advance (sound : Sound Holds Owned capacity state contents) {ticket : Ticket}
    {call : Inbox.Call} {outcome : Outcome σ τ} {after : Contents Message}
    (waits : state.waiting ticket = some call)
    (shifts : Shifts ticket contents call outcome.1 after)
    (fits : Fits Holds Owned capacity outcome.2.2 after) :
    Sound Holds Owned capacity (state.advance ticket outcome) after := by
  refine ⟨fits, fun other => ?_, ?_⟩
  · have agrees := sound.agrees other
    obtain rfl | distinct := eq_or_ne other ticket
    · rw [show (state.advance other outcome).waiting other = outcome.1.call? from
        Function.update_self _ _ _]
      exact shifts.agrees_own (waits ▸ agrees)
    · rw [show (state.advance ticket outcome).waiting other = state.waiting other from
        Function.update_of_ne distinct _ _]
      exact shifts.agrees_other distinct agrees
  · have conserves := sound.conserves
    have moved := shifts.conserves
    unfold accepted taken at conserves ⊢
    simp only [Handover.advance, List.filterMap_append, conserves, List.append_assoc, moved]

theorem Step.sound (fifo : channel.BoundedFifo Holds) (safe : channel.CancelSafe Holds)
    (exclusive : lock.Exclusive Owned) (unlocked : lock.CancelSafe Owned)
    (step : Step channel lock state after) (sound : Sound Holds Owned capacity state contents) :
    ∃ contents, Sound Holds Owned capacity after contents := by
  cases step with
  | deliver ticket message free => exact ⟨contents, sound.await free fun _ same => by cases same⟩
  | awaitReply ticket sequence free =>
      exact ⟨contents, sound.await free fun _ same => by cases same⟩
  | attempt ticket waits =>
      obtain ⟨after, shifts, fits⟩ :=
        attempt_shifts fifo exclusive sound.fits (waits ▸ sound.agrees ticket)
      exact ⟨after, sound.advance waits shifts fits⟩
  | timeout ticket waits =>
      obtain ⟨after, shifts, fits⟩ :=
        giveUp_shifts safe exclusive unlocked sound.fits (waits ▸ sound.agrees ticket)
      exact ⟨after, sound.advance waits shifts fits⟩

theorem Run.sound (fifo : channel.BoundedFifo Holds) (safe : channel.CancelSafe Holds)
    (exclusive : lock.Exclusive Owned) (unlocked : lock.CancelSafe Owned)
    (run : Run channel lock state after) (sound : Sound Holds Owned capacity state contents) :
    ∃ contents, Sound Holds Owned capacity after contents := by
  induction run with
  | refl => exact ⟨contents, sound⟩
  | tail _ step ih =>
      obtain ⟨contents, sound⟩ := ih
      exact step.sound fifo safe exclusive unlocked sound

theorem sound_start (fifo : channel.BoundedFifo Holds) (exclusive : lock.Exclusive Owned)
    (capacity : Nat) :
    Sound Holds Owned (max capacity 1) (start channel lock capacity) {} where
  fits := ⟨fifo.create (by omega), exclusive.free⟩
  agrees ticket := ⟨by simp, by simp [start]⟩
  conserves := rfl

/-- However calls and timeouts follow on each other, the messages that were taken are the first ones
of those that were accepted, and the others are still in the channel, which stores no more than
there is room for. Whoever took a message is told it or, if it is not the reply that was awaited,
its number; whoever ran out of time has had no message accepted and has taken none. -/
theorem handed_over_in_order (fifo : channel.BoundedFifo Holds) (safe : channel.CancelSafe Holds)
    (exclusive : lock.Exclusive Owned) (unlocked : lock.CancelSafe Owned)
    (run : Run channel lock (start channel lock capacity) state) :
    state.taken <+: state.accepted ∧
    (∃ contents, Holds (max capacity 1) state.inbox.channel contents ∧
      state.accepted = state.taken ++ contents.stored ∧
      contents.stored.length ≤ max capacity 1) ∧
    ∀ ending ∈ state.history,
      (∀ sequence message, ending = .taken sequence message →
        ending.result = if message.sequence = sequence then .ok (some message)
          else .error (.outOfSequence sequence message.sequence)) ∧
      (∀ message, ending.result = .ok (some message) →
        ∃ sequence, ending = .taken sequence message ∧ message.sequence = sequence) ∧
      (ending.result = .error .timeout → ending.accepted? = none ∧ ending.taken? = none) := by
  obtain ⟨contents, sound⟩ :=
    run.sound fifo safe exclusive unlocked (sound_start fifo exclusive capacity)
  have holds := sound.fits.holds
  refine ⟨⟨_, sound.conserves.symm⟩, ⟨contents, holds, sound.conserves, fifo.bounded holds⟩,
    fun ending _ => ⟨?_, fun _ => Ending.taken_of_result, Ending.nothing_of_timeout⟩⟩
  rintro sequence message rfl
  exact Ending.result_taken sequence message

theorem handed_over_in_order_late :
    let first := Message.echoRequest 6 0
    let second := Message.echoRequest 7 0
    ∃ state, Run Mailbox.channel Mailbox.lock (start Mailbox.channel Mailbox.lock 0) state ∧
      state.history = [.delivered first, .taken 7 first, .undelivered second] ∧
      state.taken = [first] ∧ state.taken <+: state.accepted ∧
      (Ending.taken 7 first).result = .error (.outOfSequence 7 6) := by
  intro first second
  let began := start Mailbox.channel Mailbox.lock 0
  have accepted : Run Mailbox.channel Mailbox.lock began _ :=
    (Relation.ReflTransGen.single (.deliver 1 first rfl)).tail (.attempt 1 rfl)
  have waited : Run Mailbox.channel Mailbox.lock began _ :=
    (accepted.tail (.deliver 2 second rfl)).tail (.attempt 2 rfl)
  have taken : Run Mailbox.channel Mailbox.lock began _ :=
    (waited.tail (.awaitReply 3 7 rfl)).tail (.attempt 3 rfl)
  obtain ⟨state, run, history⟩ : ∃ state, Run Mailbox.channel Mailbox.lock began state ∧
      state.history = [.delivered first, .taken 7 first, .undelivered second] :=
    ⟨_, taken.tail (.timeout 2 rfl), rfl⟩
  obtain ⟨prefixed, _, told⟩ := handed_over_in_order Mailbox.channel_boundedFifo
    Mailbox.channel_cancelSafe Mailbox.lock_exclusive Mailbox.lock_cancelSafe run
  rw [history] at told
  have some_taken : state.taken = [first] := congrArg (List.filterMap Ending.taken?) history
  have member : Ending.taken 7 first ∈ [.delivered first, .taken 7 first, .undelivered second] :=
    List.mem_cons_of_mem _ List.mem_cons_self
  exact ⟨state, run, history, some_taken, prefixed, (told _ member).1 7 first rfl⟩

theorem inbox_ofSubscriber (peer : SocketAddress) (subscriber : Subscriber) (capacity : Nat) :
    (Session.ofSubscriber peer subscriber capacity).inbox =
      (start Mailbox.channel Mailbox.lock capacity).inbox :=
  rfl

theorem inbox_ofRequest {session : Session} {peer : SocketAddress} {request : Body}
    (described : Session.ofRequest capacity peer request = .ok session) :
    session.inbox = (start Mailbox.channel Mailbox.lock capacity).inbox := by
  obtain ⟨_, _, _, _, _, _, _, _, rfl⟩ := Session.ofRequest_eq_ok.mp described
  rfl

section Tasks

open Scenario (Schedule Activity)

variable {schedule : Schedule} {activity : Activity} {id : SessionId} {call : Inbox.Call}
  {own : Handover (Buffer Message) Turn}

theorem world_call (schedule : Schedule) (ticket : Ticket) :
    (schedule.call ticket).world = schedule.world := by
  unfold Schedule.call
  split <;> rfl

theorem world_calls (called : List Ticket) (schedule : Schedule) :
    (called.foldl Schedule.call schedule).world = schedule.world := by
  induction called generalizing schedule with
  | nil => rfl
  | cons ticket called ih => exact (ih _).trans (world_call schedule ticket)

theorem inbox_put (schedule : Schedule) (id : SessionId) (inbox : Mailbox Message)
    (called : List Ticket) :
    ((called.foldl Schedule.call (schedule.putInbox id inbox)).world.sessions.get id).inbox =
      inbox := by
  rw [world_calls]
  simp only [Schedule.putInbox, Sessions.get_modify, if_true]

theorem suspended (schedule : Schedule) (activity : Activity) (deadline : Option Nat) :
    (schedule.suspend activity deadline).active = none ∧
      (schedule.suspend activity deadline).world = schedule.world ∧
      activity ∈ (schedule.suspend activity deadline).ready ++
        (schedule.suspend activity deadline).waiting := by
  unfold Schedule.suspend
  simp only
  split <;> simp

inductive Pursued (activity : Activity) (deadline : Option Nat) (id : SessionId)
    (state after : Handover (Buffer Message) Turn) (next : Schedule) : Prop where
  | waits (call : Inbox.Call) (idle : next.active = none)
      (suspended : { activity with control := .await (.call id call) deadline } ∈
        next.ready ++ next.waiting)
      (waiting : after.waiting = Function.update state.waiting activity.ticket (some call))
      (same : after.history = state.history)
  | ends (ending : Ending)
      (told : next.active = some { activity with
        control := .give (.ofExcept (·.elim .done .message) ending.result) })
      (waiting : after.waiting = Function.update state.waiting activity.ticket none)
      (ended : after.history = state.history ++ [ending])

/-- What a task of a schedule does at an inbox consists of steps. -/
theorem retry_steps (deadline : Option Nat)
    (same : own.inbox = (schedule.world.sessions.get id).inbox)
    (waits : own.waiting activity.ticket = some call) :
    ∃ after, Run Mailbox.channel Mailbox.lock own after ∧
      ((schedule.retry activity deadline (.call id call)).world.sessions.get id).inbox =
        after.inbox ∧
      Pursued activity deadline id own after
        (schedule.retry activity deadline (.call id call)) := by
  have step : Step Mailbox.channel Mailbox.lock own _ := .attempt _ waits
  rw [same] at step
  show ∃ after, _ ∧
    ((schedule.pursue activity deadline id call).world.sessions.get id).inbox = after.inbox ∧
      Pursued activity deadline id own after (schedule.pursue activity deadline id call)
  unfold Schedule.pursue
  simp only
  split
  · next ending called inbox attempted =>
      rw [attempted] at step
      exact ⟨_, .single step, inbox_put schedule id inbox called, .ends ending rfl rfl rfl⟩
  · next pending called inbox attempted =>
      rw [attempted] at step
      split
      · have waits : (own.advance activity.ticket (.waits pending, called, inbox)).waiting
            activity.ticket = some pending := Function.update_self ..
        have timeout : Step Mailbox.channel Mailbox.lock _ _ := .timeout _ waits
        refine ⟨_, .tail (.single step) timeout, inbox_put _ id _ _,
          .ends _ rfl (Function.update_idem ..) ?_⟩
        exact congrArg (· ++ _) (List.append_nil own.history)
      · obtain ⟨idle, world, found⟩ := suspended
          (called.foldl Schedule.call (schedule.putInbox id inbox))
          { activity with control := .await (.call id pending) deadline } deadline
        refine ⟨_, .single step, ?_, .waits pending idle found rfl (List.append_nil _)⟩
        rw [world]
        exact inbox_put schedule id inbox called

end Tasks

end Handover

end TunnelControl
