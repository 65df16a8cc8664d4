import Mathlib.Logic.Function.Basic
import TunnelControl.Session.Mailbox

namespace TunnelControl

/-- What a channel stores, and who sends or receives and has neither succeeded nor given up. -/
structure Contents (μ : Type) where
  stored : List μ := []
  sending : Ticket → Option μ := fun _ => none
  receiving : Option Ticket := none

namespace Contents

variable {μ : Type} {ticket : Ticket} {sent : Option μ} {contents : Contents μ}

def send (ticket : Ticket) (message : Option μ) (contents : Contents μ) : Contents μ :=
  { contents with sending := Function.update contents.sending ticket message }

@[simp] theorem send_stored : (contents.send ticket sent).stored = contents.stored := rfl

@[simp] theorem send_receiving : (contents.send ticket sent).receiving = contents.receiving := rfl

@[simp] theorem send_sending_self : (contents.send ticket sent).sending ticket = sent := by
  simp [send]

theorem send_sending_of_ne {other : Ticket} (distinct : other ≠ ticket) :
    (contents.send ticket sent).sending other = contents.sending other := by
  simp [send, distinct]

inductive Sent (ticket : Ticket) (message : μ) (contents : Contents μ) :
    Attempt Bool → Contents μ → Prop where
  | accepted {called : List Ticket} :
      Sent ticket message contents (.done true called)
        { contents.send ticket none with stored := contents.stored ++ [message] }
  | refused {called : List Ticket} :
      Sent ticket message contents (.done false called) (contents.send ticket none)
  | queued : Sent ticket message contents .queued (contents.send ticket (some message))

inductive Received (ticket : Ticket) (contents : Contents μ) :
    Attempt (Option μ) → Contents μ → Prop where
  | taken {called : List Ticket} {message : μ} {stored : List μ}
      (first : contents.stored = message :: stored) :
      Received ticket contents (.done (some message) called)
        { contents with stored, receiving := none }
  | closed {called : List Ticket} :
      Received ticket contents (.done none called) { contents with receiving := none }
  | queued : Received ticket contents .queued { contents with receiving := some ticket }

end Contents

namespace Channel

variable {σ μ : Type}

/-- The messages come out in the order in which they were accepted, and no more are stored than
there is room for. Whoever sends tries again with the same message, and only one task receives. -/
structure BoundedFifo (channel : Channel σ μ) (Holds : Nat → σ → Contents μ → Prop) : Prop where
  create {capacity : Nat} (room : 0 < capacity) : Holds capacity (channel.create capacity) {}
  bounded {capacity : Nat} {state : σ} {contents : Contents μ}
      (holds : Holds capacity state contents) : contents.stored.length ≤ capacity
  send {capacity : Nat} {state : σ} {contents : Contents μ} {ticket : Ticket} {message : μ}
      (holds : Holds capacity state contents)
      (same : ∀ other, contents.sending ticket = some other → other = message) :
    ∃ after, contents.Sent ticket message (channel.send ticket message state).1 after ∧
      Holds capacity (channel.send ticket message state).2 after
  receive {capacity : Nat} {state : σ} {contents : Contents μ} {ticket : Ticket}
      (holds : Holds capacity state contents)
      (alone : ∀ other, contents.receiving = some other → other = ticket) :
    ∃ after, contents.Received ticket (channel.receive ticket state).1 after ∧
      Holds capacity (channel.receive ticket state).2 after

/-- Who gives up has stored nothing and taken nothing. -/
structure CancelSafe (channel : Channel σ μ) (Holds : Nat → σ → Contents μ → Prop) : Prop where
  leaveSending {capacity : Nat} {state : σ} {contents : Contents μ} (ticket : Ticket)
      (holds : Holds capacity state contents) :
    Holds capacity (channel.leaveSending ticket state).2 (contents.send ticket none)
  leaveReceiving {capacity : Nat} {state : σ} {contents : Contents μ} {ticket : Ticket}
      (holds : Holds capacity state contents) (receives : contents.receiving = some ticket) :
    Holds capacity (channel.leaveReceiving ticket state).2 { contents with receiving := none }

end Channel

namespace Lock

variable {τ : Type}

inductive Acquired (ticket : Ticket) : Option Ticket → Attempt Unit → Option Ticket → Prop where
  | done {called : List Ticket} : Acquired ticket none (.done () called) (some ticket)
  | queued {owner : Option Ticket} : Acquired ticket owner .queued owner

/-- The lock has one owner at a time. -/
structure Exclusive (lock : Lock τ) (Owned : τ → Option Ticket → Prop) : Prop where
  free : Owned lock.free none
  acquire {state : τ} {owner : Option Ticket} {ticket : Ticket} (owned : Owned state owner)
      (other : owner ≠ some ticket) :
    ∃ after, Acquired ticket owner (lock.acquire ticket state).1 after ∧
      Owned (lock.acquire ticket state).2 after
  release {state : τ} {ticket : Ticket} (owned : Owned state (some ticket)) :
    Owned (lock.release ticket state).2 none

/-- Who gives up the attempt to acquire the lock takes it from nobody. -/
structure CancelSafe (lock : Lock τ) (Owned : τ → Option Ticket → Prop) : Prop where
  leave {state : τ} {owner : Option Ticket} {ticket : Ticket} (owned : Owned state owner)
      (other : owner ≠ some ticket) : Owned (lock.leave ticket state).2 owner

end Lock

namespace Buffer

variable {μ : Type} {capacity : Nat} {buffer : Buffer μ} {contents : Contents μ}

structure Holds (capacity : Nat) (buffer : Buffer μ) (contents : Contents μ) : Prop where
  same : buffer.capacity = capacity
  stored : buffer.stored = contents.stored
  used_le : buffer.used ≤ capacity

theorem used_erase {ticket : Ticket} (promised : ticket ∈ buffer.promised) :
    ({ buffer with promised := buffer.promised.erase ticket } : Buffer μ).used + 1 =
      buffer.used := by
  have length := List.length_erase_of_mem promised
  have pos := List.length_pos_of_mem promised
  simp only [used]
  omega

theorem holds_store (message : μ) (ticket : Ticket) (same : buffer.capacity = capacity)
    (stored : buffer.stored = contents.stored) (room : buffer.used < capacity) :
    Holds capacity (buffer.store message).2
      { contents.send ticket none with stored := contents.stored ++ [message] } := by
  refine ⟨same, ?_, ?_⟩
  · show buffer.stored ++ [message] = contents.stored ++ [message]
    rw [stored]
  · simp only [store, used, List.length_append, List.length_singleton] at room ⊢
    omega

theorem holds_promise (same : buffer.capacity = capacity)
    (stored : buffer.stored = contents.stored) (room : buffer.used < capacity) :
    Holds capacity buffer.promise.2 contents := by
  -- whether or not somebody queues for a free place, it is still used by one at most
  unfold promise
  split
  · exact ⟨same, stored, Nat.le_of_lt room⟩
  · refine ⟨same, stored, ?_⟩
    simp only [used, List.length_append, List.length_singleton] at room ⊢
    omega

theorem Holds.post (holds : Holds capacity buffer contents) (ticket : Ticket) (message : μ) :
    ∃ after, contents.Sent ticket message (buffer.post ticket message).1 after ∧
      Holds capacity (buffer.post ticket message).2 after := by
  obtain ⟨same, stored, used_le⟩ := holds
  unfold Buffer.post
  split
  · next promised =>
      have used := used_erase promised
      exact ⟨_, .accepted, holds_store message ticket same stored (by omega)⟩
  · split
    · next free =>
        exact ⟨_, .accepted, holds_store message ticket same stored (same ▸ free)⟩
    · exact ⟨_, .queued, same, stored, used_le⟩

theorem Holds.take (holds : Holds capacity buffer contents) (ticket : Ticket) :
    ∃ after, contents.Received ticket (buffer.take ticket).1 after ∧
      Holds capacity (buffer.take ticket).2 after := by
  obtain ⟨same, stored, used_le⟩ := holds
  unfold Buffer.take
  split
  · exact ⟨_, .queued, same, stored, used_le⟩
  · next message left some_stored =>
      have room : ({ buffer with stored := left } : Buffer μ).used < capacity := by
        simp only [used, some_stored, List.length_cons] at used_le ⊢
        omega
      exact ⟨_, .taken (stored ▸ some_stored), holds_promise same rfl room⟩

theorem Holds.leavePosting (holds : Holds capacity buffer contents) (ticket : Ticket) :
    Holds capacity (buffer.leavePosting ticket).2 (contents.send ticket none) := by
  obtain ⟨same, stored, used_le⟩ := holds
  unfold Buffer.leavePosting
  split
  · next promised =>
      have used := used_erase promised
      exact holds_promise same stored (by omega)
  · exact ⟨same, stored, used_le⟩

end Buffer

/-- Whoever owns the lock has the turn. The turn is passed on before its new holder owns it. -/
def Turn.Owned (turn : Turn) (owner : Option Ticket) : Prop := owner = none ∨ owner = turn.holder

namespace Mailbox

variable {μ : Type}

theorem channel_boundedFifo : (channel : Channel (Buffer μ) μ).BoundedFifo Buffer.Holds where
  create _ := ⟨rfl, rfl, Nat.zero_le _⟩
  bounded holds := by
    have used_le := holds.used_le
    rw [Buffer.used, holds.stored] at used_le
    omega
  send holds _ := holds.post _ _
  receive holds _ := holds.take _

theorem channel_cancelSafe : (channel : Channel (Buffer μ) μ).CancelSafe Buffer.Holds where
  leaveSending ticket holds := holds.leavePosting ticket
  leaveReceiving holds _ := ⟨holds.same, holds.stored, holds.used_le⟩

theorem lock_exclusive : lock.Exclusive Turn.Owned where
  free := .inl rfl
  acquire {turn owner ticket} owned other := by
    show ∃ after, Lock.Acquired ticket owner (turn.take ticket).1 after ∧
      (turn.take ticket).2.Owned after
    unfold Turn.take
    split
    · next own =>
        obtain rfl : owner = none := by
          obtain none | held := owned
          · exact none
          · cases owner with
            | none => rfl
            | some holder =>
                rw [← held] at own
                exact absurd (congrArg some (by simpa using own)) other
        exact ⟨_, .done, .inr rfl⟩
    · exact ⟨_, .queued, owned⟩
  release _ := .inl rfl

theorem lock_cancelSafe : lock.CancelSafe Turn.Owned where
  leave {turn owner ticket} owned other := by
    show (turn.leave ticket).2.Owned owner
    unfold Turn.leave
    split
    · next holds => exact .inl (owned.resolve_right fun held => other (held.trans holds))
    · exact owned

end Mailbox

end TunnelControl
