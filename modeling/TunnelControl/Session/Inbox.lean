import TunnelControl.Message.Basic
import TunnelControl.Session.Channel

namespace TunnelControl

def Message.asReply (sequence : UInt32) (message : Message) : Except Error Message :=
  if message.sequence = sequence then .ok message
  else .error (.outOfSequence sequence message.sequence)

/-- Messages that one task hands to another. The lock keeps those apart who wait for one. -/
structure Inbox (σ τ : Type) where
  channel : σ
  lock : τ

namespace Inbox

inductive Call where
  | send (message : Message)
  /-- Waits for the lock, to receive the reply to a request. -/
  | lock (sequence : UInt32)
  /-- Holds the lock. -/
  | receive (sequence : UInt32)

def Call.deliver (message : Message) : Call := .send message

def Call.awaitReply (sequence : UInt32) : Call := .lock sequence

inductive Ending where
  | delivered (message : Message)
  | undelivered (message : Message)
  | taken (sequence : UInt32) (message : Message)
  | missed (sequence : UInt32)

/-- What the task is told. Who delivers gets no message. -/
def Ending.result : Ending → Except Error (Option Message)
  | delivered _ => .ok none
  | taken sequence message => some <$> message.asReply sequence
  | undelivered _ | missed _ => .error .timeout

inductive Progress where
  | ends (ending : Ending)
  | waits (call : Call)

variable {σ τ : Type}

def ofCapacity (channel : Channel σ Message) (lock : Lock τ) (capacity : Nat) : Inbox σ τ :=
  ⟨channel.create (max capacity 1), lock.free⟩

abbrev Outcome (σ τ : Type) := Progress × List Ticket × Inbox σ τ

variable (channel : Channel σ Message) (lock : Lock τ) (ticket : Ticket)

def send (message : Message) (inbox : Inbox σ τ) : Outcome σ τ :=
  match channel.send ticket message inbox.channel with
  | (.done accepted called, state) =>
      (.ends (if accepted then .delivered message else .undelivered message), called,
        { inbox with channel := state })
  | (.queued, state) => (.waits (.send message), [], { inbox with channel := state })

def receive (sequence : UInt32) (inbox : Inbox σ τ) : Outcome σ τ :=
  match channel.receive ticket inbox.channel with
  | (.done message called, state) =>
      let (more, turn) := lock.release ticket inbox.lock
      (.ends (message.elim (.missed sequence) (.taken sequence)), called ++ more, ⟨state, turn⟩)
  | (.queued, state) => (.waits (.receive sequence), [], { inbox with channel := state })

def acquire (sequence : UInt32) (inbox : Inbox σ τ) : Outcome σ τ :=
  match lock.acquire ticket inbox.lock with
  | (.done _ called, turn) =>
      let (progress, more, inbox) :=
        receive channel lock ticket sequence { inbox with lock := turn }
      (progress, called ++ more, inbox)
  | (.queued, turn) => (.waits (.lock sequence), [], { inbox with lock := turn })

def attempt (inbox : Inbox σ τ) : Call → Outcome σ τ
  | .send message => send channel ticket message inbox
  | .lock sequence => acquire channel lock ticket sequence inbox
  | .receive sequence => receive channel lock ticket sequence inbox

def giveUp (inbox : Inbox σ τ) : Call → Ending × List Ticket × Inbox σ τ
  | .send message =>
      let (called, state) := channel.leaveSending ticket inbox.channel
      (.undelivered message, called, { inbox with channel := state })
  | .lock sequence =>
      let (called, turn) := lock.leave ticket inbox.lock
      (.missed sequence, called, { inbox with lock := turn })
  | .receive sequence =>
      -- What is dropped first is the attempt to receive, then the guard of the lock.
      let (called, state) := channel.leaveReceiving ticket inbox.channel
      let (more, turn) := lock.release ticket inbox.lock
      (.missed sequence, called ++ more, ⟨state, turn⟩)

end Inbox

end TunnelControl
