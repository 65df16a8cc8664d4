import TunnelControl.Session.Inbox

namespace TunnelControl

/-- The messages of a mailbox. A place that becomes free is promised to the first who queues for
one, so that nobody overtakes. -/
structure Buffer (μ : Type) where
  capacity : Nat
  stored : List μ := []
  promised : List Ticket := []
  posting : List Ticket := []
  listener : Option Ticket := none

structure Turn where
  holder : Option Ticket := none
  taking : List Ticket := []

def enqueue (ticket : Ticket) (queue : List Ticket) : List Ticket :=
  if ticket ∈ queue then queue else queue ++ [ticket]

namespace Buffer

variable {μ : Type}

def used (buffer : Buffer μ) : Nat := buffer.stored.length + buffer.promised.length

def store (message : μ) (buffer : Buffer μ) : Attempt Bool × Buffer μ :=
  (.done true buffer.listener.toList,
    { buffer with stored := buffer.stored ++ [message], listener := none })

def post (ticket : Ticket) (message : μ) (buffer : Buffer μ) : Attempt Bool × Buffer μ :=
  if ticket ∈ buffer.promised then
    store message { buffer with promised := buffer.promised.erase ticket }
  else if buffer.used < buffer.capacity then store message buffer
  else (.queued, { buffer with posting := enqueue ticket buffer.posting })

def promise (buffer : Buffer μ) : List Ticket × Buffer μ :=
  match buffer.posting with
  | [] => ([], buffer)
  | ticket :: posting =>
      ([ticket], { buffer with promised := buffer.promised ++ [ticket], posting })

def take (ticket : Ticket) (buffer : Buffer μ) : Attempt (Option μ) × Buffer μ :=
  match buffer.stored with
  | [] => (.queued, { buffer with listener := some ticket })
  | message :: stored =>
      let (posters, buffer) := promise { buffer with stored }
      (.done (some message) posters, buffer)

def leavePosting (ticket : Ticket) (buffer : Buffer μ) : List Ticket × Buffer μ :=
  if ticket ∈ buffer.promised then promise { buffer with promised := buffer.promised.erase ticket }
  else ([], { buffer with posting := buffer.posting.erase ticket })

end Buffer

namespace Turn

def passOn (turn : Turn) : List Ticket × Turn :=
  (turn.taking.head?.toList, { holder := turn.taking.head?, taking := turn.taking.tail })

def take (ticket : Ticket) (turn : Turn) : Attempt Unit × Turn :=
  if turn.holder.all (· = ticket) then (.done () [], { turn with holder := some ticket })
  else (.queued, { turn with taking := enqueue ticket turn.taking })

def leave (ticket : Ticket) (turn : Turn) : List Ticket × Turn :=
  if turn.holder = some ticket then turn.passOn
  else ([], { turn with taking := turn.taking.erase ticket })

end Turn

abbrev Mailbox (μ : Type) := Inbox (Buffer μ) Turn

namespace Mailbox

/-- Nobody is called when an attempt to take is given up, and who made it stays the listener. -/
def channel {μ : Type} : Channel (Buffer μ) μ where
  create capacity := { capacity }
  send := Buffer.post
  receive := Buffer.take
  leaveSending := Buffer.leavePosting
  leaveReceiving _ buffer := ([], buffer)

def lock : Lock Turn where
  free := {}
  acquire := Turn.take
  release _ turn := turn.passOn
  leave := Turn.leave

def ofCapacity (capacity : Nat) : Mailbox Message := Inbox.ofCapacity channel lock capacity

instance : Inhabited (Mailbox Message) := ⟨ofCapacity 1⟩

end Mailbox

end TunnelControl
