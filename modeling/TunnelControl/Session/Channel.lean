namespace TunnelControl

abbrev Ticket := Nat

inductive Attempt (α : Type) where
  | done (value : α) (called : List Ticket)
  /-- It is to be made again once the task is called. -/
  | queued
  deriving DecidableEq, Inhabited

/-- The operations of a bounded channel whose states are `σ`. An operation never waits: it is an
attempt, which the same task makes again or gives up. Whoever gives up tells whom to call. -/
structure Channel (σ μ : Type) where
  create : (capacity : Nat) → σ
  /-- Tells whether the message was accepted. It is not once the channel is closed. -/
  send : Ticket → μ → σ → Attempt Bool × σ
  /-- Gives no message once the channel is closed. -/
  receive : Ticket → σ → Attempt (Option μ) × σ
  leaveSending : Ticket → σ → List Ticket × σ
  leaveReceiving : Ticket → σ → List Ticket × σ

structure Lock (τ : Type) where
  free : τ
  acquire : Ticket → τ → Attempt Unit × τ
  release : Ticket → τ → List Ticket × τ
  leave : Ticket → τ → List Ticket × τ

end TunnelControl
