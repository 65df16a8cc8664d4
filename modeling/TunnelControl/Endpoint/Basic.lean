import TunnelControl.Code.MessageType
import TunnelControl.Config.Basic
import TunnelControl.Endpoint.Network
import TunnelControl.Session.Store

namespace TunnelControl

inductive Holder where
  | reserved
  | session (id : SessionId)
  deriving DecidableEq, Inhabited

/-- What is done with a received message. `η` are the handlers that an application adds. -/
inductive Handler (η : Type) where
  | echo
  | ignore
  | custom (handler : η)

abbrev Exchange := SocketAddress × UInt32

structure Endpoint (η : Type) where
  config : Config
  bound : Bool := false
  sequence : UInt32 := 0
  validation : Bool
  handlers : Table UInt8 (Handler η)
  byTeid : Table UInt32 Holder := .empty
  byImsi : Table String SessionId := .empty
  /-- The requests inside their handlers, and whether they were answered. -/
  inFlight : Table Exchange Bool := .empty

namespace Endpoint

variable {η : Type}

def builtIn : Table UInt8 (Handler η) :=
  .ofList [(MessageType.echoRequest.code, .echo), (MessageType.echoResponse.code, .ignore),
    (MessageType.versionNotSupportedIndication.code, .ignore)]

def ofConfig (config : Config) : Endpoint η :=
  { config, validation := config.validation, handlers := builtIn }

def groups (endpoint : Endpoint η) : Groups := endpoint.config.groups

def interface (endpoint : Endpoint η) : UInt8 := endpoint.config.interface

def addHandlers (handlers : List (UInt8 × η)) (endpoint : Endpoint η) : Endpoint η :=
  { endpoint with
    handlers := endpoint.handlers.insertAll (handlers.map fun (type, h) => (type, .custom h)) }

def localAddress (endpoint : Endpoint η) : Except Error SocketAddress :=
  if endpoint.bound then .ok endpoint.config.address else .error .unbound

def maxSequence : UInt32 := Header.sequenceBound - 1

def nextSequence (endpoint : Endpoint η) : UInt32 × Endpoint η :=
  let sequence := if maxSequence ≤ endpoint.sequence then 0 else endpoint.sequence + 1
  (sequence, { endpoint with sequence })

/-- Takes back a number that was not used. Once another number was given out after it, it is lost,
so that no number is given out twice. -/
def releaseSequence (sequence : UInt32) (endpoint : Endpoint η) : Endpoint η :=
  if endpoint.sequence = sequence then
    { endpoint with sequence := if sequence = 0 then maxSequence else sequence - 1 }
  else endpoint

end Endpoint

structure Node (η : Type) where
  endpoint : Endpoint η
  sessions : Sessions := {}
  traffic : Traffic := []

abbrev Action (η α : Type) := ExceptT Error (StateM (Node η)) α

namespace Action

variable {η α : Type}

def perform (action : Action η α) (node : Node η) : Except Error α × Node η := action node

def outcome (action : Action η α) : Action η (Except Error α) := fun node =>
  let (result, node) := action node
  (.ok result, node)

def update (change : Node η → α × Node η) : Action η α := fun node =>
  let (a, node) := change node
  (.ok a, node)

def attempt (change : Node η → Except Error (α × Node η)) : Action η α := fun node =>
  match change node with
  | .ok (a, node) => (.ok a, node)
  | .error error => (.error error, node)

variable {β : Type}

@[simp] theorem perform_pure (a : α) (node : Node η) :
    perform (pure a) node = (.ok a, node) := rfl

@[simp] theorem perform_throw (error : Error) (node : Node η) :
    perform (throw error : Action η α) node = (.error error, node) := rfl

@[simp] theorem perform_get (node : Node η) : perform get node = (.ok node, node) := rfl

theorem perform_bind (action : Action η α) (next : α → Action η β) (node : Node η) :
    perform (action >>= next) node =
      match perform action node with
      | (.ok a, after) => perform (next a) after
      | (.error error, after) => (.error error, after) := by
  change (match action node with | (result, after) => ExceptT.bindCont next result after) = _
  unfold perform
  cases action node with
  | mk result after => cases result <;> rfl

@[simp] theorem perform_outcome (action : Action η α) (node : Node η) :
    perform (outcome action) node = (.ok (perform action node).1, (perform action node).2) := rfl

@[simp] theorem perform_update (change : Node η → α × Node η) (node : Node η) :
    perform (update change) node = (.ok (change node).1, (change node).2) := rfl

theorem perform_attempt (change : Node η → Except Error (α × Node η)) (node : Node η) :
    perform (attempt change) node =
      match change node with
      | .ok (a, after) => (.ok a, after)
      | .error error => (.error error, node) := rfl

end Action

end TunnelControl
