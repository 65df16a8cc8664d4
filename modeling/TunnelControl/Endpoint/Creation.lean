import TunnelControl.Endpoint.Index
import TunnelControl.Endpoint.Sending

namespace TunnelControl

structure Creation where
  session : SessionId
  teid : Option UInt32
  indexed : Bool
  deriving DecidableEq, Inhabited

namespace Node

variable {η : Type}

def describe (peer : SocketAddress) (request : Body) (node : Node η) :
    Except Error (SessionId × Node η) := do
  let capacity := node.endpoint.config.inboxCapacity.toNat
  return node.addSession (← Session.ofRequest capacity peer request)

/-- Makes the session of a request and indexes it, where its identifier is reserved and no other
session of its subscriber is indexed. -/
def prepare (peer : SocketAddress) (request : Body) (node : Node η) :
    Except Error (Creation × Node η) := do
  let (session, node) ← node.describe peer request
  let teid := (node.teidOf? session).filter node.isReserved
  match teid with
  | none => return ({ session, teid, indexed := false }, node)
  | some reserved =>
      let (indexed, node) ← node.index reserved session false
      return ({ session, teid, indexed }, node)

def complete (creation : Creation) (node : Node η) : Except Error (Node η) :=
  match creation.teid with
  | some teid => if creation.indexed then .ok node else node.register teid creation.session
  | none => .ok node

def abandon (creation : Creation) (node : Node η) : Node η :=
  match creation.teid with
  | some teid => if creation.indexed then node.unregister teid creation.session else node
  | none => node

end Node

namespace Action

variable {η : Type} (network : Network)

def createSession (peer : SocketAddress) (elements : List Element) :
    Action η (SessionId × UInt32) := do
  let message := Message.ofElements MessageType.createSessionRequest.code 0 0 elements
  let creation ← attempt (Node.prepare peer message.body)
  match ← outcome (send network peer message) with
  | .ok sequence =>
      attempt fun node => return ((), ← node.complete creation)
      return (creation.session, sequence)
  | .error error =>
      update fun node => ((), node.abandon creation)
      throw error

end Action

end TunnelControl
