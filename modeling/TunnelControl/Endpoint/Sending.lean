import TunnelControl.Endpoint.Basic

namespace TunnelControl

namespace Endpoint

variable {η : Type}

def markAnswered (exchange : Exchange) (endpoint : Endpoint η) : Endpoint η :=
  { endpoint with inFlight := endpoint.inFlight.modify exchange fun _ => true }

end Endpoint

namespace Node

variable {η : Type}

def hand (network : Network) (datagram : Datagram) (node : Node η) : Except Error Unit × Node η :=
  let failure := network node.traffic datagram
  let node := { node with traffic := node.traffic ++ [⟨datagram, failure⟩] }
  match failure with
  | none => (.ok (), node)
  | some error => (.error error, node)

def onEndpoint {α : Type} (change : Endpoint η → α × Endpoint η) (node : Node η) : α × Node η :=
  let (a, endpoint) := change node.endpoint
  (a, { node with endpoint })

end Node

namespace Action

variable {η : Type} (network : Network)

def bind : Action η SocketAddress :=
  update (Node.onEndpoint fun endpoint =>
    (endpoint.config.address, { endpoint with bound := true }))

def transmit (peer : SocketAddress) (message : Message) : Action η Unit := fun node =>
  match message.marshal with
  | .error error => (.error error, node)
  | .ok octets =>
      if node.endpoint.bound then node.hand network ⟨peer, octets⟩ else (.error .unbound, node)

def send (peer : SocketAddress) (message : Message) : Action η UInt32 := do
  let sequence ← update (Node.onEndpoint Endpoint.nextSequence)
  match ← outcome (transmit network peer (message.withSequence sequence)) with
  | .ok () => return sequence
  | .error error =>
      update (Node.onEndpoint fun endpoint => ((), endpoint.releaseSequence sequence))
      throw error

def respond (peer : SocketAddress) (request message : Message) : Action η Unit := do
  transmit network peer (message.withSequence request.sequence)
  update (Node.onEndpoint fun endpoint => ((), endpoint.markAnswered (peer, request.sequence)))

def replyWithCause (peer : SocketAddress) (request : Message) (verdict : Verdict) :
    Action η Unit :=
  match request.response? with
  | none => throw (.unknownMessage request.type)
  | some type =>
      transmit network peer (.ofElements type.code 0 request.sequence [.ofVerdict verdict])

def reject (peer : SocketAddress) (request : Message) (cause : UInt8)
    (offending : Option (ElementType × UInt8) := none) : Action η Unit := do
  let offending := offending.map fun (type, inst) => { type, inst }
  replyWithCause network peer request { cause, offending }
  update (Node.onEndpoint fun endpoint => ((), endpoint.markAnswered (peer, request.sequence)))

def echo (peer : SocketAddress) : Action η UInt32 := do
  let node ← get
  send network peer (.echoRequest 0 node.endpoint.config.restartCounter)

def request (type : MessageType) (peer : SocketAddress) (teid : UInt32) (elements : List Element) :
    Action η UInt32 :=
  send network peer (.ofElements type.code teid 0 elements)

end Action

end TunnelControl
