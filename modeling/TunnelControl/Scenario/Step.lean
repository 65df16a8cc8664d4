import TunnelControl.Endpoint.Creation
import TunnelControl.Endpoint.Dispatch

namespace TunnelControl.Scenario

inductive Peer where
  | address (address : SocketAddress)
  | sender
  deriving DecidableEq, Inhabited

inductive Source where
  | given (message : Except Error Message)
  | octets (octets : Octets)
  | received (change : Message → Message)
  /-- A datagram that was sent before, by its number from zero, read and changed. -/
  | sent (index : Nat) (groups : Groups) (change : Message → Message)

inductive EndpointStep where
  | bind
  | localAddress
  | mint (ipv4 : Option Ipv4) (ipv6 : Option Ipv6)
  | release (teid : UInt32)
  | validate (on : Bool)
  | send (peer : Peer) (message : Source)
  | respond (peer : Peer) (request message : Source)
  | reject (peer : Peer) (request : Source) (cause : UInt8) (offending : Option (UInt8 × UInt8))
  | echo (peer : Peer)
  | request (type : MessageType) (peer : Peer) (teid : UInt32)
      (elements : Except Error (List Element))
  | createSession (name : String) (peer : Peer) (elements : Except Error (List Element))
  | describe (name : String) (peer : Peer) (request : Source)
  | register (teid : UInt32) (session : String)
  | remove (session : String)
  | findTeid (teid : UInt32) (peer : Peer)
  | findImsi (imsi : String)
  | imsiOfTeid (teid : UInt32) (peer : Peer)
  | subscribers

inductive SessionStep where
  | dump
  | activate
  | deactivate
  | updateSubscriber (change : Subscriber → Subscriber)
  | addTeid (interface : UInt8) (teid : UInt32)
  | teid (interface : UInt8)
  | addBearer (name : String) (bearer : Bearer)
  | updateBearer (name : String) (change : Bearer → Bearer)
  | removeBearer (name : String)
  | removeBearerEbi (ebi : UInt8)
  | bearer (name : String)
  | bearerEbi (ebi : UInt8)
  | defaultBearer
  | bearerNameEbi (ebi : UInt8)
  | bearerNames

/-- A step. An endpoint that is not named is that of the running handler. -/
inductive Step where
  | openEndpoint (name : String) (config : Config) (bind : Bool)
  | endpoint (name : Option String) (step : EndpointStep)
  | addHandlers (endpoint : Option String) (handlers : List (UInt8 × List Step))
  | handle (endpoint : Option String) (peer : Peer) (message : Source)
  | serve (endpoint : Option String) (datagrams : List (SocketAddress × Octets))
  | openSession (name : String) (peer : Peer) (subscriber : Subscriber)
      (endpoint : Option String) (capacity : Option Nat)
  | session (name : String) (step : SessionStep)
  | deliver (session : String) (message : Source) (limit : Nat)
  | awaitReply (session : String) (sequence : UInt32) (limit : Nat)
  | join (steps : List Step)
  | bodyAs (type : MessageType) (message : Source)
  | fail (error : Error)
  | tolerant (step : Step)

abbrev Program := List Step

structure Standing where
  endpoint : String
  sequence : UInt32
  sessions : Nat
  bearers : Nat
  deriving DecidableEq, Inhabited

structure Call (ρ : Type) where
  handler : UInt8
  peer : SocketAddress
  message : Message
  replies : List ρ

structure Report (ρ : Type) where
  sent : List Datagram
  calls : List (Call ρ)
  standings : List Standing

inductive Reply where
  | failure (error : Error)
  | done
  | flag (value : Bool)
  | number (value : Nat)
  | text (value : Option String)
  | texts (values : List String)
  | counted (names : List String)
  | element (value : Option Element)
  | bound
  | address (value : SocketAddress)
  | opened (config : Config) (validation bound : Bool)
  | bearer (value : Bearer)
  | session (value : Session)
  | created (sequence : UInt32) (value : Session)
  | message (value : Message)
  | all (replies : List Reply)
  | reports (values : List (Report Reply))

inductive Missing where
  | endpoint
  | session
  | sender
  | message
  | datagram
  deriving DecidableEq, Inhabited

inductive Fault where
  | missing (what : Missing)
  | undelivered
  | endless
  deriving DecidableEq, Inhabited

instance : Inhabited Reply := ⟨.done⟩

namespace Reply

def outcome : Reply → Except Error Unit
  | failure error => .error error
  | _ => .ok ()

def ofExcept {α : Type} (reply : α → Reply) : Except Error α → Reply
  | .ok a => reply a
  | .error error => failure error

end Reply

end TunnelControl.Scenario
