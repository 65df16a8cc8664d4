import TunnelControl.Session.Bearer
import TunnelControl.Session.Mailbox
import TunnelControl.Session.Subscriber

namespace TunnelControl

structure Session where
  peer : SocketAddress
  subscriber : Subscriber
  teids : Table UInt8 UInt32 := .empty
  bearers : Bearers := .initial
  active : Bool := false
  removed : Bool := false
  inbox : Mailbox Message
  deriving Inhabited

namespace Session

def defaultCapacity : Nat := 8

def ofSubscriber (peer : SocketAddress) (subscriber : Subscriber)
    (capacity : Nat := defaultCapacity) : Session :=
  { peer, subscriber, inbox := .ofCapacity capacity }

def imsi (session : Session) : String := session.subscriber.imsi

def activate (session : Session) : Except Error Session :=
  if session.imsi = "" then .error .noIdentity else .ok { session with active := true }

def deactivate (session : Session) : Session := { session with active := false }

def retire (session : Session) : Session := { session with removed := true }

def updateSubscriber (change : Subscriber → Subscriber) (session : Session) : Session :=
  { session with subscriber := change session.subscriber }

def addTeid (interface : UInt8) (teid : UInt32) (session : Session) : Session :=
  { session with teids := session.teids.insert interface teid }

def eraseTeid (interface : UInt8) (session : Session) : Session :=
  { session with teids := session.teids.erase interface }

def teid? (interface : UInt8) (session : Session) : Option UInt32 := session.teids.get? interface

def teid (interface : UInt8) (session : Session) : Except Error UInt32 :=
  match session.teid? interface with
  | some teid => .ok teid
  | none => .error (.notFound (.teid interface))

def defaultBearer (session : Session) : Bearer := session.bearers.default

def updateBearers (change : Bearers → Bearers) (session : Session) : Session :=
  { session with bearers := change session.bearers }

end Session

end TunnelControl
