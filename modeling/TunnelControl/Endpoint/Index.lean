import TunnelControl.Endpoint.Basic
import TunnelControl.Session.Request

/-!
Removal looks a session up by what it says of itself. If it records no identifier, all entries of
sessions of the same subscriber are dropped.
-/

namespace TunnelControl

namespace Node

variable {η : Type}

def session (node : Node η) (id : SessionId) : Session := node.sessions.get id

def updateSession (id : SessionId) (change : Session → Session) (node : Node η) : Node η :=
  { node with sessions := node.sessions.modify id change }

def teidOf? (node : Node η) (id : SessionId) : Option UInt32 :=
  (node.session id).teid? node.endpoint.interface

def findTeid (node : Node η) (teid : UInt32) (peer : SocketAddress) : Except Error SessionId :=
  match node.endpoint.byTeid.get? teid with
  | some (.session id) =>
      if (node.session id).peer = peer then .ok id else .error (.unknownTeid teid)
  | _ => .error (.unknownTeid teid)

def findImsi (node : Node η) (imsi : String) : Except Error SessionId :=
  match node.endpoint.byImsi.get? imsi with
  | some id => .ok id
  | none => .error (.unknownImsi imsi)

def indexed (node : Node η) : List SessionId := node.endpoint.byImsi.values

def bearerCount (node : Node η) : Nat :=
  node.indexed.foldr (fun id count => (node.session id).bearers.size + count) 0

def firstUsable (usable : UInt32 → Bool) : (attempts : Nat) → (draw : Nat → UInt32) → Option UInt32
  | 0, _ => none
  | attempts + 1, draw =>
      if usable (draw 0) then some (draw 0)
      else firstUsable usable attempts fun i => draw (i + 1)

/-- Reserves the first identifier drawn that is not zero and not in use. After as many draws as the
settings allow it gives up. -/
def mint (draw : Nat → UInt32) (node : Node η) : Option UInt32 × Node η :=
  let usable (teid : UInt32) := teid ≠ 0 && !node.endpoint.byTeid.contains teid
  match firstUsable usable node.endpoint.config.mintAttempts.toNat draw with
  | none => (none, node)
  | some teid =>
      (some teid,
        { node with endpoint.byTeid := node.endpoint.byTeid.insert teid .reserved })

def isReserved (node : Node η) (teid : UInt32) : Bool :=
  node.endpoint.byTeid.get? teid = some .reserved

def release (teid : UInt32) (node : Node η) : Bool × Node η :=
  (node.isReserved teid,
    { node with endpoint.byTeid := node.endpoint.byTeid.eraseEntry teid .reserved })

def addSession (session : Session) (node : Node η) : SessionId × Node η :=
  let (id, sessions) := node.sessions.add session
  (id, { node with sessions })

def unindex (id : SessionId) (node : Node η) : Node η :=
  let imsi := (node.session id).imsi
  let byTeid := match node.teidOf? id with
    | some teid => node.endpoint.byTeid.eraseEntry teid (.session id)
    | none => node.endpoint.byTeid.filter fun _ holder =>
        match holder with
        | .reserved => true
        | .session other => (node.session other).imsi ≠ imsi
  { node with
    endpoint.byImsi := node.endpoint.byImsi.eraseEntry imsi id
    endpoint.byTeid := byTeid }

def retire (id : SessionId) (node : Node η) : Node η :=
  (node.updateSession id Session.retire).unindex id

def isUsable (node : Node η) (teid : UInt32) (id : SessionId) : Bool :=
  match node.endpoint.byTeid.get? teid with
  | some .reserved => true
  | some (.session holder) => holder = id
  | none => false

def enter (teid : UInt32) (id : SessionId) (node : Node η) : Node η :=
  let byTeid := match node.teidOf? id with
    | some old =>
        if old = teid then node.endpoint.byTeid
        else node.endpoint.byTeid.eraseEntry old (.session id)
    | none => node.endpoint.byTeid
  { node with
    endpoint.byTeid := byTeid.insert teid (.session id)
    endpoint.byImsi := node.endpoint.byImsi.insert (node.session id).imsi id
    sessions := node.sessions.modify id (·.addTeid node.endpoint.interface teid) }

/-- Indexes a session under an identifier. Another session of the same subscriber is retired if
`replace` is set; if not, nothing happens while there is one. Tells whether the session is now
indexed. -/
def index (teid : UInt32) (id : SessionId) (replace : Bool) (node : Node η) :
    Except Error (Bool × Node η) := do
  let session := node.session id
  if session.removed then throw .retired
  if session.imsi = "" then throw .noIdentity
  if !node.isUsable teid id then throw (.unknownTeid teid)
  match (node.endpoint.byImsi.get? session.imsi).filter (· ≠ id) with
  | none => return (true, node.enter teid id)
  | some old =>
      if replace then return (true, (node.retire old).enter teid id)
      else return (false, node)

def register (teid : UInt32) (id : SessionId) (node : Node η) : Except Error (Node η) :=
  (node.index teid id true).map Prod.snd

def remove (id : SessionId) (node : Node η) : Bool × Node η :=
  if (node.session id).removed then (false, node) else (true, node.retire id)

/-- Drops a session from both indices, as if it had never been indexed under the identifier, which
is reserved again. -/
def unregister (teid : UInt32) (id : SessionId) (node : Node η) : Node η :=
  let node := node.unindex id
  { node with
    endpoint.byTeid := node.endpoint.byTeid.insertNew teid .reserved
    sessions := node.sessions.modify id (·.eraseTeid node.endpoint.interface) }

end Node

def Action.register {η : Type} (teid : UInt32) (id : SessionId) : Action η Unit :=
  attempt fun node => return ((), ← node.register teid id)

end TunnelControl
