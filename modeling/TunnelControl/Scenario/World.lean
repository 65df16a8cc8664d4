import TunnelControl.Scenario.Step

namespace TunnelControl.Scenario

abbrev EndpointId := Nat

structure World where
  network : Network
  endpoints : Table EndpointId (Endpoint Program) := .empty
  nextEndpoint : EndpointId := 0
  endpointNames : Table String EndpointId := .empty
  sessions : Sessions := {}
  sessionNames : Table String SessionId := .empty
  traffic : Traffic := []
  nextTicket : Ticket := 1
  minted : Nat := 0
  calls : Table Nat (Call Reply) := .empty
  nextCall : Nat := 0
  reported : Nat := 0

structure Invocation where
  endpoint : EndpointId
  dispatch : Dispatch
  call : Nat

/-- A part of a scenario: it changes the world, and ends in a value, in an error that a step can
have, or in a fault that ends the scenario. -/
abbrev Play (α : Type) := ExceptT Error (StateT World (Except Fault)) α

namespace Play

variable {α : Type}

def fault (reason : Fault) : Play α := ExceptT.lift (StateT.lift (.error reason))

def demand (what : Missing) : Option α → Play α
  | some a => pure a
  | none => fault (.missing what)

def outcome (play : Play α) : Play (Except Error α) := ExceptT.lift play.run

def lift : Except Error α → Play α
  | .ok a => pure a
  | .error error => throw error

end Play

namespace World

def firstIdentifier : Nat := 0xA7E10001

def node? (world : World) (id : EndpointId) : Option (Node Program) :=
  (world.endpoints.get? id).map fun endpoint =>
    { endpoint, sessions := world.sessions, traffic := world.traffic }

def putNode (id : EndpointId) (node : Node Program) (world : World) : World :=
  { world with
    endpoints := world.endpoints.insert id node.endpoint
    sessions := node.sessions
    traffic := node.traffic }

def nameOf? (world : World) (id : SessionId) : Option String :=
  (world.sessionNames.entries.find? (·.2 == id)).map Prod.fst

def standings (world : World) : List Standing :=
  world.endpointNames.entries.filterMap fun (name, id) => do
    let node ← world.node? id
    return ⟨name, node.endpoint.sequence, node.indexed.length, node.bearerCount⟩

def report (call : Nat) (world : World) : Report Reply × World :=
  let sent := world.traffic.sent
  let fresh := world.calls.filter fun number _ => call ≤ number
  ({ sent := sent.drop world.reported
     calls := fresh.ascending.map Prod.snd
     standings := world.standings },
    { world with
      calls := world.calls.filter fun number _ => number < call
      reported := sent.length })

end World

open World

variable {α : Type}

/-! ## Names -/

def endpointOf (context : Option Invocation) (name : Option String) : Play EndpointId := do
  match name with
  | some name => Play.demand .endpoint ((← get).endpointNames.get? name)
  | none => Play.demand .endpoint (context.map Invocation.endpoint)

def nodeOf (id : EndpointId) : Play (Node Program) := do
  Play.demand .endpoint ((← get).node? id)

def sessionOf (name : String) : Play SessionId := do
  Play.demand .session ((← get).sessionNames.get? name)

def peerOf (context : Option Invocation) : Peer → Play SocketAddress
  | .address address => return address
  | .sender => Play.demand .sender (context.map (·.dispatch.peer))

def messageOf (context : Option Invocation) (endpoint : Option EndpointId) :
    Source → Play Message
  | .given message => Play.lift message
  | .octets octets => do
      let node ← nodeOf (← Play.demand .endpoint endpoint)
      Play.lift (Message.parse node.endpoint.groups octets)
  | .received change => do
      let invocation ← Play.demand .message context
      return change invocation.dispatch.message
  | .sent index groups change => do
      let datagram ← Play.demand .datagram (← get).traffic.sent[index]?
      return change (← Play.lift (Message.parse groups datagram.octets))

def act (endpoint : EndpointId) (action : Action Program α) : Play α := do
  let (result, node) := action.perform (← nodeOf endpoint)
  modify (World.putNode endpoint node)
  Play.lift result

def giveName (name : String) (id : SessionId) : Play Unit :=
  modify fun world => { world with sessionNames := world.sessionNames.insert name id }

/-! ## Endpoints -/

def openEndpoint (name : String) (config : Config) (bind : Bool) : Play Reply := do
  let id := (← get).nextEndpoint
  modify fun world =>
    { world with
      endpoints := world.endpoints.insert id (.ofConfig config)
      nextEndpoint := id + 1 }
  if bind then
    let _ ← act id Action.bind
  modify fun world => { world with endpointNames := world.endpointNames.insert name id }
  let node ← nodeOf id
  return .opened config node.endpoint.validation node.endpoint.bound

def addHandlers (endpoint : EndpointId) (handlers : List (UInt8 × Program)) : Play Reply := do
  act endpoint (Action.update fun node =>
    ((), { node with endpoint := node.endpoint.addHandlers handlers }))
  return .done

def mint (endpoint : EndpointId) (ipv4 : Option Ipv4) (ipv6 : Option Ipv6) : Play Reply := do
  let first := firstIdentifier + (← get).minted
  match ← act endpoint (Action.update (Node.mint fun i => UInt32.ofNat (first + i))) with
  | none => return .element none
  | some teid =>
      modify fun world => { world with minted := world.minted + 1 }
      let interface := (← nodeOf endpoint).endpoint.interface
      return .element (some (.ofFteid { interface, teid, ipv4, ipv6 }))

def playEndpoint (context : Option Invocation) (endpoint : EndpointId) : EndpointStep → Play Reply
  | .bind => do
      let _ ← act endpoint Action.bind
      return .bound
  | .localAddress => return .address (← Play.lift (← nodeOf endpoint).endpoint.localAddress)
  | .mint ipv4 ipv6 => mint endpoint ipv4 ipv6
  | .release teid => return .flag (← act endpoint (Action.update (Node.release teid)))
  | .validate on => do
      act endpoint (Action.update fun node => ((), { node with endpoint.validation := on }))
      return .flag (← nodeOf endpoint).endpoint.validation
  | .send peer message => do
      let peer ← peerOf context peer
      let message ← messageOf context endpoint message
      return .number (← act endpoint (Action.send (← get).network peer message)).toNat
  | .respond peer request message => do
      let peer ← peerOf context peer
      let request ← messageOf context endpoint request
      let message ← messageOf context endpoint message
      act endpoint (Action.respond (← get).network peer request message)
      return .done
  | .reject peer request cause offending => do
      let peer ← peerOf context peer
      let request ← messageOf context endpoint request
      act endpoint (Action.reject (← get).network peer request cause offending)
      return .done
  | .echo peer => do
      let peer ← peerOf context peer
      return .number (← act endpoint (Action.echo (← get).network peer)).toNat
  | .request type peer teid elements => do
      let peer ← peerOf context peer
      let elements ← Play.lift elements
      let action := Action.request (← get).network type peer teid elements
      return .number (← act endpoint action).toNat
  | .createSession name peer elements => do
      let peer ← peerOf context peer
      let elements ← Play.lift elements
      let (id, sequence) ← act endpoint (Action.createSession (← get).network peer elements)
      giveName name id
      return .created sequence ((← get).sessions.get id)
  | .describe name peer request => do
      let peer ← peerOf context peer
      let request ← messageOf context endpoint request
      let body ← Play.lift (request.bodyAs .createSessionRequest)
      let id ← act endpoint (Action.attempt (Node.describe peer body))
      giveName name id
      return .session ((← get).sessions.get id)
  | .register teid session => do
      let id ← sessionOf session
      act endpoint (Action.register teid id)
      return .done
  | .remove session => do
      let id ← sessionOf session
      return .flag (← act endpoint (Action.update (Node.remove id)))
  | .findTeid teid peer => do
      let peer ← peerOf context peer
      let id ← Play.lift ((← nodeOf endpoint).findTeid teid peer)
      return .text ((← get).nameOf? id)
  | .findImsi imsi => do
      let id ← Play.lift ((← nodeOf endpoint).findImsi imsi)
      return .text ((← get).nameOf? id)
  | .imsiOfTeid teid peer => do
      let peer ← peerOf context peer
      let node ← nodeOf endpoint
      return .text (node.session (← Play.lift (node.findTeid teid peer))).imsi
  | .subscribers => do
      let node ← nodeOf endpoint
      return .texts ((node.indexed.map fun id => (node.session id).imsi).mergeSort fun a b => a ≤ b)

/-! ## Sessions -/

def openSession (name : String) (session : Session) : Play Reply := do
  let (id, sessions) := (← get).sessions.add session
  modify fun world => { world with sessions }
  giveName name id
  return .session session

def updateSession (id : SessionId) (change : Session → Session) : Play Unit :=
  modify fun world => { world with sessions := world.sessions.modify id change }

def bearerNames (bearers : Bearers) : List String := bearers.ascending.map Prod.fst

def playSession (id : SessionId) (step : SessionStep) : Play Reply := do
  let session := (← get).sessions.get id
  let putBearers (bearers : Bearers) := updateSession id fun session => { session with bearers }
  match step with
  | .dump => return .session session
  | .activate =>
      let session ← Play.lift session.activate
      updateSession id fun _ => session
      return .flag session.active
  | .deactivate =>
      updateSession id Session.deactivate
      return .flag session.deactivate.active
  | .updateSubscriber change =>
      updateSession id (·.updateSubscriber change)
      return .text (session.updateSubscriber change).imsi
  | .addTeid interface teid =>
      updateSession id (·.addTeid interface teid)
      return .done
  | .teid interface => return .number (← Play.lift (session.teid interface)).toNat
  | .addBearer name bearer =>
      let bearers := session.bearers.add name bearer
      putBearers bearers
      return .texts (bearerNames bearers)
  | .updateBearer name change =>
      let (bearer, bearers) ← Play.lift (session.bearers.update name change)
      putBearers bearers
      return .bearer bearer
  | .removeBearer name =>
      let (bearer, bearers) ← Play.lift (session.bearers.remove name)
      putBearers bearers
      return .bearer bearer
  | .removeBearerEbi ebi =>
      let (bearer, bearers) ← Play.lift (session.bearers.removeEbi ebi)
      putBearers bearers
      return .bearer bearer
  | .bearer name => return .bearer (← Play.lift (session.bearers.find name))
  | .bearerEbi ebi => return .bearer (← Play.lift (session.bearers.findEbi ebi))
  | .defaultBearer => return .bearer session.defaultBearer
  | .bearerNameEbi ebi => return .text (← Play.lift (session.bearers.nameOfEbi ebi))
  | .bearerNames => return .counted (bearerNames session.bearers)

end TunnelControl.Scenario
