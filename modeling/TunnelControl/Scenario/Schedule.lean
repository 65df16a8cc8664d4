import TunnelControl.Scenario.World

/-!
Tasks take turns in the order in which they were called. Time is virtual: only when no task was
called does the clock move, to the earliest limit of those who wait.
-/

namespace TunnelControl.Scenario

inductive Frame where
  | body (invocation : Invocation) (tolerant : Bool) (rest : List Step)
  | conclusion (endpoint : EndpointId) (dispatch : Dispatch)
  /-- Go on with the datagrams of an endpoint that receives, where the last one was reported from a
  number of calls on. -/
  | service (endpoint : EndpointId) (call : Nat) (rest : List (SocketAddress × Octets))
      (reports : List (Report Reply))

inductive Cause where
  | call (session : SessionId) (call : Inbox.Call)
  | tasks (replies : List Reply) (rest : List Ticket)

inductive Control where
  | play (context : Option Invocation) (step : Step)
  | give (reply : Reply)
  | await (cause : Cause) (deadline : Option Nat)

structure Activity where
  ticket : Ticket
  parent : Option Ticket := none
  control : Control
  frames : List Frame := []

structure Schedule where
  world : World
  active : Option Activity := none
  /-- Whether the task at work was called meanwhile. -/
  recalled : Bool := false
  ready : List Activity := []
  waiting : List Activity := []
  limits : List (Ticket × Nat) := []
  clock : Nat := 0
  replies : Table Ticket Reply := .empty
  result : Option Reply := none

namespace Schedule

def proceed (activity : Activity) (control : Control) (schedule : Schedule) : Schedule :=
  { schedule with active := some { activity with control } }

def call (schedule : Schedule) (ticket : Ticket) : Schedule :=
  match schedule.waiting.find? (·.ticket == ticket) with
  | some activity =>
      { schedule with
        waiting := schedule.waiting.filter (·.ticket != ticket)
        ready := schedule.ready ++ [activity] }
  | none =>
      { schedule with
        recalled := schedule.recalled || schedule.active.any (·.ticket == ticket) }

def release (activity : Activity) (reply : Reply) (schedule : Schedule) : Schedule :=
  proceed activity (.give reply)
    { schedule with limits := schedule.limits.filter (·.1 != activity.ticket) }

def suspend (activity : Activity) (deadline : Option Nat) (schedule : Schedule) : Schedule :=
  let ticket := activity.ticket
  let limits :=
    if schedule.limits.any (·.1 == ticket) then schedule.limits
    else schedule.limits ++ (deadline.map (ticket, ·)).toList
  let schedule := { schedule with active := none, limits }
  if schedule.recalled then { schedule with ready := schedule.ready ++ [activity] }
  else { schedule with waiting := schedule.waiting ++ [activity] }

def play {α : Type} (part : Play α) (schedule : Schedule) :
    Except Fault (Except Error α × Schedule) := do
  let (result, world) ← part.run.run schedule.world
  return (result, { schedule with world })

def reply (activity : Activity) (part : Play Reply) (schedule : Schedule) :
    Except Fault Schedule := do
  let (result, schedule) ← schedule.play part
  return schedule.proceed activity (.give (.ofExcept id result))

def await (activity : Activity) (limit : Nat) (part : Play Cause) (schedule : Schedule) :
    Except Fault Schedule := do
  let (cause, schedule) ← schedule.play part
  let control := match cause with
    | .ok cause => .await cause (some (schedule.clock + limit))
    | .error error => .give (.failure error)
  return schedule.proceed activity control

def goOn (activity : Activity) (invocation : Invocation) :
    List Step → Schedule → Schedule
  | [], schedule => schedule.proceed activity (.give .done)
  | .tolerant step :: rest, schedule =>
      let frames := .body invocation true rest :: activity.frames
      schedule.proceed { activity with frames } (.play (some invocation) step)
  | step :: rest, schedule =>
      let frames := .body invocation false rest :: activity.frames
      schedule.proceed { activity with frames } (.play (some invocation) step)

def handle (activity : Activity) (endpoint : EndpointId) (dispatch : Dispatch)
    (schedule : Schedule) : Except Fault Schedule := do
  let network := schedule.world.network
  let (accepted, schedule) ← schedule.play (act endpoint (Action.accept network dispatch))
  match accepted with
  | .error error => return schedule.proceed activity (.give (.failure error))
  | .ok handler =>
      let activity := { activity with frames := .conclusion endpoint dispatch :: activity.frames }
      match handler with
      | .custom program =>
          let world := schedule.world
          let call := world.nextCall
          let record : Call Reply :=
            ⟨dispatch.message.type, dispatch.peer, dispatch.message, []⟩
          let world :=
            { world with calls := world.calls.insert call record, nextCall := call + 1 }
          return goOn activity ⟨endpoint, dispatch, call⟩ program { schedule with world }
      | handler => do
          let action := Action.run network (fun _ _ => pure ()) dispatch handler
          schedule.reply activity (do act endpoint action; return .done)

def receive (activity : Activity) (endpoint : EndpointId)
    (reports : List (Report Reply)) : List (SocketAddress × Octets) → Schedule →
    Except Fault Schedule
  | [], schedule => return schedule.proceed activity (.give (.reports reports))
  | (peer, octets) :: rest, schedule => do
      let some node := schedule.world.node? endpoint | throw (.missing .endpoint)
      let config := node.endpoint.config
      let arriving : Datagram := ⟨config.address, octets⟩
      if (schedule.world.network schedule.world.traffic arriving).isSome then throw .undelivered
      let frame := Frame.service endpoint schedule.world.nextCall rest reports
      let activity := { activity with frames := frame :: activity.frames }
      let octets := octets.take config.receiveLimit.toNat
      match Message.parse node.endpoint.groups octets with
      | .error error => return schedule.proceed activity (.give (.failure error))
      | .ok message => schedule.handle activity endpoint ⟨peer, message⟩

def start (activity : Activity) (context : Option Invocation) (steps : List Step)
    (schedule : Schedule) : Schedule :=
  let first := schedule.world.nextTicket
  let tasks : List Activity := steps.zipIdx.map fun (step, i) =>
    { ticket := first + i, parent := some activity.ticket, control := .play context step }
  proceed activity (.await (.tasks [] (tasks.map Activity.ticket)) none)
    { schedule with
      ready := schedule.ready ++ tasks
      world := { schedule.world with nextTicket := first + tasks.length } }

def perform (activity : Activity) (context : Option Invocation) (schedule : Schedule) :
    Step → Except Fault Schedule
  | .openEndpoint name config bind => schedule.reply activity (openEndpoint name config bind)
  | .endpoint name step =>
      schedule.reply activity do playEndpoint context (← endpointOf context name) step
  | .addHandlers name handlers =>
      schedule.reply activity do addHandlers (← endpointOf context name) handlers
  | .handle name peer message => do
      let (found, schedule) ← schedule.play do
        let endpoint ← endpointOf context name
        let peer ← peerOf context peer
        return (endpoint, (⟨peer, ← messageOf context endpoint message⟩ : Dispatch))
      match found with
      | .error error => return schedule.proceed activity (.give (.failure error))
      | .ok (endpoint, dispatch) => schedule.handle activity endpoint dispatch
  | .serve name datagrams => do
      let (bound, schedule) ← schedule.play do
        let endpoint ← endpointOf context name
        let _ ← act endpoint Action.bind
        return endpoint
      match bound with
      | .error error => return schedule.proceed activity (.give (.failure error))
      | .ok endpoint => schedule.receive activity endpoint [] datagrams
  | .openSession name peer subscriber endpoint capacity => schedule.reply activity do
      let peer ← peerOf context peer
      let prescribed ← endpoint.mapM fun endpoint => do
        let node ← nodeOf (← endpointOf none (some endpoint))
        return node.endpoint.config.inboxCapacity.toNat
      let capacity := (prescribed.or capacity).getD Session.defaultCapacity
      openSession name (.ofSubscriber peer subscriber capacity)
  | .session name step => schedule.reply activity do playSession (← sessionOf name) step
  | .deliver session message limit => schedule.await activity limit do
      return .call (← sessionOf session) (.deliver (← messageOf context none message))
  | .awaitReply session sequence limit => schedule.await activity limit do
      return .call (← sessionOf session) (.awaitReply sequence)
  | .join steps => return schedule.start activity context steps
  | .bodyAs type message => schedule.reply activity do
      let message ← messageOf context none message
      return .number (← Play.lift (message.bodyAs type)).elements.length
  | .fail error => return schedule.proceed activity (.give (.failure error))
  | .tolerant step => return schedule.proceed activity (.play context step)

def putInbox (id : SessionId) (inbox : Mailbox Message) (schedule : Schedule) : Schedule :=
  let sessions := schedule.world.sessions.modify id fun session => { session with inbox }
  { schedule with world := { schedule.world with sessions } }

def settle (activity : Activity) (id : SessionId) (schedule : Schedule) :
    Inbox.Ending × List Ticket × Mailbox Message → Schedule
  | (ending, called, inbox) =>
      (called.foldl call (schedule.putInbox id inbox)).release activity
        (.ofExcept (·.elim .done .message) ending.result)

/-- Gets on with a call of a task at the inbox of a session. If it does not end, the task waits or,
when its time is over, gives up. -/
def pursue (activity : Activity) (deadline : Option Nat) (id : SessionId) (pending : Inbox.Call)
    (schedule : Schedule) : Schedule :=
  let ticket := activity.ticket
  let inbox := (schedule.world.sessions.get id).inbox
  match inbox.attempt Mailbox.channel Mailbox.lock ticket pending with
  | (.ends ending, called, inbox) => schedule.settle activity id (ending, called, inbox)
  | (.waits pending, called, inbox) =>
      let schedule := called.foldl call (schedule.putInbox id inbox)
      if deadline.any (· ≤ schedule.clock) then
        schedule.settle activity id (inbox.giveUp Mailbox.channel Mailbox.lock ticket pending)
      else
        let control := .await (.call id pending) deadline
        schedule.suspend { activity with control } deadline

def collect (ended : Table Ticket Reply) (replies : List Reply) :
    List Ticket → List Reply × List Ticket
  | [] => (replies, [])
  | ticket :: rest =>
      match ended.get? ticket with
      | some reply => collect ended (replies ++ [reply]) rest
      | none => (replies, ticket :: rest)

def retry (activity : Activity) (deadline : Option Nat) (schedule : Schedule) :
    Cause → Schedule
  | .call id pending => schedule.pursue activity deadline id pending
  | .tasks replies rest =>
      match collect schedule.replies replies rest with
      | (replies, []) => schedule.release activity (.all replies)
      | (replies, rest) =>
          schedule.suspend { activity with control := .await (.tasks replies rest) none } none

def record (call : Nat) (reply : Reply) (schedule : Schedule) : Schedule :=
  let calls := schedule.world.calls.modify call fun call =>
    { call with replies := call.replies ++ [reply] }
  { schedule with world := { schedule.world with calls } }

def awaits (ticket : Ticket) (activity : Activity) : Bool :=
  match activity.control with
  | .await (.tasks _ (first :: _)) _ => first == ticket
  | _ => false

def finish (activity : Activity) (reply : Reply) (schedule : Schedule) : Schedule :=
  let ticket := activity.ticket
  match activity.parent with
  | none => { schedule with active := none, result := some reply }
  | some parent =>
      let schedule :=
        { schedule with active := none, replies := schedule.replies.insert ticket reply }
      if schedule.waiting.any (awaits ticket) then schedule.call parent else schedule

def resume (activity : Activity) (reply : Reply) (schedule : Schedule) :
    Except Fault Schedule :=
  match activity.frames with
  | [] => return schedule.finish activity reply
  | .body invocation tolerant rest :: frames =>
      let schedule := schedule.record invocation.call reply
      let activity := { activity with frames }
      match reply, tolerant with
      | .failure error, false => return schedule.proceed activity (.give (.failure error))
      | _, _ => return goOn activity invocation rest schedule
  | .conclusion endpoint dispatch :: frames =>
      schedule.reply { activity with frames } do
        act endpoint (Action.conclude (← get).network dispatch reply.outcome)
        return .done
  | .service endpoint call rest reports :: frames =>
      let (report, world) := schedule.world.report call
      receive { activity with frames } endpoint (reports ++ [report]) rest { schedule with world }

def expire (schedule : Schedule) : Except Fault Schedule := do
  let some clock := (schedule.limits.map Prod.snd).min? | throw .endless
  let (due, limits) := schedule.limits.partition (·.2 ≤ clock)
  return (due.map Prod.fst).foldl call { schedule with clock, limits }

def move (schedule : Schedule) : Except Fault Schedule :=
  match schedule.active, schedule.ready with
  | some activity, _ =>
      match activity.control with
      | .play context step => schedule.perform activity context step
      | .give reply => schedule.resume activity reply
      | .await cause deadline => return schedule.retry activity deadline cause
  | none, activity :: ready =>
      return { schedule with active := some activity, recalled := false, ready }
  | none, [] => schedule.expire

def run : (moves : Nat) → Schedule → Except Fault (Reply × World)
  | 0, _ => .error .endless
  | moves + 1, schedule =>
      match schedule.result with
      | some reply => .ok (reply, schedule.world)
      | none => do run moves (← schedule.move)

end Schedule

end TunnelControl.Scenario
