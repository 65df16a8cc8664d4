import TunnelControl.Endpoint.Index
import TunnelControl.Endpoint.Sending
import TunnelControl.Code.Cause

namespace TunnelControl

structure Dispatch where
  peer : SocketAddress
  message : Message
  deriving Inhabited

namespace Dispatch

def exchange (dispatch : Dispatch) : Exchange := (dispatch.peer, dispatch.message.sequence)

end Dispatch

namespace Error

/-- What the sender of a failed request is told, where the failure is its own. -/
def verdict? (error : Error) : Option Verdict :=
  match error.root with
  | missingElement type =>
      some { cause := Cause.mandatoryElementMissing, offending := some { type } }
  | unknownTeid _ | unknownImsi _ => some { cause := Cause.contextNotFound }
  | _ => none

end Error

namespace Action

variable {η : Type} (network : Network)

/-- Answers a failed request, where the failure calls for it. If the answer cannot be sent, that is
all there is to it. -/
def answerFailure (dispatch : Dispatch) (error : Error) : Action η Unit := do
  if dispatch.message.isRequest then
    if let some verdict := error.verdict? then
      let _ ← outcome (replyWithCause network dispatch.peer dispatch.message verdict)

def validate (dispatch : Dispatch) : Action η Unit := do
  let header := dispatch.message.header
  if header.version ≠ Header.supportedVersion then
    let reply := Message.versionNotSupported header.sequence
    let _ ← outcome (transmit network dispatch.peer reply)
    throw (.foreignVersion header.version)
  if let some teid := header.teid.filter (· ≠ 0) then
    match (← get).findTeid teid dispatch.peer with
    | .ok _ => return
    | .error error =>
        answerFailure network dispatch error
        throw error

def enter (dispatch : Dispatch) : Action η Unit := do
  if dispatch.message.isRequest then
    update (Node.onEndpoint fun endpoint =>
      ((), { endpoint with inFlight := endpoint.inFlight.insertNew dispatch.exchange false }))

/-- Lets a message in and tells which handler it is for. -/
def accept (dispatch : Dispatch) : Action η (Handler η) := do
  if (← get).endpoint.validation then validate network dispatch
  match (← get).endpoint.handlers.get? dispatch.message.type with
  | none => throw (.noHandler dispatch.message.type)
  | some handler =>
      enter dispatch
      return handler

def leave (dispatch : Dispatch) : Action η Bool := do
  if dispatch.message.isRequest then
    update (Node.onEndpoint fun endpoint =>
      (endpoint.inFlight.get? dispatch.exchange = some true,
        { endpoint with inFlight := endpoint.inFlight.erase dispatch.exchange }))
  else return false

def conclude (dispatch : Dispatch) (result : Except Error Unit) : Action η Unit := do
  let answered ← leave dispatch
  match result with
  | .ok () => return
  | .error error =>
      if !answered then answerFailure network dispatch error
      throw (.inHandler dispatch.message.type dispatch.peer error)

def answerEcho (dispatch : Dispatch) : Action η Unit := do
  let node ← get
  respond network dispatch.peer dispatch.message
    (.echoResponse 0 node.endpoint.config.restartCounter)

def run (custom : η → Dispatch → Action η Unit) (dispatch : Dispatch) :
    Handler η → Action η Unit
  | .echo => answerEcho network dispatch
  | .ignore => return
  | .custom handler => custom handler dispatch

def handle (custom : η → Dispatch → Action η Unit) (peer : SocketAddress) (message : Message) :
    Action η Unit := do
  let dispatch : Dispatch := ⟨peer, message⟩
  let handler ← accept network dispatch
  conclude network dispatch (← outcome (run network custom dispatch handler))

end Action

end TunnelControl
