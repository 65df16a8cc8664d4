import TunnelControl.Address.Basic
import TunnelControl.Error
import TunnelControl.Table
import TunnelControl.Value.Qos

namespace TunnelControl

structure Bearer where
  name : String := ""
  ebi : UInt8 := 0
  qos : BearerQos := {}
  ambr : Ambr := {}
  apn : String := ""
  subscriberIp : Option IpAddress := none
  chargingId : UInt32 := 0
  incomingTeid : UInt32 := 0
  outgoingTeid : UInt32 := 0
  remoteAddress : Option IpAddress := none
  deriving DecidableEq, Inhabited

abbrev Bearers := Table String Bearer

namespace Bearers

def defaultName : String := "default"

def initial : Bearers := Table.empty.insert defaultName { name := defaultName }

def add (name : String) (bearer : Bearer) (bearers : Bearers) : Bearers :=
  bearers.insert name { bearer with name }

def find (name : String) (bearers : Bearers) : Except Error Bearer :=
  match bearers.get? name with
  | some bearer => .ok bearer
  | none => .error (.notFound (.bearer name))

def default (bearers : Bearers) : Bearer := (bearers.get? defaultName).getD {}

/-- A bearer with an identity, of several the one whose entry comes last. -/
def findEbi (ebi : UInt8) (bearers : Bearers) : Except Error Bearer :=
  match bearers.values.reverse.find? (·.ebi == ebi) with
  | some bearer => .ok bearer
  | none => .error (.notFound (.bearerWithEbi ebi))

/-- The name of a bearer with an identity: of the default bearer if it has it, of the one that is
found if not. -/
def nameOfEbi (ebi : UInt8) (bearers : Bearers) : Except Error String :=
  if (bearers.get? defaultName).any (·.ebi == ebi) then .ok defaultName
  else (bearers.findEbi ebi).map Bearer.name

def remove (name : String) (bearers : Bearers) : Except Error (Bearer × Bearers) :=
  if name = defaultName then .error .defaultBearer
  else do
    let bearer ← bearers.find name
    return (bearer, bearers.erase name)

def removeEbi (ebi : UInt8) (bearers : Bearers) : Except Error (Bearer × Bearers) := do
  bearers.remove (← bearers.nameOfEbi ebi)

def update (name : String) (change : Bearer → Bearer) (bearers : Bearers) :
    Except Error (Bearer × Bearers) := do
  let bearer := change (← bearers.find name)
  return (bearer, bearers.insert name bearer)

end Bearers

end TunnelControl
