import TunnelControl.Scenario.Schedule

namespace TunnelControl.Scenario

structure Entry where
  reply : Reply
  report : Report Reply

/-- How many moves a step may take. Only handlers that call each other without end take more. -/
def maxMoves : Nat := 1000000

def playStep (world : World) (step : Step) : Except Fault (Entry × World) := do
  let call := world.nextCall
  let task : Activity := { ticket := 0, control := .play none step }
  let (reply, world) ← Schedule.run maxMoves { world, active := some task }
  let (report, world) := world.report call
  return (⟨reply, report⟩, world)

def playAll : List Step → World → Except Fault (List Entry)
  | [], _ => return []
  | step :: steps, world => do
      let (entry, world) ← playStep world step
      return entry :: (← playAll steps world)

def play (network : Network) (steps : List Step) : Except Fault (List Entry) :=
  playAll steps { network }

end TunnelControl.Scenario
