import TunnelControl.Code.ElementType
import TunnelControl.Value.Arp
import TunnelControl.Octets.Reader

namespace TunnelControl

structure Offending where
  type : ElementType
  length : UInt16 := 0
  inst : UInt8 := 0
  deriving DecidableEq, Inhabited

structure Verdict where
  cause : UInt8
  pce : Bool := false
  bce : Bool := false
  cs : Bool := false
  offending : Option Offending := none
  deriving DecidableEq, Inhabited

namespace Offending

def encode (offending : Offending) : Octets :=
  offending.type :: Octets.ofU16 offending.length ++ [offending.inst % 16]

def read : Reader Offending := do
  return ⟨← Reader.u8, ← Reader.u16, (← Reader.u8) % 16⟩

end Offending

namespace Verdict

def encode (verdict : Verdict) : Octets :=
  verdict.cause :: (flag 4 verdict.pce + flag 2 verdict.bce + flag 1 verdict.cs) ::
    verdict.offending.elim [] Offending.encode

/-- An offending element is present if there is room for it. -/
def read : Reader Verdict := do
  Reader.need 2
  let cause ← Reader.u8
  let flags ← Reader.u8
  let left ← Reader.left
  let offending ← Reader.optional (4 ≤ left) Offending.read
  return { cause, pce := hasFlag 4 flags, bce := hasFlag 2 flags, cs := hasFlag 1 flags, offending }

end Verdict

end TunnelControl
