import TunnelControl.Value.Arp
import TunnelControl.Octets.Reader

namespace TunnelControl

structure Header where
  version : UInt8 := 2
  piggybacked : Bool := false
  type : UInt8
  length : UInt16 := 0
  teid : Option UInt32
  sequence : UInt32
  deriving DecidableEq, Inhabited

namespace Header

def supportedVersion : UInt8 := 2

def sequenceBound : UInt32 := 0x1000000

def fixedSize : Nat := 4

def toTunnel (type : UInt8) (teid sequence : UInt32) : Header :=
  { type, teid := some teid, sequence := sequence % sequenceBound }

def toNode (type : UInt8) (sequence : UInt32) : Header :=
  { type, teid := none, sequence := sequence % sequenceBound }

def flags (header : Header) : UInt8 :=
  header.version % 8 * 32 + flag 0x10 header.piggybacked + flag 8 header.teid.isSome

def size (header : Header) : Nat := if header.teid.isSome then 12 else 8

def encode (header : Header) : Octets :=
  header.flags :: header.type :: Octets.ofU16 header.length ++
    header.teid.elim [] Octets.ofU32 ++ Octets.ofU24 header.sequence ++ [0]

def read : Reader Header := do
  Reader.need fixedSize
  let flags ← Reader.u8
  let type ← Reader.u8
  let length ← Reader.u16
  let hasTeid := hasFlag 8 flags
  Reader.need (if hasTeid then 8 else 4)
  let teid ← Reader.optional hasTeid Reader.u32
  let sequence ← Reader.u24
  let _ ← Reader.u8
  return { version := flags / 32, piggybacked := hasFlag 0x10 flags, type, length, teid, sequence }

@[simp] theorem length_encode (header : Header) : header.encode.length = header.size := by
  cases h : header.teid <;>
    simp [encode, size, h, Octets.ofU16, Octets.ofU24, Octets.ofU32]

end Header

end TunnelControl
