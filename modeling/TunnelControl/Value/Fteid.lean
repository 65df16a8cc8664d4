import TunnelControl.Value.Arp
import TunnelControl.Octets.Reader

namespace TunnelControl

structure Fteid where
  interface : UInt8
  teid : UInt32
  ipv4 : Option Ipv4 := none
  ipv6 : Option Ipv6 := none
  deriving DecidableEq, Inhabited

namespace Fteid

def encode (fteid : Fteid) : Octets :=
  (flag 0x80 fteid.ipv4.isSome + flag 0x40 fteid.ipv6.isSome + fteid.interface % 64) ::
    Octets.ofU32 fteid.teid ++ fteid.ipv4.elim [] Ipv4.toOctets ++ fteid.ipv6.elim [] Ipv6.toOctets

def size (flags : UInt8) : Nat :=
  5 + (if hasFlag 0x80 flags then 4 else 0) + (if hasFlag 0x40 flags then 16 else 0)

def read : Reader Fteid := do
  Reader.need 5
  Reader.need (size (← Reader.peek))
  let flags ← Reader.u8
  let teid ← Reader.u32
  let ipv4 ← Reader.optional (hasFlag 0x80 flags) Reader.ipv4
  let ipv6 ← Reader.optional (hasFlag 0x40 flags) Reader.ipv6
  return { interface := flags % 64, teid, ipv4, ipv6 }

def address? (fteid : Fteid) : Option IpAddress :=
  match fteid.ipv4 with
  | some ipv4 => some (.v4 ipv4)
  | none => fteid.ipv6.map .v6

end Fteid

end TunnelControl
