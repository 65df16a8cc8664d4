import TunnelControl.Octets.Reader

namespace TunnelControl

structure Paa where
  pdnType : UInt8
  ipv4 : Option Ipv4 := none
  prefixLength : Option UInt8 := none
  ipv6 : Option Ipv6 := none
  deriving DecidableEq, Inhabited

namespace Paa

def ofIpv4 (address : Ipv4) : Paa := { pdnType := 1, ipv4 := some address }

def ofIpv6 (prefixLength : UInt8) (address : Ipv6) : Paa :=
  { pdnType := 2, prefixLength := some prefixLength, ipv6 := some address }

def ofBoth (ipv4 : Ipv4) (prefixLength : UInt8) (ipv6 : Ipv6) : Paa :=
  { pdnType := 3, ipv4 := some ipv4, prefixLength := some prefixLength, ipv6 := some ipv6 }

/-- Whatever address is present is written, the IPv6 address behind the length of its prefix. -/
def encode (paa : Paa) : Octets :=
  (paa.pdnType % 8) ::
    (paa.ipv6.elim [] fun ipv6 => paa.prefixLength.getD 64 :: ipv6.toOctets) ++
    paa.ipv4.elim [] Ipv4.toOctets

def size (pdnType : UInt8) : Nat :=
  match pdnType with
  | 1 => 5
  | 2 => 18
  | 3 => 22
  | _ => 1

def read : Reader Paa := do
  Reader.need 1
  let pdnType := (← Reader.peek) % 8
  Reader.need (size pdnType)
  let _ ← Reader.u8
  match pdnType with
  | 1 => return ofIpv4 (← Reader.ipv4)
  | 2 => return ofIpv6 (← Reader.u8) (← Reader.ipv6)
  | 3 =>
      let prefixLength ← Reader.u8
      let ipv6 ← Reader.ipv6
      return ofBoth (← Reader.ipv4) prefixLength ipv6
  | _ => return { pdnType }

def address? (paa : Paa) : Option IpAddress :=
  match paa.ipv4 with
  | some ipv4 => some (.v4 ipv4)
  | none => paa.ipv6.map .v6

end Paa

end TunnelControl
