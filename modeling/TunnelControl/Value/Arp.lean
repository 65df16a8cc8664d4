import TunnelControl.Octets.Reader

namespace TunnelControl

structure Arp where
  canPreempt : Bool := false
  level : UInt8 := 0
  canBePreempted : Bool := false
  deriving DecidableEq, Inhabited

def flag (weight : UInt8) (present : Bool) : UInt8 := if present then weight else 0

def hasFlag (weight octet : UInt8) : Bool := octet / weight % 2 == 1

namespace Arp

def toOctet (arp : Arp) : UInt8 :=
  flag 0x40 arp.canPreempt + arp.level % 16 * 4 + flag 1 arp.canBePreempted

def ofOctet (octet : UInt8) : Arp :=
  { canPreempt := hasFlag 0x40 octet
    level := octet / 4 % 16
    canBePreempted := hasFlag 1 octet }

end Arp

end TunnelControl
