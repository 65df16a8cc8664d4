import TunnelControl.Octets.Basic

namespace TunnelControl

structure Ipv4 where
  bits : UInt32
  deriving DecidableEq, Inhabited

structure Ipv6 where
  bits : BitVec 128
  deriving DecidableEq, Inhabited

inductive IpAddress where
  | v4 (address : Ipv4)
  | v6 (address : Ipv6)
  deriving DecidableEq, Inhabited

/-- Where a datagram comes from or goes to. The zone tells link-local IPv6 addresses of different
links apart and is 0 for all other addresses. -/
structure SocketAddress where
  ip : IpAddress
  zone : UInt32 := 0
  port : UInt16
  deriving DecidableEq, Inhabited

namespace Ipv4

def toOctets (address : Ipv4) : Octets := Octets.ofNat 4 address.bits.toNat

def ofOctets (octets : Octets) : Ipv4 := ⟨UInt32.ofNat (Octets.toNat octets)⟩

@[simp] theorem length_toOctets (address : Ipv4) : address.toOctets.length = 4 := by
  simp [toOctets]

@[simp] theorem ofOctets_toOctets (address : Ipv4) : ofOctets address.toOctets = address := by
  have bound : address.bits.toNat < Octets.weight 4 := address.bits.toNat_lt
  simp only [ofOctets, toOctets, Octets.toNat_ofNat]
  rw [Nat.mod_eq_of_lt bound, UInt32.ofNat_toNat]

theorem toOctets_ofOctets {octets : Octets} (length : octets.length = 4) :
    (ofOctets octets).toOctets = octets := by
  have bound := Octets.toNat_lt octets
  have whole := Octets.ofNat_toNat octets
  rw [length] at bound whole
  have number : (UInt32.ofNat (Octets.toNat octets)).toNat = Octets.toNat octets :=
    Nat.mod_eq_of_lt bound
  rw [ofOctets, toOctets, number, whole]

end Ipv4

namespace Ipv6

def toOctets (address : Ipv6) : Octets := Octets.ofNat 16 address.bits.toNat

def ofOctets (octets : Octets) : Ipv6 := ⟨BitVec.ofNat 128 (Octets.toNat octets)⟩

@[simp] theorem length_toOctets (address : Ipv6) : address.toOctets.length = 16 := by
  simp [toOctets]

@[simp] theorem ofOctets_toOctets (address : Ipv6) : ofOctets address.toOctets = address := by
  have bound : address.bits.toNat < Octets.weight 16 := address.bits.isLt
  simp only [ofOctets, toOctets, Octets.toNat_ofNat]
  rw [Nat.mod_eq_of_lt bound, BitVec.ofNat_toNat, BitVec.setWidth_eq]

theorem toOctets_ofOctets {octets : Octets} (length : octets.length = 16) :
    (ofOctets octets).toOctets = octets := by
  have bound := Octets.toNat_lt octets
  have whole := Octets.ofNat_toNat octets
  rw [length] at bound whole
  have number : (BitVec.ofNat 128 (Octets.toNat octets)).toNat = Octets.toNat octets :=
    Nat.mod_eq_of_lt bound
  rw [ofOctets, toOctets, number, whole]

def groups (address : Ipv6) : List Nat :=
  (List.range 8).map fun i => address.bits.toNat / Octets.weight (2 * (7 - i)) % 65536

def ofGroups (groups : List Nat) : Ipv6 :=
  ⟨BitVec.ofNat 128 (groups.foldl (fun n group => 65536 * n + group) 0)⟩

end Ipv6

end TunnelControl
