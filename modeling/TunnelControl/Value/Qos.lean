import TunnelControl.Value.Arp

namespace TunnelControl

structure BitRates where
  maximumUp : UInt64 := 0
  maximumDown : UInt64 := 0
  guaranteedUp : UInt64 := 0
  guaranteedDown : UInt64 := 0
  deriving DecidableEq, Inhabited

structure FlowQos where
  qci : UInt8 := 0
  rates : BitRates := {}
  deriving DecidableEq, Inhabited

structure BearerQos where
  arp : Arp := {}
  qci : UInt8 := 0
  rates : BitRates := {}
  deriving DecidableEq, Inhabited

structure Ambr where
  up : UInt32 := 0
  down : UInt32 := 0
  deriving DecidableEq, Inhabited

namespace BitRates

def encode (rates : BitRates) : Octets :=
  Octets.ofU40 rates.maximumUp ++ Octets.ofU40 rates.maximumDown ++
    Octets.ofU40 rates.guaranteedUp ++ Octets.ofU40 rates.guaranteedDown

def read : Reader BitRates := do
  return ⟨← Reader.u40, ← Reader.u40, ← Reader.u40, ← Reader.u40⟩

end BitRates

namespace FlowQos

def encode (qos : FlowQos) : Octets := qos.qci :: qos.rates.encode

def read : Reader FlowQos := do
  Reader.need 21
  return ⟨← Reader.u8, ← BitRates.read⟩

end FlowQos

namespace BearerQos

def encode (qos : BearerQos) : Octets := qos.arp.toOctet :: qos.qci :: qos.rates.encode

def read : Reader BearerQos := do
  Reader.need 22
  return ⟨.ofOctet (← Reader.u8), ← Reader.u8, ← BitRates.read⟩

end BearerQos

namespace Ambr

def encode (ambr : Ambr) : Octets := Octets.ofU32 ambr.up ++ Octets.ofU32 ambr.down

def read : Reader Ambr := do
  Reader.need 8
  return ⟨← Reader.u32, ← Reader.u32⟩

end Ambr

end TunnelControl
