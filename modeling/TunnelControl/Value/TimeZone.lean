import TunnelControl.Octets.Reader

namespace TunnelControl

structure TimeZone where
  offset : UInt8
  daylightSaving : UInt8
  deriving DecidableEq, Inhabited

namespace TimeZone

def encode (zone : TimeZone) : Octets := [zone.offset, zone.daylightSaving % 4]

def read : Reader TimeZone := do
  Reader.need 2
  return ⟨← Reader.u8, (← Reader.u8) % 4⟩

end TimeZone

end TunnelControl
