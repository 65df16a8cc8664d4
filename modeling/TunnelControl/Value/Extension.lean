import TunnelControl.Octets.Reader

namespace TunnelControl

structure Extension where
  enterprise : UInt16
  contents : Octets
  deriving DecidableEq, Inhabited

namespace Extension

def encode (extension : Extension) : Octets :=
  Octets.ofU16 extension.enterprise ++ extension.contents

def read : Reader Extension := do
  Reader.need 2
  return ⟨← Reader.u16, ← Reader.remaining⟩

end Extension

end TunnelControl
