namespace TunnelControl

structure NamedCode where
  name : String
  code : UInt8
  deriving DecidableEq

namespace NamedCode

def find? (entries : List NamedCode) (code : UInt8) : Option NamedCode :=
  entries.find? fun entry => entry.code == code

end NamedCode

end TunnelControl
