import TunnelControl.Identity.Plmn

namespace TunnelControl

structure TraceReference where
  plmn : Plmn
  id : UInt32
  deriving DecidableEq, Inhabited

namespace TraceReference

def encode (trace : TraceReference) : Except Error Octets := do
  return (← trace.plmn.encode) ++ Octets.ofU24 trace.id

def read : Reader TraceReference := do
  Reader.need 6
  return ⟨← Plmn.read, ← Reader.u24⟩

end TraceReference

end TunnelControl
