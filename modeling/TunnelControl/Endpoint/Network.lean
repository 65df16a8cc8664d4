import TunnelControl.Address.Basic
import TunnelControl.Error
import TunnelControl.Octets.Basic

namespace TunnelControl

structure Datagram where
  destination : SocketAddress
  octets : Octets
  deriving DecidableEq, Inhabited

structure Transmission where
  datagram : Datagram
  failure : Option Error := none
  deriving DecidableEq, Inhabited

abbrev Traffic := List Transmission

namespace Traffic

def sent (traffic : Traffic) : List Datagram :=
  (traffic.filter (·.failure.isNone)).map Transmission.datagram

end Traffic

/-- Decides whether a datagram is taken or which failure it meets, after some traffic. -/
abbrev Network := Traffic → Datagram → Option Error

namespace Network

def reachable : Network := fun _ _ => none

def isolated : Network := fun _ _ =>
  some (.network "Network is unreachable (os error 101)")

end Network

end TunnelControl
