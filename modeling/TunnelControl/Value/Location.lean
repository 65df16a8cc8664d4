import TunnelControl.Identity.Plmn
import TunnelControl.Value.Arp

namespace TunnelControl

structure Place where
  plmn : Plmn
  lac : UInt16
  code : UInt16
  deriving DecidableEq, Inhabited

structure Area where
  plmn : Plmn
  code : UInt16
  deriving DecidableEq, Inhabited

structure EvolvedCell where
  plmn : Plmn
  eci : UInt32
  deriving DecidableEq, Inhabited

structure Location where
  cell : Option Place := none
  serviceArea : Option Place := none
  routingArea : Option Place := none
  trackingArea : Option Area := none
  evolvedCell : Option EvolvedCell := none
  locationArea : Option Area := none
  deriving DecidableEq, Inhabited

structure LocationFlags where
  cell : Bool := false
  serviceArea : Bool := false
  routingArea : Bool := false
  trackingArea : Bool := false
  evolvedCell : Bool := false
  locationArea : Bool := false
  deriving DecidableEq, Inhabited

namespace Place

def encode (place : Place) : Except Error Octets := do
  return (← place.plmn.encode) ++ Octets.ofU16 place.lac ++ Octets.ofU16 place.code

def read : Reader Place := do
  Reader.need 7
  return ⟨← Plmn.read, ← Reader.u16, ← Reader.u16⟩

end Place

namespace Area

def encode (area : Area) : Except Error Octets := do
  return (← area.plmn.encode) ++ Octets.ofU16 area.code

def read : Reader Area := do
  Reader.need 5
  return ⟨← Plmn.read, ← Reader.u16⟩

end Area

namespace EvolvedCell

def bound : UInt32 := 0x10000000

def encode (cell : EvolvedCell) : Except Error Octets := do
  return (← cell.plmn.encode) ++ Octets.ofU32 (cell.eci % bound)

def read : Reader EvolvedCell := do
  Reader.need 7
  return ⟨← Plmn.read, (← Reader.u32) % bound⟩

end EvolvedCell

namespace LocationFlags

def toOctet (flags : LocationFlags) : UInt8 :=
  flag 0x20 flags.locationArea + flag 0x10 flags.evolvedCell + flag 8 flags.trackingArea +
    flag 4 flags.routingArea + flag 2 flags.serviceArea + flag 1 flags.cell

def ofOctet (octet : UInt8) : LocationFlags :=
  { cell := hasFlag 1 octet
    serviceArea := hasFlag 2 octet
    routingArea := hasFlag 4 octet
    trackingArea := hasFlag 8 octet
    evolvedCell := hasFlag 0x10 octet
    locationArea := hasFlag 0x20 octet }

end LocationFlags

namespace Location

def flags (location : Location) : LocationFlags :=
  { cell := location.cell.isSome
    serviceArea := location.serviceArea.isSome
    routingArea := location.routingArea.isSome
    trackingArea := location.trackingArea.isSome
    evolvedCell := location.evolvedCell.isSome
    locationArea := location.locationArea.isSome }

def encodeOptional {α : Type} (encode : α → Except Error Octets) :
    Option α → Except Error Octets
  | none => .ok []
  | some place => encode place

def encode (location : Location) : Except Error Octets := do
  let cell ← encodeOptional Place.encode location.cell
  let serviceArea ← encodeOptional Place.encode location.serviceArea
  let routingArea ← encodeOptional Place.encode location.routingArea
  let trackingArea ← encodeOptional Area.encode location.trackingArea
  let evolvedCell ← encodeOptional EvolvedCell.encode location.evolvedCell
  let locationArea ← encodeOptional Area.encode location.locationArea
  return location.flags.toOctet ::
    cell ++ serviceArea ++ routingArea ++ trackingArea ++ evolvedCell ++ locationArea

def read : Reader Location := do
  Reader.need 1
  let flags := LocationFlags.ofOctet (← Reader.u8)
  let cell ← Reader.optional flags.cell Place.read
  let serviceArea ← Reader.optional flags.serviceArea Place.read
  let routingArea ← Reader.optional flags.routingArea Place.read
  let trackingArea ← Reader.optional flags.trackingArea Area.read
  let evolvedCell ← Reader.optional flags.evolvedCell EvolvedCell.read
  let locationArea ← Reader.optional flags.locationArea Area.read
  return { cell, serviceArea, routingArea, trackingArea, evolvedCell, locationArea }

end Location

end TunnelControl
