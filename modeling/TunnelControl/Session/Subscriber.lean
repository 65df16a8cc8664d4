import TunnelControl.Value.Location

namespace TunnelControl

structure Whereabouts where
  plmn : Plmn := ⟨"", ""⟩
  ratType : UInt8 := 0
  lac : UInt16 := 0
  cell : UInt16 := 0
  serviceArea : UInt16 := 0
  routingArea : UInt16 := 0
  trackingArea : UInt16 := 0
  eci : UInt32 := 0
  deriving DecidableEq, Inhabited

/-- The identities of a subscriber; an empty text stands for one that is not known. -/
structure Subscriber where
  imsi : String := ""
  msisdn : String := ""
  imei : String := ""
  whereabouts : Whereabouts := {}
  deriving DecidableEq, Inhabited

namespace Whereabouts

/-- The whereabouts after a location was reported. What the location does not name stays as it is;
of several location area codes in it the last one counts. -/
def report (location : Location) (old : Whereabouts) : Whereabouts :=
  let lacs :=
    [location.cell.map Place.lac, location.serviceArea.map Place.lac,
      location.routingArea.map Place.lac, location.locationArea.map Area.code]
  { old with
    lac := (lacs.filterMap id).getLast?.getD old.lac
    cell := (location.cell.map Place.code).getD old.cell
    serviceArea := (location.serviceArea.map Place.code).getD old.serviceArea
    routingArea := (location.routingArea.map Place.code).getD old.routingArea
    trackingArea := (location.trackingArea.map Area.code).getD old.trackingArea
    eci := (location.evolvedCell.map EvolvedCell.eci).getD old.eci }

end Whereabouts

end TunnelControl
