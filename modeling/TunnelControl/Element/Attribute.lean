import TunnelControl.Element.Basic
import TunnelControl.Identity.Name
import TunnelControl.Value.Extension
import TunnelControl.Value.Fteid
import TunnelControl.Value.Location
import TunnelControl.Value.Paa
import TunnelControl.Value.Pco
import TunnelControl.Value.Qos
import TunnelControl.Value.TimeZone
import TunnelControl.Value.Trace
import TunnelControl.Value.Verdict

namespace TunnelControl

structure Attribute (α : Type) where
  type : ElementType
  encode : α → Except Error Octets
  decode : Octets → Except Error α
  /-- Whether a bearer context stands for its first child of this type. -/
  throughBearer : Bool := false

namespace Attribute

variable {α : Type}

def total (type : ElementType) (encode : α → Octets) (read : Reader α) : Attribute α :=
  { type, encode := fun a => .ok (encode a), decode := read.value }

def checked (type : ElementType) (encode : α → Except Error Octets) (read : Reader α) :
    Attribute α :=
  { type, encode, decode := read.value }

/-- Numbers below `256`, of which `keep` leaves the bits that travel. -/
def octet (type : ElementType) (keep : UInt8 → UInt8 := id) : Attribute UInt8 :=
  total type (fun n => [keep n]) do
    Reader.need 1
    return keep (← Reader.u8)

def digits (type : ElementType) : Attribute String :=
  { type
    encode := Digits.encode
    decode := Reader.value do
      Reader.need 1
      return Digits.decode (← Reader.remaining) }

def name (type : ElementType) : Attribute String :=
  { type, encode := Name.encode, decode := Name.decode }

def u16 (type : ElementType) : Attribute UInt16 :=
  total type Octets.ofU16 do
    Reader.need 2
    Reader.u16

/-! ## Identities -/

def imsi : Attribute String := digits .imsi

def msisdn : Attribute String := digits .msisdn

def mei : Attribute String := digits .mei

/-! ## Single octets -/

def recovery : Attribute UInt8 := octet .recovery

def ebi : Attribute UInt8 := { octet .ebi (· % 16) with throughBearer := true }

def ratType : Attribute UInt8 := octet .ratType

def pdnType : Attribute UInt8 := octet .pdnType (· % 8)

def selectionMode : Attribute UInt8 := octet .selectionMode (· % 4)

def apnRestriction : Attribute UInt8 := octet .apnRestriction

def nodeType : Attribute UInt8 := octet .nodeType

def delayValue : Attribute UInt8 := octet .delayValue

def pti : Attribute UInt8 := octet .pti

def nodeFeatures : Attribute UInt8 := octet .nodeFeatures

def arp : Attribute Arp :=
  total .arp (fun arp => [arp.toOctet]) do
    Reader.need 1
    return .ofOctet (← Reader.u8)

/-! ## Numbers -/

def chargingCharacteristics : Attribute UInt16 := u16 .chargingCharacteristics

def portNumber : Attribute UInt16 := u16 .portNumber

def chargingId : Attribute UInt32 :=
  { total .chargingId Octets.ofU32 (do Reader.need 4; Reader.u32) with throughBearer := true }

def ambr : Attribute Ambr := total .ambr Ambr.encode Ambr.read

def ueTimeZone : Attribute TimeZone := total .ueTimeZone TimeZone.encode TimeZone.read

/-! ## Names, addresses and plain octets -/

def apn : Attribute String := name .apn

def fqdn : Attribute String := name .fqdn

def indication : Attribute Octets := total .indication id Reader.remaining

def ipAddress : Attribute IpAddress :=
  { type := .ipAddress
    encode := fun
      | .v4 address => .ok address.toOctets
      | .v6 address => .ok address.toOctets
    decode := fun octets =>
      if octets.length = 4 then .ok (.v4 (.ofOctets octets))
      else if octets.length = 16 then .ok (.v6 (.ofOctets octets))
      else if octets.length < 4 then .error (.tooShort 4 octets.length)
      else .error (.malformed (.addressSize octets.length)) }

def privateExtension : Attribute Extension :=
  total .privateExtension Extension.encode Extension.read

/-! ## Composite values -/

def verdict : Attribute Verdict := total .cause Verdict.encode Verdict.read

def cause : Attribute UInt8 :=
  { octet .cause with encode := fun cause => .ok (Verdict.encode { cause }) }

def fteid : Attribute Fteid := total .fteid Fteid.encode Fteid.read

def bearerQos : Attribute BearerQos :=
  { total .bearerQos BearerQos.encode BearerQos.read with throughBearer := true }

def flowQos : Attribute FlowQos := total .flowQos FlowQos.encode FlowQos.read

def paa : Attribute Paa := total .paa Paa.encode Paa.read

def pco : Attribute Pco := { type := .pco, encode := Pco.encode, decode := Pco.decode }

def servingNetwork : Attribute Plmn := checked .servingNetwork Plmn.encode Plmn.read

def plmnId : Attribute Plmn := checked .plmnId Plmn.encode Plmn.read

def traceReference : Attribute TraceReference :=
  checked .traceReference TraceReference.encode TraceReference.read

def location : Attribute Location := checked .uli Location.encode Location.read

end Attribute

namespace Element

variable {α : Type}

def of (attr : Attribute α) (a : α) : Except Error Element :=
  return ofValue attr.type 0 (← attr.encode a)

def carrier (attr : Attribute α) (element : Element) : Except Error Element :=
  if element.type == attr.type then .ok element
  else if attr.throughBearer && element.type == .bearerContext then
    match (element.findAll attr.type).head? with
    | some child => .ok child
    | none => .error (.missingElement attr.type)
  else .error (.wrongElement attr.type element.type)

def get (attr : Attribute α) (element : Element) : Except Error α := do
  attr.decode (← element.carrier attr).value

def teid (element : Element) : Except Error UInt32 := return (← element.get .fteid).teid

def interface (element : Element) : Except Error UInt8 := return (← element.get .fteid).interface

def ofVerdict (verdict : Verdict) : Element := ofValue .cause 0 verdict.encode

def ofRecovery (counter : UInt8) : Element := ofValue .recovery 0 [counter]

def ofFteid (fteid : Fteid) : Element := ofValue .fteid 0 fteid.encode

end Element

end TunnelControl
