import TunnelControl.Code.Named
import TunnelControl.Error

namespace TunnelControl

abbrev ElementType := UInt8

namespace ElementType

def imsi : ElementType := 1
def cause : ElementType := 2
def recovery : ElementType := 3
def apn : ElementType := 71
def ambr : ElementType := 72
def ebi : ElementType := 73
def ipAddress : ElementType := 74
def mei : ElementType := 75
def msisdn : ElementType := 76
def indication : ElementType := 77
def pco : ElementType := 78
def paa : ElementType := 79
def bearerQos : ElementType := 80
def flowQos : ElementType := 81
def ratType : ElementType := 82
def servingNetwork : ElementType := 83
def uli : ElementType := 86
def fteid : ElementType := 87
def delayValue : ElementType := 92
def bearerContext : ElementType := 93
def chargingId : ElementType := 94
def chargingCharacteristics : ElementType := 95
def traceInformation : ElementType := 96
def pdnType : ElementType := 99
def pti : ElementType := 100
def pdnConnection : ElementType := 109
def ueTimeZone : ElementType := 114
def traceReference : ElementType := 115
def plmnId : ElementType := 120
def portNumber : ElementType := 126
def apnRestriction : ElementType := 127
def selectionMode : ElementType := 128
def changeReportingAction : ElementType := 131
def fqCsid : ElementType := 132
def nodeType : ElementType := 135
def fqdn : ElementType := 136
def arp : ElementType := 155
def nodeFeatures : ElementType := 152
def overloadControlInformation : ElementType := 180
def loadControlInformation : ElementType := 181
def remoteUeContext : ElementType := 191
def scefPdnConnection : ElementType := 195
def privateExtension : ElementType := 255

def assigned : List NamedCode := [
  ⟨"Imsi", 1⟩, ⟨"Cause", 2⟩, ⟨"Recovery", 3⟩, ⟨"Apn", 71⟩, ⟨"Ambr", 72⟩, ⟨"Ebi", 73⟩,
  ⟨"IpAddress", 74⟩, ⟨"Mei", 75⟩, ⟨"Msisdn", 76⟩, ⟨"Indication", 77⟩, ⟨"Pco", 78⟩, ⟨"Paa", 79⟩,
  ⟨"BearerQos", 80⟩, ⟨"FlowQos", 81⟩, ⟨"RatType", 82⟩, ⟨"ServingNetwork", 83⟩, ⟨"BearerTft", 84⟩,
  ⟨"Tad", 85⟩, ⟨"Uli", 86⟩, ⟨"FTeid", 87⟩, ⟨"Tmsi", 88⟩, ⟨"DelayValue", 92⟩,
  ⟨"BearerContext", 93⟩, ⟨"ChargingId", 94⟩, ⟨"ChargingCharacteristics", 95⟩,
  ⟨"TraceInformation", 96⟩, ⟨"BearerFlags", 97⟩, ⟨"PdnType", 99⟩, ⟨"Pti", 100⟩,
  ⟨"PdnConnection", 109⟩, ⟨"UeTimeZone", 114⟩, ⟨"TraceReference", 115⟩, ⟨"PlmnId", 120⟩,
  ⟨"PortNumber", 126⟩, ⟨"ApnRestriction", 127⟩, ⟨"SelectionMode", 128⟩,
  ⟨"ChangeReportingAction", 131⟩, ⟨"FqCsid", 132⟩, ⟨"NodeType", 135⟩, ⟨"Fqdn", 136⟩,
  ⟨"Arp", 155⟩, ⟨"NodeFeatures", 152⟩, ⟨"OverloadControlInformation", 180⟩,
  ⟨"LoadControlInformation", 181⟩, ⟨"RemoteUeContext", 191⟩, ⟨"ScefPdnConnection", 195⟩,
  ⟨"PrivateExtension", 255⟩]

def named (code : UInt8) : Except Error NamedCode :=
  match NamedCode.find? assigned code with
  | some entry => .ok entry
  | none => .error (.malformed (.unknownElement code))

end ElementType

end TunnelControl
