import TunnelControl.Code.Named
import TunnelControl.Error

namespace TunnelControl

def ratTypes : List NamedCode := [
  ⟨"Utran", 1⟩, ⟨"Geran", 2⟩, ⟨"Wlan", 3⟩, ⟨"Gan", 4⟩, ⟨"HspaEvolution", 5⟩, ⟨"Eutran", 6⟩,
  ⟨"Virtual", 7⟩, ⟨"EutranNbIot", 8⟩]

def pdnTypes : List NamedCode := [
  ⟨"Ipv4", 1⟩, ⟨"Ipv6", 2⟩, ⟨"Ipv4v6", 3⟩, ⟨"NonIp", 4⟩]

def apnRestrictions : List NamedCode := [
  ⟨"NoRestriction", 0⟩, ⟨"Public1", 1⟩, ⟨"Public2", 2⟩, ⟨"Private1", 3⟩, ⟨"Private2", 4⟩]

def selectionModes : List NamedCode := [
  ⟨"MsOrNetworkProvidedApn", 0⟩, ⟨"MsProvidedApn", 1⟩, ⟨"NetworkProvidedApn", 2⟩]

def nodeTypes : List NamedCode := [
  ⟨"Mme", 0⟩, ⟨"Sgsn", 1⟩]

def interfaceTypes : List NamedCode := [
  ⟨"S1uEnodebGtpU", 0⟩, ⟨"S1uSgwGtpU", 1⟩, ⟨"S12RncGtpU", 2⟩, ⟨"S12SgwGtpU", 3⟩,
  ⟨"S5S8SgwGtpU", 4⟩, ⟨"S5S8PgwGtpU", 5⟩, ⟨"S5S8SgwGtpC", 6⟩, ⟨"S5S8PgwGtpC", 7⟩,
  ⟨"S5S8SgwPmipv6", 8⟩, ⟨"S5S8PgwPmipv6", 9⟩, ⟨"S11MmeGtpC", 10⟩, ⟨"S11S4SgwGtpC", 11⟩,
  ⟨"S10MmeGtpC", 12⟩, ⟨"S3MmeGtpC", 13⟩, ⟨"S3SgsnGtpC", 14⟩, ⟨"S4SgsnGtpU", 15⟩,
  ⟨"S4SgwGtpU", 16⟩, ⟨"S4SgsnGtpC", 17⟩, ⟨"S16SgsnGtpC", 18⟩,
  ⟨"EnodebGtpUForDlDataForwarding", 19⟩, ⟨"EnodebGtpUForUlDataForwarding", 20⟩,
  ⟨"RncGtpUForDataForwarding", 21⟩, ⟨"SgsnGtpUForDataForwarding", 22⟩,
  ⟨"SgwGtpUForDlDataForwarding", 23⟩, ⟨"SmMbmsGwGtpC", 24⟩, ⟨"SnMbmsGwGtpC", 25⟩,
  ⟨"SmMmeGtpC", 26⟩, ⟨"SnSgsnGtpC", 27⟩, ⟨"SgwGtpUForUlDataForwarding", 28⟩, ⟨"SnSgsnGtpU", 29⟩,
  ⟨"S2bEpdgGtpC", 30⟩, ⟨"S2bUEpdgGtpU", 31⟩, ⟨"S2bPgwGtpC", 32⟩, ⟨"S2bUPgwGtpU", 33⟩,
  ⟨"S2aTwanGtpU", 34⟩, ⟨"S2aTwanGtpC", 35⟩, ⟨"S2aPgwGtpC", 36⟩, ⟨"S2aPgwGtpU", 37⟩,
  ⟨"S11MmeGtpU", 38⟩, ⟨"S11SgwGtpU", 39⟩]

def daylightSavings : List NamedCode := [
  ⟨"NoAdjustment", 0⟩, ⟨"OneHour", 1⟩, ⟨"TwoHours", 2⟩]

def pdnType (code : UInt8) : Except Error NamedCode :=
  match NamedCode.find? pdnTypes code with
  | some entry => .ok entry
  | none => .error (.unknownPdnType code)

end TunnelControl
