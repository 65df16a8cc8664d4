import TunnelControl.Code.Named
import TunnelControl.Error

namespace TunnelControl.Cause

def contextNotFound : UInt8 := 64

def mandatoryElementMissing : UInt8 := 70

def isAccepted (cause : UInt8) : Bool := 16 ≤ cause && cause < 64

def assigned : List NamedCode := [
  ⟨"LocalDetach", 2⟩, ⟨"CompleteDetach", 3⟩, ⟨"RatChangedFrom3gppToNon3gpp", 4⟩,
  ⟨"IsrDeactivation", 5⟩, ⟨"ErrorIndicationReceived", 6⟩, ⟨"ImsiDetachOnly", 7⟩,
  ⟨"ReactivationRequested", 8⟩, ⟨"PdnReconnectionToThisApnDisallowed", 9⟩,
  ⟨"AccessChangedFromNon3gppTo3gpp", 10⟩, ⟨"PdnConnectionInactivityTimerExpires", 11⟩,
  ⟨"PgwNotResponding", 12⟩, ⟨"NetworkFailure", 13⟩, ⟨"QosParameterMismatch", 14⟩,
  ⟨"RequestAccepted", 16⟩, ⟨"RequestAcceptedPartially", 17⟩,
  ⟨"NewPdnTypeDueToNetworkPreference", 18⟩, ⟨"NewPdnTypeDueToSingleAddressBearerOnly", 19⟩,
  ⟨"ContextNotFound", 64⟩, ⟨"InvalidMessageFormat", 65⟩, ⟨"VersionNotSupportedByNextPeer", 66⟩,
  ⟨"InvalidLength", 67⟩, ⟨"ServiceNotSupported", 68⟩, ⟨"MandatoryIeIncorrect", 69⟩,
  ⟨"MandatoryIeMissing", 70⟩, ⟨"SystemFailure", 72⟩, ⟨"NoResourcesAvailable", 73⟩,
  ⟨"SemanticErrorInTheTftOperation", 74⟩, ⟨"SyntacticErrorInTheTftOperation", 75⟩,
  ⟨"SemanticErrorsInPacketFilter", 76⟩, ⟨"SyntacticErrorsInPacketFilter", 77⟩,
  ⟨"MissingOrUnknownApn", 78⟩, ⟨"GreKeyNotFound", 80⟩, ⟨"RelocationFailure", 81⟩,
  ⟨"DeniedInRat", 82⟩, ⟨"PreferredPdnTypeNotSupported", 83⟩,
  ⟨"AllDynamicAddressesAreOccupied", 84⟩, ⟨"UeContextWithoutTftAlreadyActivated", 85⟩,
  ⟨"ProtocolTypeNotSupported", 86⟩, ⟨"UeNotResponding", 87⟩, ⟨"UeRefuses", 88⟩,
  ⟨"ServiceDenied", 89⟩, ⟨"UnableToPageUe", 90⟩, ⟨"NoMemoryAvailable", 91⟩,
  ⟨"UserAuthenticationFailed", 92⟩, ⟨"ApnAccessDeniedNoSubscription", 93⟩,
  ⟨"RequestRejectedReasonNotSpecified", 94⟩, ⟨"PTmsiSignatureMismatch", 95⟩,
  ⟨"ImsiImeiNotKnown", 96⟩, ⟨"SemanticErrorInTheTadOperation", 97⟩,
  ⟨"SyntacticErrorInTheTadOperation", 98⟩, ⟨"RemotePeerNotResponding", 100⟩,
  ⟨"CollisionWithNetworkInitiatedRequest", 101⟩, ⟨"UnableToPageUeDueToSuspension", 102⟩,
  ⟨"ConditionalIeMissing", 103⟩, ⟨"ApnRestrictionTypeIncompatible", 104⟩,
  ⟨"InvalidOverallLength", 105⟩, ⟨"DataForwardingNotSupported", 106⟩,
  ⟨"InvalidReplyFromRemotePeer", 107⟩, ⟨"FallbackToGtpv1", 108⟩, ⟨"InvalidPeer", 109⟩,
  ⟨"TemporarilyRejectedDueToHandoverInProgress", 110⟩,
  ⟨"ModificationsNotLimitedToS1uBearers", 111⟩, ⟨"RequestRejectedForAPmipv6Reason", 112⟩,
  ⟨"ApnCongestion", 113⟩, ⟨"BearerHandlingNotSupported", 114⟩, ⟨"UeAlreadyReAttached", 115⟩,
  ⟨"MultiplePdnConnectionsForAGivenApnNotAllowed", 116⟩,
  ⟨"TargetAccessRestrictedForTheSubscriber", 117⟩, ⟨"MmeSgsnRefusesDueToVplmnPolicy", 119⟩,
  ⟨"GtpCEntityCongestion", 120⟩, ⟨"LateOverlappingRequest", 121⟩, ⟨"TimedOutRequest", 122⟩,
  ⟨"UeIsTemporarilyNotReachableDueToPowerSaving", 123⟩,
  ⟨"RelocationFailureDueToNasMessageRedirection", 124⟩,
  ⟨"UeNotAuthorisedByOcsOrExternalAaaServer", 125⟩,
  ⟨"MultipleAccessesToAPdnConnectionNotAllowed", 126⟩, ⟨"RequestRejectedDueToUeCapability", 127⟩]

def named (code : UInt8) : Except Error NamedCode :=
  match NamedCode.find? assigned code with
  | some entry => .ok entry
  | none => .error (.malformed (.unknownCause code))

end TunnelControl.Cause
