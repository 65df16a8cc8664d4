import TunnelControl.Error

namespace TunnelControl

inductive MessageType where
  | echoRequest
  | echoResponse
  | versionNotSupportedIndication
  | createSessionRequest
  | createSessionResponse
  | modifyBearerRequest
  | modifyBearerResponse
  | deleteSessionRequest
  | deleteSessionResponse
  | changeNotificationRequest
  | changeNotificationResponse
  | modifyBearerCommand
  | modifyBearerFailureIndication
  | deleteBearerCommand
  | deleteBearerFailureIndication
  | bearerResourceCommand
  | bearerResourceFailureIndication
  | downlinkDataNotificationFailureIndication
  | stopPagingIndication
  | createBearerRequest
  | createBearerResponse
  | updateBearerRequest
  | updateBearerResponse
  | deleteBearerRequest
  | deleteBearerResponse
  | deletePdnConnectionSetRequest
  | deletePdnConnectionSetResponse
  | suspendNotification
  | suspendAcknowledge
  | resumeNotification
  | resumeAcknowledge
  | releaseAccessBearersRequest
  | releaseAccessBearersResponse
  | downlinkDataNotification
  | downlinkDataNotificationAcknowledge
  | modifyAccessBearersRequest
  | modifyAccessBearersResponse
  deriving DecidableEq, Inhabited

namespace MessageType

def code : MessageType → UInt8
  | echoRequest => 1
  | echoResponse => 2
  | versionNotSupportedIndication => 3
  | createSessionRequest => 32
  | createSessionResponse => 33
  | modifyBearerRequest => 34
  | modifyBearerResponse => 35
  | deleteSessionRequest => 36
  | deleteSessionResponse => 37
  | changeNotificationRequest => 38
  | changeNotificationResponse => 39
  | modifyBearerCommand => 64
  | modifyBearerFailureIndication => 65
  | deleteBearerCommand => 66
  | deleteBearerFailureIndication => 67
  | bearerResourceCommand => 68
  | bearerResourceFailureIndication => 69
  | downlinkDataNotificationFailureIndication => 70
  | stopPagingIndication => 73
  | createBearerRequest => 95
  | createBearerResponse => 96
  | updateBearerRequest => 97
  | updateBearerResponse => 98
  | deleteBearerRequest => 99
  | deleteBearerResponse => 100
  | deletePdnConnectionSetRequest => 101
  | deletePdnConnectionSetResponse => 102
  | suspendNotification => 162
  | suspendAcknowledge => 163
  | resumeNotification => 164
  | resumeAcknowledge => 165
  | releaseAccessBearersRequest => 170
  | releaseAccessBearersResponse => 171
  | downlinkDataNotification => 176
  | downlinkDataNotificationAcknowledge => 177
  | modifyAccessBearersRequest => 211
  | modifyAccessBearersResponse => 212

def name : MessageType → String
  | echoRequest => "EchoRequest"
  | echoResponse => "EchoResponse"
  | versionNotSupportedIndication => "VersionNotSupportedIndication"
  | createSessionRequest => "CreateSessionRequest"
  | createSessionResponse => "CreateSessionResponse"
  | modifyBearerRequest => "ModifyBearerRequest"
  | modifyBearerResponse => "ModifyBearerResponse"
  | deleteSessionRequest => "DeleteSessionRequest"
  | deleteSessionResponse => "DeleteSessionResponse"
  | changeNotificationRequest => "ChangeNotificationRequest"
  | changeNotificationResponse => "ChangeNotificationResponse"
  | modifyBearerCommand => "ModifyBearerCommand"
  | modifyBearerFailureIndication => "ModifyBearerFailureIndication"
  | deleteBearerCommand => "DeleteBearerCommand"
  | deleteBearerFailureIndication => "DeleteBearerFailureIndication"
  | bearerResourceCommand => "BearerResourceCommand"
  | bearerResourceFailureIndication => "BearerResourceFailureIndication"
  | downlinkDataNotificationFailureIndication => "DownlinkDataNotificationFailureIndication"
  | stopPagingIndication => "StopPagingIndication"
  | createBearerRequest => "CreateBearerRequest"
  | createBearerResponse => "CreateBearerResponse"
  | updateBearerRequest => "UpdateBearerRequest"
  | updateBearerResponse => "UpdateBearerResponse"
  | deleteBearerRequest => "DeleteBearerRequest"
  | deleteBearerResponse => "DeleteBearerResponse"
  | deletePdnConnectionSetRequest => "DeletePdnConnectionSetRequest"
  | deletePdnConnectionSetResponse => "DeletePdnConnectionSetResponse"
  | suspendNotification => "SuspendNotification"
  | suspendAcknowledge => "SuspendAcknowledge"
  | resumeNotification => "ResumeNotification"
  | resumeAcknowledge => "ResumeAcknowledge"
  | releaseAccessBearersRequest => "ReleaseAccessBearersRequest"
  | releaseAccessBearersResponse => "ReleaseAccessBearersResponse"
  | downlinkDataNotification => "DownlinkDataNotification"
  | downlinkDataNotificationAcknowledge => "DownlinkDataNotificationAcknowledge"
  | modifyAccessBearersRequest => "ModifyAccessBearersRequest"
  | modifyAccessBearersResponse => "ModifyAccessBearersResponse"

def all : List MessageType := [
  .echoRequest, .echoResponse, .versionNotSupportedIndication, .createSessionRequest,
  .createSessionResponse, .modifyBearerRequest, .modifyBearerResponse, .deleteSessionRequest,
  .deleteSessionResponse, .changeNotificationRequest, .changeNotificationResponse,
  .modifyBearerCommand, .modifyBearerFailureIndication, .deleteBearerCommand,
  .deleteBearerFailureIndication, .bearerResourceCommand, .bearerResourceFailureIndication,
  .downlinkDataNotificationFailureIndication, .stopPagingIndication, .createBearerRequest,
  .createBearerResponse, .updateBearerRequest, .updateBearerResponse, .deleteBearerRequest,
  .deleteBearerResponse, .deletePdnConnectionSetRequest, .deletePdnConnectionSetResponse,
  .suspendNotification, .suspendAcknowledge, .resumeNotification, .resumeAcknowledge,
  .releaseAccessBearersRequest, .releaseAccessBearersResponse, .downlinkDataNotification,
  .downlinkDataNotificationAcknowledge, .modifyAccessBearersRequest,
  .modifyAccessBearersResponse]

def ofCode? (code : UInt8) : Option MessageType := all.find? fun type => type.code == code

def ofCode (code : UInt8) : Except Error MessageType :=
  match ofCode? code with
  | some type => .ok type
  | none => .error (.unknownMessage code)

def response? : MessageType → Option MessageType
  | echoRequest => some echoResponse
  | createSessionRequest => some createSessionResponse
  | modifyBearerRequest => some modifyBearerResponse
  | deleteSessionRequest => some deleteSessionResponse
  | changeNotificationRequest => some changeNotificationResponse
  | createBearerRequest => some createBearerResponse
  | updateBearerRequest => some updateBearerResponse
  | deleteBearerRequest => some deleteBearerResponse
  | deletePdnConnectionSetRequest => some deletePdnConnectionSetResponse
  | suspendNotification => some suspendAcknowledge
  | resumeNotification => some resumeAcknowledge
  | releaseAccessBearersRequest => some releaseAccessBearersResponse
  | downlinkDataNotification => some downlinkDataNotificationAcknowledge
  | modifyAccessBearersRequest => some modifyAccessBearersResponse
  | _ => none

def hasTeid : MessageType → Bool
  | echoRequest | echoResponse | versionNotSupportedIndication => false
  | _ => true

theorem ofCode?_code (type : MessageType) : ofCode? type.code = some type := by
  cases type <;> rfl

theorem response?_response {request response : MessageType}
    (answers : request.response? = some response) : response.response? = none := by
  cases request <;> cases answers <;> rfl

end MessageType

end TunnelControl
