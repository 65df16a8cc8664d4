import TunnelControl.Code.ElementType
import TunnelControl.Code.MessageType

namespace TunnelControl

structure Slot where
  name : String
  type : ElementType
  inst : UInt8 := 0
  repeated : Bool := false
  deriving DecidableEq, Inhabited

namespace Slot

def one (name : String) (type : ElementType) (inst : UInt8 := 0) : Slot :=
  { name, type, inst }

def many (name : String) (type : ElementType) (inst : UInt8 := 0) : Slot :=
  { name, type, inst, repeated := true }

def key (slot : Slot) : ElementType × UInt8 := (slot.type, slot.inst)

end Slot

namespace MessageType

/-- The slots of a message in the order in which they are written, if they are settled. -/
def layout? : MessageType → Option (List Slot)
  | .echoRequest | .echoResponse => some [
      .one "recovery" .recovery,
      .one "sending_node_features" .nodeFeatures,
      .one "private_extension" .privateExtension]
  | .versionNotSupportedIndication => some []
  | .createSessionRequest => some [
      .one "imsi" .imsi,
      .one "msisdn" .msisdn,
      .one "mei" .mei,
      .one "uli" .uli,
      .one "serving_network" .servingNetwork,
      .one "rat_type" .ratType,
      .one "indication" .indication,
      .one "sender_fteid" .fteid,
      .one "pgw_s5s8_fteid" .fteid 1,
      .one "apn" .apn,
      .one "selection_mode" .selectionMode,
      .one "pdn_type" .pdnType,
      .one "paa" .paa,
      .one "apn_restriction" .apnRestriction,
      .one "ambr" .ambr,
      .one "linked_ebi" .ebi,
      .one "pco" .pco,
      .many "bearer_contexts_to_be_created" .bearerContext,
      .many "bearer_contexts_to_be_removed" .bearerContext 1,
      .one "trace_information" .traceInformation,
      .one "recovery" .recovery,
      .one "mme_fq_csid" .fqCsid,
      .one "sgw_fq_csid" .fqCsid 1,
      .one "ue_time_zone" .ueTimeZone,
      .one "charging_characteristics" .chargingCharacteristics,
      .one "private_extension" .privateExtension]
  | .createSessionResponse => some [
      .one "cause" .cause,
      .one "change_reporting_action" .changeReportingAction,
      .one "sender_fteid" .fteid,
      .one "pgw_s5s8_fteid" .fteid 1,
      .one "paa" .paa,
      .one "apn_restriction" .apnRestriction,
      .one "ambr" .ambr,
      .one "linked_ebi" .ebi,
      .one "pco" .pco,
      .many "bearer_contexts_created" .bearerContext,
      .many "bearer_contexts_marked_for_removal" .bearerContext 1,
      .one "recovery" .recovery,
      .one "charging_gateway_fqdn" .fqdn,
      .one "charging_gateway_address" .ipAddress,
      .one "pgw_fq_csid" .fqCsid,
      .one "sgw_fq_csid" .fqCsid 1,
      .one "private_extension" .privateExtension]
  | .modifyBearerRequest => some [
      .one "mei" .mei,
      .one "uli" .uli,
      .one "serving_network" .servingNetwork,
      .one "rat_type" .ratType,
      .one "indication" .indication,
      .one "sender_fteid" .fteid,
      .one "ambr" .ambr,
      .one "delay_value" .delayValue,
      .many "bearer_contexts_to_be_modified" .bearerContext,
      .many "bearer_contexts_to_be_removed" .bearerContext 1,
      .one "recovery" .recovery,
      .one "ue_time_zone" .ueTimeZone,
      .one "mme_fq_csid" .fqCsid,
      .one "sgw_fq_csid" .fqCsid 1,
      .one "private_extension" .privateExtension]
  | .modifyBearerResponse => some [
      .one "cause" .cause,
      .one "msisdn" .msisdn,
      .one "linked_ebi" .ebi,
      .one "apn_restriction" .apnRestriction,
      .one "pco" .pco,
      .many "bearer_contexts_modified" .bearerContext,
      .many "bearer_contexts_marked_for_removal" .bearerContext 1,
      .one "change_reporting_action" .changeReportingAction,
      .one "charging_gateway_fqdn" .fqdn,
      .one "charging_gateway_address" .ipAddress,
      .one "pgw_fq_csid" .fqCsid,
      .one "sgw_fq_csid" .fqCsid 1,
      .one "recovery" .recovery,
      .one "private_extension" .privateExtension]
  | .deleteSessionRequest => some [
      .one "cause" .cause,
      .one "linked_ebi" .ebi,
      .one "uli" .uli,
      .one "indication" .indication,
      .one "pco" .pco,
      .one "originating_node" .nodeType,
      .one "sender_fteid" .fteid,
      .one "ue_time_zone" .ueTimeZone,
      .one "private_extension" .privateExtension]
  | .deleteSessionResponse => some [
      .one "cause" .cause,
      .one "recovery" .recovery,
      .one "pco" .pco,
      .one "private_extension" .privateExtension]
  | .createBearerRequest => some [
      .one "pti" .pti,
      .one "linked_ebi" .ebi,
      .one "pco" .pco,
      .many "bearer_contexts" .bearerContext,
      .one "pgw_fq_csid" .fqCsid,
      .one "sgw_fq_csid" .fqCsid 1,
      .one "change_reporting_action" .changeReportingAction,
      .one "private_extension" .privateExtension]
  | .createBearerResponse => some [
      .one "cause" .cause,
      .many "bearer_contexts" .bearerContext,
      .one "recovery" .recovery,
      .one "mme_fq_csid" .fqCsid,
      .one "sgw_fq_csid" .fqCsid 1,
      .one "enb_fq_csid" .fqCsid 2,
      .one "pco" .pco,
      .one "ue_time_zone" .ueTimeZone,
      .one "uli" .uli,
      .one "private_extension" .privateExtension]
  | .updateBearerRequest => some [
      .many "bearer_contexts" .bearerContext,
      .one "pti" .pti,
      .one "pco" .pco,
      .one "ambr" .ambr,
      .one "change_reporting_action" .changeReportingAction,
      .one "indication" .indication,
      .one "pgw_fq_csid" .fqCsid,
      .one "sgw_fq_csid" .fqCsid 1,
      .one "private_extension" .privateExtension]
  | .updateBearerResponse => some [
      .one "cause" .cause,
      .many "bearer_contexts" .bearerContext,
      .one "recovery" .recovery,
      .one "mme_fq_csid" .fqCsid,
      .one "sgw_fq_csid" .fqCsid 1,
      .one "indication" .indication,
      .one "pco" .pco,
      .one "ue_time_zone" .ueTimeZone,
      .one "uli" .uli,
      .one "private_extension" .privateExtension]
  | .deleteBearerRequest => some [
      .one "linked_ebi" .ebi,
      .many "ebis" .ebi 1,
      .many "bearer_contexts" .bearerContext,
      .one "pti" .pti,
      .one "pco" .pco,
      .one "pgw_fq_csid" .fqCsid,
      .one "sgw_fq_csid" .fqCsid 1,
      .one "cause" .cause,
      .one "private_extension" .privateExtension]
  | .deleteBearerResponse => some [
      .one "cause" .cause,
      .one "linked_ebi" .ebi,
      .many "bearer_contexts" .bearerContext,
      .one "recovery" .recovery,
      .one "mme_fq_csid" .fqCsid,
      .one "sgw_fq_csid" .fqCsid 1,
      .one "pco" .pco,
      .one "ue_time_zone" .ueTimeZone,
      .one "uli" .uli,
      .one "private_extension" .privateExtension]
  | .releaseAccessBearersRequest => some [
      .many "ebis_to_be_released" .ebi,
      .one "originating_node" .nodeType,
      .one "indication" .indication,
      .one "private_extension" .privateExtension]
  | .releaseAccessBearersResponse => some [
      .one "cause" .cause,
      .one "recovery" .recovery,
      .one "indication" .indication,
      .one "private_extension" .privateExtension]
  | .downlinkDataNotification => some [
      .one "cause" .cause,
      .one "ebi" .ebi,
      .one "arp" .arp,
      .one "imsi" .imsi,
      .one "sender_fteid" .fteid,
      .one "indication" .indication,
      .one "private_extension" .privateExtension]
  | .downlinkDataNotificationAcknowledge => some [
      .one "cause" .cause,
      .one "delay_value" .delayValue,
      .one "recovery" .recovery,
      .one "imsi" .imsi,
      .one "private_extension" .privateExtension]
  | _ => none

theorem layout?_keys {type : MessageType} {slots : List Slot}
    (settled : type.layout? = some slots) :
    (slots.map Slot.key).Nodup := by
  cases type <;> cases settled <;> decide

end MessageType

end TunnelControl
