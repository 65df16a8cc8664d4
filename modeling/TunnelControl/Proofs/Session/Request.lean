import Mathlib.Data.List.Nodup
import TunnelControl.Proofs.Message.Bucketing
import TunnelControl.Proofs.Result
import TunnelControl.Session.Request

namespace TunnelControl

namespace Message

theorem body_ofElements (type : UInt8) (teid sequence : UInt32) (elements : List Element) :
    (ofElements type teid sequence elements).body = .ofElements type elements := rfl

theorem bodyAs_of_code {message : Message} {type : MessageType} {layout : List Slot}
    {elements : List Element} (settled : type.layout? = some layout)
    (body : message.body = .ofElements type.code elements) :
    message.bodyAs type = .ok (.ofElements type.code elements) := by
  have filled : Body.ofElements type.code elements =
      .settled type (Filled.fill layout elements).1 (Filled.fill layout elements).2 := by
    simp only [Body.ofElements, MessageType.ofCode?_code, settled]
  rw [filled] at body ⊢
  simp only [Message.bodyAs, body, if_true]

end Message

namespace Body

variable {type : UInt8} {slot : Slot} {elements : List Element}

theorem held_ofElements (member : slot ∈ layout type) :
    (ofElements type elements).held slot.type slot.inst = slot.share elements := by
  obtain ⟨filled, found⟩ : ∃ filled, (ofElements type elements).slots.find?
      (fun filled => filled.slot.key = (slot.type, slot.inst)) = some filled := by
    rw [← Option.isSome_iff_exists, List.find?_isSome, slots_ofElements]
    exact ⟨⟨slot, slot.share elements⟩, List.mem_map_of_mem member, decide_eq_true rfl⟩
  have inside := List.mem_of_find?_eq_some found
  rw [slots_ofElements] at inside
  obtain ⟨other, otherMember, rfl⟩ := List.mem_map.mp inside
  have accepted : decide (other.key = slot.key) = true :=
    List.find?_some (p := fun filled : Filled => filled.slot.key = slot.key) found
  have same := of_decide_eq_true accepted
  rw [held, found, List.inj_on_of_nodup_map (layout_distinct type) otherMember member same]

theorem head?_share (slot : Slot) (elements : List Element) :
    (slot.share elements).head? = elements.find? slot.accepts := by
  unfold Slot.share
  split
  · exact List.head?_filter ..
  · cases elements.find? slot.accepts <;> rfl

theorem slot?_ofElements {wanted : ElementType} {inst : UInt8}
    (place : (wanted, inst) ∈ (layout type).map Slot.key) (elements : List Element) :
    (ofElements type elements).slot? wanted inst =
      elements.find? (Element.hasKey wanted inst) := by
  -- where there is a slot for a type and instance, it holds the first of all elements that have
  -- them
  obtain ⟨slot, member, same⟩ := List.mem_map.mp place
  obtain ⟨rfl, rfl⟩ := Prod.mk.inj same
  rw [slot?, held_ofElements member, head?_share]
  rfl

variable {α : Type} {attr : Attribute α} {request : Body} {inst : UInt8}

theorem value?_of_none (empty : request.slot? attr.type inst = none) :
    request.value? attr inst = .ok none := by
  rw [value?, empty]
  rfl

theorem value?_of_some {element : Element} (found : request.slot? attr.type inst = some element) :
    request.value? attr inst = (element.get attr).bind fun a => .ok (some a) := by
  rw [value?, found]
  rfl

theorem value?_eq_some {a : α} : request.value? attr inst = .ok (some a) ↔
    ∃ element, request.slot? attr.type inst = some element ∧ element.get attr = .ok a := by
  cases found : request.slot? attr.type inst with
  | none => simp [value?_of_none found]
  | some element =>
      rw [value?_of_some found, Except.bind_ok_eq_ok]
      simp [eq_comm]

theorem value_of_value? {a : α} (found : request.value? attr = .ok (some a)) :
    request.value attr = .ok a := by
  obtain ⟨element, held, got⟩ := value?_eq_some.mp found
  rw [value, held]
  exact got

theorem value?_eq_ok {found : Option α} (read : request.value? attr inst = .ok found) :
    found = (request.slot? attr.type inst).bind fun element => (element.get attr).toOption := by
  cases slot : request.slot? attr.type inst with
  | none =>
      rw [value?_of_none slot] at read
      exact (Except.ok.inj read).symm
  | some element =>
      rw [value?_of_some slot] at read
      obtain ⟨a, got, rfl⟩ := Except.bind_ok_eq_ok.mp read
      simp [got, Except.toOption]

theorem value?_ofElements {found : Option α}
    (place : (attr.type, inst) ∈ (layout type).map Slot.key)
    (read : (ofElements type elements).value? attr inst = .ok found) :
    found = (elements.find? (Element.hasKey attr.type inst)).bind
      fun element => (element.get attr).toOption := by
  rw [← slot?_ofElements place]
  exact value?_eq_ok read

end Body

theorem Subscriber.ofRequest_of_values {request : Body} {imsi : String}
    {msisdn mei : Option String} {ratType : Option UInt8} {plmn : Option Plmn}
    {location : Option Location} (imsi_read : request.value .imsi = .ok imsi)
    (msisdn_read : request.value? .msisdn = .ok msisdn) (mei_read : request.value? .mei = .ok mei)
    (ratType_read : request.value? .ratType = .ok ratType)
    (plmn_read : request.value? .servingNetwork = .ok plmn)
    (location_read : request.value? .location = .ok location) :
    ofRequest request = .ok {
      imsi, msisdn := msisdn.getD "", imei := mei.getD ""
      whereabouts :=
        let reported : Whereabouts := { plmn := plmn.getD ⟨"", ""⟩, ratType := ratType.getD 0 }
        location.elim reported reported.report } := by
  rw [ofRequest, imsi_read, msisdn_read, mei_read, ratType_read, plmn_read, location_read]
  rfl

namespace Bearer

theorem ofContext_of_values {context child : Element} {ebi : UInt8} {qos : BearerQos}
    {fteid : Fteid} (ebi_read : context.get .ebi = .ok ebi)
    (qos_read : context.get .bearerQos = .ok qos)
    (first : (context.findAll .fteid).head? = some child)
    (fteid_read : child.get .fteid = .ok fteid) (bearer : Bearer) :
    ofContext context bearer = .ok { bearer with
      ebi, qos, outgoingTeid := fteid.teid, remoteAddress := fteid.address? } := by
  rw [ofContext, ebi_read, qos_read]
  simp only [first, fteid_read]
  rfl

theorem ofRequest_of_values {request : Body} {apn : Option String} {ambr : Option Ambr}
    {paa : Option Paa} {context : Element} (apn_read : request.value? .apn = .ok apn)
    (ambr_read : request.value? .ambr = .ok ambr) (paa_read : request.value? .paa = .ok paa)
    (first : request.slot? .bearerContext = some context) (bearer : Bearer) :
    ofRequest request bearer = ofContext context { bearer with
      apn := apn.getD bearer.apn
      ambr := ambr.getD bearer.ambr
      subscriberIp := paa.elim bearer.subscriberIp Paa.address? } := by
  have head : (request.held .bearerContext).head? = some context := first
  rw [ofRequest, apn_read, ambr_read, paa_read]
  simp only [head]
  rfl

end Bearer

namespace Session

def record (teids : Table UInt8 UInt32) : Option Fteid → Table UInt8 UInt32
  | none => teids
  | some fteid => teids.insert fteid.interface fteid.teid

theorem get?_record (teids : Table UInt8 UInt32) (fteid : Option Fteid) (interface : UInt8) :
    (record teids fteid).get? interface =
      ((fteid.filter (·.interface = interface)).map Fteid.teid).or (teids.get? interface) := by
  cases fteid with
  | none => rfl
  | some fteid =>
      rw [record, Table.get?_insert, Option.filter]
      by_cases own : interface = fteid.interface
      · simp [own]
      · simp [own, Ne.symm own]

theorem ofRequest_eq_ok {capacity : Nat} {peer : SocketAddress} {request : Body}
    {session : Session} : ofRequest capacity peer request = .ok session ↔
      ∃ subscriber, Subscriber.ofRequest request = .ok subscriber ∧
      ∃ sender, request.value? .fteid = .ok sender ∧
      ∃ gateway, request.value? .fteid 1 = .ok gateway ∧
      ∃ bearer, Bearer.ofRequest request { name := Bearers.defaultName } = .ok bearer ∧
        session = {
          peer, subscriber, inbox := .ofCapacity capacity
          teids := record (record .empty sender) gateway
          bearers := Bearers.initial.add Bearers.defaultName bearer } := by
  show Except.bind _ (fun subscriber => Except.bind _ fun sender => Except.bind _ fun gateway =>
    Except.bind _ fun bearer => .ok _) = _ ↔ _
  simp only [Except.bind_eq_ok]
  refine exists_congr fun subscriber => and_congr_right fun _ => exists_congr fun sender =>
    and_congr_right fun _ => exists_congr fun gateway => and_congr_right fun _ =>
    exists_congr fun bearer => ?_
  rw [@eq_comm _ session, Except.ok.injEq]
  cases sender <;> cases gateway <;> exact Iff.rfl

end Session

end TunnelControl
