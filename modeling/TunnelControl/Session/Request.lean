import TunnelControl.Session.Basic

namespace TunnelControl

namespace Body

variable {α : Type}

def value? (attr : Attribute α) (body : Body) (inst : UInt8 := 0) : Except Error (Option α) :=
  (body.slot? attr.type inst).mapM (Element.get attr)

def value (attr : Attribute α) (body : Body) : Except Error α := do
  (← Element.required (body.slot? attr.type) attr.type).get attr

end Body

namespace Subscriber

def ofRequest (request : Body) : Except Error Subscriber := do
  let imsi ← request.value .imsi
  let msisdn ← request.value? .msisdn
  let imei ← request.value? .mei
  let ratType ← request.value? .ratType
  let plmn ← request.value? .servingNetwork
  let location ← request.value? .location
  let reported : Whereabouts := { plmn := plmn.getD ⟨"", ""⟩, ratType := ratType.getD 0 }
  return {
    imsi
    msisdn := msisdn.getD ""
    imei := imei.getD ""
    whereabouts := location.elim reported reported.report }

end Subscriber

namespace Bearer

def ofContext (element : Element) (bearer : Bearer) : Except Error Bearer := do
  let ebi ← element.get .ebi
  let qos := ((element.get .bearerQos).toOption).getD bearer.qos
  let bearer := { bearer with ebi, qos }
  match (element.findAll .fteid).head? with
  | none => return bearer
  | some child =>
      let fteid ← child.get .fteid
      return { bearer with outgoingTeid := fteid.teid, remoteAddress := fteid.address? }

def ofRequest (request : Body) (bearer : Bearer) : Except Error Bearer := do
  let apn ← request.value? .apn
  let ambr ← request.value? .ambr
  let paa ← request.value? .paa
  let bearer := { bearer with
    apn := apn.getD bearer.apn
    ambr := ambr.getD bearer.ambr
    subscriberIp := paa.elim bearer.subscriberIp Paa.address? }
  match (request.held .bearerContext).head? with
  | none => return bearer
  | some context => ofContext context bearer

end Bearer

namespace Session

def ofRequest (capacity : Nat) (peer : SocketAddress) (request : Body) : Except Error Session := do
  let session := ofSubscriber peer (← Subscriber.ofRequest request) capacity
  let sender ← request.value? .fteid
  let gateway ← request.value? .fteid 1
  let session := [sender, gateway].foldl (fun session fteid =>
    fteid.elim session fun fteid => session.addTeid fteid.interface fteid.teid) session
  let bearer ← Bearer.ofRequest request session.defaultBearer
  return session.updateBearers (·.add Bearers.defaultName bearer)

end Session

end TunnelControl
