import TunnelControl.Proofs.Element.Carriage
import TunnelControl.Proofs.Endpoint.Effect
import TunnelControl.Proofs.Session.Request

namespace TunnelControl

variable {α : Type} {attr : Attribute α} {request : Body} {inst : UInt8}

namespace Element

variable {element child : Element} {type : ElementType}

def Reads (attr : Attribute α) (element : Element) : Prop := ∃ a, element.get attr = .ok a

def within (type : ElementType) (element : Element) : Option Element :=
  if element.type = type then some element
  else if element.type = .bearerContext then element.children.find? (·.type = type)
  else none

theorem type_of_within (found : element.within type = some child) : child.type = type := by
  unfold within at found
  split at found
  · next own => exact Option.some.inj found ▸ own
  · split at found
    · simpa using List.find?_some found
    · cases found

theorem toOption_get (through : attr.throughBearer = true) (element : Element) :
    (element.get attr).toOption =
      (element.within attr.type).bind fun child => (child.get attr).toOption := by
  by_cases own : element.type = attr.type
  · rw [within, if_pos own, Option.bind_some]
  · have other : (element.type == attr.type) = false := beq_false_of_ne own
    by_cases context : element.type = .bearerContext
    · have head : (element.findAll attr.type).head? = element.within attr.type := by
        rw [within, if_neg own, if_pos context]
        exact List.head?_filter ..
      rw [get, carrier, other, through, context, head]
      cases found : element.within attr.type with
      | none => rfl
      | some child =>
          rw [Option.bind_some, get_of_type (type_of_within found)]
          rfl
    · rw [within, if_neg own, if_neg context, get, carrier, other, through,
        beq_false_of_ne context]
      rfl

theorem reads_iff : element.Reads attr ↔ ∃ a, (element.get attr).toOption = some a := by
  unfold Reads
  cases element.get attr <;> simp [Except.toOption]

theorem reads_iff_within (through : attr.throughBearer = true) :
    element.Reads attr ↔ ∃ child, element.within attr.type = some child ∧ child.Reads attr := by
  rw [reads_iff, toOption_get through]
  simp only [reads_iff, Option.bind_eq_some_iff]
  exact ⟨fun ⟨a, child, found, read⟩ => ⟨child, found, a, read⟩,
    fun ⟨child, found, a, read⟩ => ⟨a, child, found, read⟩⟩

end Element

namespace Body

def Reads (attr : Attribute α) (request : Body) (inst : UInt8 := 0) : Prop :=
  ∀ element, request.slot? attr.type inst = some element → element.Reads attr

theorem exists_value?_iff :
    (∃ found, request.value? attr inst = .ok found) ↔ request.Reads attr inst := by
  unfold Reads
  cases slot : request.slot? attr.type inst with
  | none => simp [value?_of_none slot]
  | some element =>
      rw [value?_of_some slot, Except.exists_bind_ok_iff]
      simp [Element.Reads]

theorem exists_value_iff : (∃ a, request.value attr = .ok a) ↔
    ∃ element, request.slot? attr.type = some element ∧ element.Reads attr := by
  unfold value
  cases request.slot? attr.type with
  | none => exact iff_of_false (fun ⟨_, read⟩ => nomatch read) (by simp)
  | some element =>
      simp only [Option.some.injEq, exists_eq_left']
      exact Iff.rfl

/-- Whether what a request says of a session can be read, the quality of service of its bearer
apart. -/
structure Legible (request : Body) : Prop where
  imsi : ∃ element, request.slot? .imsi = some element ∧ element.Reads .imsi
  msisdn : request.Reads .msisdn
  mei : request.Reads .mei
  ratType : request.Reads .ratType
  network : request.Reads .servingNetwork
  location : request.Reads .location
  sender : request.Reads .fteid
  gateway : request.Reads .fteid 1
  apn : request.Reads .apn
  ambr : request.Reads .ambr
  paa : request.Reads .paa
  ebi : ∀ context, request.slot? .bearerContext = some context →
    ∃ child, context.within .ebi = some child ∧ child.Reads .ebi
  bearer : ∀ context, request.slot? .bearerContext = some context →
    ∀ child, context.children.find? (·.type = .fteid) = some child → child.Reads .fteid

def QosLegible (request : Body) : Prop :=
  ∀ context, request.slot? .bearerContext = some context →
    ∀ child, context.within .bearerQos = some child → child.Reads .bearerQos

def given? (attr : Attribute α) (request : Body) (inst : UInt8 := 0) : Option α :=
  (request.slot? attr.type inst).bind fun element => (element.get attr).toOption

theorem given?_of_value? {found : Option α} (read : request.value? attr inst = .ok found) :
    found = request.given? attr inst := value?_eq_ok read

theorem given?_of_value {a : α} (read : request.value attr = .ok a) :
    request.given? attr = some a := by
  unfold value at read
  unfold given?
  cases found : request.slot? attr.type with
  | none =>
      rw [found] at read
      cases read
  | some element =>
      rw [found] at read
      have got : element.get attr = .ok a := read
      rw [Option.bind_some, got]
      rfl

def givenBearer? (attr : Attribute α) (request : Body) : Option α := do
  let context ← request.slot? .bearerContext
  (context.get attr).toOption

theorem givenBearer?_eq_none (illegible : ¬ request.QosLegible) :
    request.givenBearer? .bearerQos = none := by
  unfold QosLegible at illegible
  push Not at illegible
  obtain ⟨context, first, child, found, unread⟩ := illegible
  have nothing : (child.get .bearerQos).toOption = none := by
    rw [Element.reads_iff] at unread
    exact Option.eq_none_iff_forall_ne_some.mpr fun qos read => unread ⟨qos, read⟩
  have type : Attribute.type .bearerQos = .bearerQos := rfl
  rw [givenBearer?, first, Option.bind_eq_bind, Option.bind_some, Element.toOption_get rfl, type,
    found, Option.bind_some, nothing]

def endpoint? (request : Body) : Option Fteid := do
  let context ← request.slot? .bearerContext
  let child ← context.children.find? (·.type = .fteid)
  (child.get .fteid).toOption

end Body

namespace Subscriber

theorem exists_ofRequest_iff : (∃ subscriber, ofRequest request = .ok subscriber) ↔
    (∃ element, request.slot? .imsi = some element ∧ element.Reads .imsi) ∧
      request.Reads .msisdn ∧ request.Reads .mei ∧ request.Reads .ratType ∧
      request.Reads .servingNetwork ∧ request.Reads .location := by
  have imsi := @Body.exists_value_iff _ .imsi request
  have others {α : Type} (attr : Attribute α) := @Body.exists_value?_iff _ attr request 0
  rw [show Attribute.type .imsi = .imsi from rfl] at imsi
  rw [← imsi, ← others .msisdn, ← others .mei, ← others .ratType, ← others .servingNetwork,
    ← others .location]
  refine Except.exists_bind_iff fun _ => Except.exists_bind_iff fun _ =>
    Except.exists_bind_iff fun _ => Except.exists_bind_iff fun _ =>
    Except.exists_bind_iff fun _ => Except.exists_bind_ok_iff

def given (request : Body) : Subscriber where
  imsi := (request.given? .imsi).getD ""
  msisdn := (request.given? .msisdn).getD ""
  imei := (request.given? .mei).getD ""
  whereabouts :=
    let reported : Whereabouts := {
      plmn := (request.given? .servingNetwork).getD ⟨"", ""⟩
      ratType := (request.given? .ratType).getD 0 }
    (request.given? .location).elim reported reported.report

theorem eq_given {subscriber : Subscriber} (read : ofRequest request = .ok subscriber) :
    subscriber = given request := by
  obtain ⟨imsi, imsi_read, read⟩ := Except.bind_eq_ok.mp read
  obtain ⟨msisdn, msisdn_read, read⟩ := Except.bind_eq_ok.mp read
  obtain ⟨mei, mei_read, read⟩ := Except.bind_eq_ok.mp read
  obtain ⟨ratType, ratType_read, read⟩ := Except.bind_eq_ok.mp read
  obtain ⟨plmn, plmn_read, read⟩ := Except.bind_eq_ok.mp read
  obtain ⟨location, location_read, rfl⟩ := Except.bind_ok_eq_ok.mp read
  rw [given, Body.given?_of_value imsi_read, ← Body.given?_of_value? msisdn_read,
    ← Body.given?_of_value? mei_read, ← Body.given?_of_value? ratType_read,
    ← Body.given?_of_value? plmn_read, ← Body.given?_of_value? location_read]
  rfl

end Subscriber

namespace Bearer

variable {context : Element} {bearer after : Bearer}

theorem exists_ofContext_iff : (∃ after, ofContext context bearer = .ok after) ↔
    (∃ child, context.within .ebi = some child ∧ child.Reads .ebi) ∧
      ∀ child, context.children.find? (·.type = .fteid) = some child → child.Reads .fteid := by
  have ebi := @Element.reads_iff_within _ .ebi context rfl
  rw [show Attribute.type .ebi = .ebi from rfl] at ebi
  rw [← ebi]
  refine Except.exists_bind_iff fun _ => ?_
  have head : (context.findAll .fteid).head? = context.children.find? (·.type = .fteid) :=
    List.head?_filter ..
  simp only [head]
  cases context.children.find? (·.type = .fteid) with
  | none => exact iff_of_true ⟨_, rfl⟩ nofun
  | some child =>
      simp only [Option.some.injEq, forall_eq']
      exact Except.exists_bind_ok_iff

theorem exists_ofRequest_iff : (∃ after, ofRequest request bearer = .ok after) ↔
    request.Reads .apn ∧ request.Reads .ambr ∧ request.Reads .paa ∧
      ∀ context, request.slot? .bearerContext = some context →
        (∃ child, context.within .ebi = some child ∧ child.Reads .ebi) ∧
        ∀ child, context.children.find? (·.type = .fteid) = some child → child.Reads .fteid := by
  have others {α : Type} (attr : Attribute α) := @Body.exists_value?_iff _ attr request 0
  rw [← others .apn, ← others .ambr, ← others .paa]
  refine Except.exists_bind_iff fun _ => Except.exists_bind_iff fun _ =>
    Except.exists_bind_iff fun _ => ?_
  have head : (request.held .bearerContext).head? = request.slot? .bearerContext := rfl
  simp only [head]
  cases request.slot? .bearerContext with
  | none => exact iff_of_true ⟨_, rfl⟩ nofun
  | some context =>
      simp only [Option.some.injEq, forall_eq']
      exact exists_ofContext_iff

def given (request : Body) : Bearer where
  name := Bearers.defaultName
  ebi := (request.givenBearer? .ebi).getD 0
  qos := (request.givenBearer? .bearerQos).getD {}
  ambr := (request.given? .ambr).getD {}
  apn := (request.given? .apn).getD ""
  subscriberIp := (request.given? .paa).elim none Paa.address?
  outgoingTeid := (request.endpoint?.map Fteid.teid).getD 0
  remoteAddress := request.endpoint?.elim none Fteid.address?

theorem eq_of_ofContext (read : ofContext context bearer = .ok after) :
    let endpoint := (context.children.find? (·.type = .fteid)).bind
      fun child => (child.get .fteid).toOption
    after = { bearer with
      ebi := (context.get .ebi).toOption.getD bearer.ebi
      qos := (context.get .bearerQos).toOption.getD bearer.qos
      outgoingTeid := (endpoint.map Fteid.teid).getD bearer.outgoingTeid
      remoteAddress := endpoint.elim bearer.remoteAddress Fteid.address? } := by
  obtain ⟨ebi, ebi_read, read⟩ := Except.bind_eq_ok.mp read
  have head : (context.findAll .fteid).head? = context.children.find? (·.type = .fteid) :=
    List.head?_filter ..
  rw [ebi_read]
  simp only [head] at read
  cases first : context.children.find? (·.type = .fteid) with
  | none =>
      rw [first] at read
      cases read
      rfl
  | some child =>
      rw [first] at read
      obtain ⟨fteid, fteid_read, rfl⟩ := Except.bind_ok_eq_ok.mp read
      rw [Option.bind_some, fteid_read]
      rfl

theorem eq_given (read : ofRequest request { name := Bearers.defaultName } = .ok after) :
    after = given request := by
  obtain ⟨apn, apn_read, read⟩ := Except.bind_eq_ok.mp read
  obtain ⟨ambr, ambr_read, read⟩ := Except.bind_eq_ok.mp read
  obtain ⟨paa, paa_read, read⟩ := Except.bind_eq_ok.mp read
  have head : (request.held .bearerContext).head? = request.slot? .bearerContext := rfl
  simp only [head] at read
  rw [given, ← Body.given?_of_value? apn_read, ← Body.given?_of_value? ambr_read,
    ← Body.given?_of_value? paa_read, Body.givenBearer?, Body.givenBearer?, Body.endpoint?]
  cases first : request.slot? .bearerContext with
  | none =>
      rw [first] at read
      cases read
      rfl
  | some context =>
      rw [first] at read
      rw [eq_of_ofContext read]
      rfl

end Bearer

namespace Session

def given (capacity : Nat) (peer : SocketAddress) (request : Body) : Session where
  peer
  subscriber := .given request
  teids := record (record .empty (request.given? .fteid)) (request.given? .fteid 1)
  bearers := Bearers.initial.add Bearers.defaultName (.given request)
  inbox := .ofCapacity capacity

variable {capacity : Nat} {peer : SocketAddress}

theorem eq_given {session : Session} (read : ofRequest capacity peer request = .ok session) :
    session = given capacity peer request := by
  obtain ⟨subscriber, subscriber_read, sender, sender_read, gateway, gateway_read, bearer,
    bearer_read, rfl⟩ := ofRequest_eq_ok.mp read
  rw [given, Subscriber.eq_given subscriber_read, Body.given?_of_value? sender_read,
    Body.given?_of_value? gateway_read, Bearer.eq_given bearer_read]

theorem exists_ofRequest_iff :
    (∃ session, ofRequest capacity peer request = .ok session) ↔ request.Legible := by
  have parts : (∃ session, ofRequest capacity peer request = .ok session) ↔
      (∃ subscriber, Subscriber.ofRequest request = .ok subscriber) ∧
      (∃ sender, request.value? .fteid = .ok sender) ∧
      (∃ gateway, request.value? .fteid 1 = .ok gateway) ∧
      ∃ bearer, Bearer.ofRequest request { name := Bearers.defaultName } = .ok bearer := by
    simp only [ofRequest_eq_ok]
    constructor
    · rintro ⟨session, subscriber, named, sender, sent, gateway, passed, bearer, borne, -⟩
      exact ⟨⟨subscriber, named⟩, ⟨sender, sent⟩, ⟨gateway, passed⟩, ⟨bearer, borne⟩⟩
    · rintro ⟨⟨subscriber, named⟩, ⟨sender, sent⟩, ⟨gateway, passed⟩, ⟨bearer, borne⟩⟩
      exact ⟨_, subscriber, named, sender, sent, gateway, passed, bearer, borne, rfl⟩
  rw [parts, Subscriber.exists_ofRequest_iff, Bearer.exists_ofRequest_iff,
    Body.exists_value?_iff, Body.exists_value?_iff]
  constructor
  · rintro ⟨⟨imsi, msisdn, mei, ratType, network, location⟩, sender, gateway, apn, ambr, paa,
      bearer⟩
    exact {
      imsi, msisdn, mei, ratType, network, location, sender, gateway, apn, ambr, paa
      ebi := fun context first => (bearer context first).1
      bearer := fun context first => (bearer context first).2 }
  · rintro ⟨imsi, msisdn, mei, ratType, network, location, sender, gateway, apn, ambr, paa, ebi,
      bearer⟩
    exact ⟨⟨imsi, msisdn, mei, ratType, network, location⟩, sender, gateway, apn, ambr, paa,
      fun context first => ⟨ebi context first, bearer context first⟩⟩

end Session

theorem Session.qos_given {capacity : Nat} {peer : SocketAddress}
    (illegible : ¬ request.QosLegible) :
    (given capacity peer request).defaultBearer.qos = {} := by
  have bearer : (given capacity peer request).defaultBearer = .given request := by
    unfold given defaultBearer Bearers.default Bearers.add
    rw [Table.get?_insert, if_pos rfl]
    rfl
  rw [bearer, Bearer.given, Body.givenBearer?_eq_none illegible]
  rfl

theorem Node.exists_describe_iff {η : Type} {node : Node η} {peer : SocketAddress} :
    (∃ result, node.describe peer request = .ok result) ↔ request.Legible := by
  rw [← Session.exists_ofRequest_iff]
  exact Except.exists_bind_ok_iff

theorem Node.describe_eq_given {η : Type} {node : Node η} {peer : SocketAddress}
    {result : SessionId × Node η} (described : node.describe peer request = .ok result) :
    result = node.addSession
      (.given node.endpoint.config.inboxCapacity.toNat peer request) := by
  obtain ⟨session, read, same⟩ := Except.bind_ok_eq_ok.mp described
  rw [same, Session.eq_given read]

namespace Action

variable {η : Type}

/-- An endpoint accepts the requests that can be read wholly, and those of which only the quality of
service cannot. It describes their sessions and does nothing else. -/
theorem accepted_iff_legible (node : Node η) (peer : SocketAddress) (request : Body) :
    let result := perform (attempt (Node.describe peer request)) node
    ((∃ id, result.1 = .ok id) ↔ request.Legible) ∧
      (((∃ id, result.1 = .ok id) ↔ request.Legible ∧ request.QosLegible) ↔
        (request.Legible → request.QosLegible)) ∧
      (∀ id, result.1 = .ok id → id = node.sessions.next ∧ result.2.session id =
        .given node.endpoint.config.inboxCapacity.toNat peer request ∧
        (¬ request.QosLegible → (result.2.session id).defaultBearer.qos = {})) ∧
      (∀ error, result.1 = .error error → result.2 = node) ∧
      result.2.endpoint = node.endpoint ∧ result.2.traffic = node.traffic ∧
      ∀ other ≠ node.sessions.next, result.2.session other = node.session other := by
  intro result
  have accepted : (∃ id, result.1 = .ok id) ↔ request.Legible := by
    have described : (∃ made, node.describe peer request = .ok made) ↔ request.Legible :=
      Node.exists_describe_iff
    rw [← described]
    unfold result
    rw [perform_attempt]
    cases node.describe peer request <;> simp
  refine ⟨accepted, ?_, ?_⟩
  · rw [accepted]
    tauto
  unfold result
  rw [perform_attempt]
  cases described : node.describe peer request with
  | error error => exact ⟨nofun, fun _ _ => rfl, rfl, rfl, fun _ _ => rfl⟩
  | ok made =>
      rw [Node.describe_eq_given described]
      let session := Session.given node.endpoint.config.inboxCapacity.toNat peer request
      have sessions (other : SessionId) : (node.addSession session).2.session other =
          if other = node.sessions.next then session else node.session other :=
        Node.session_addSession session
      refine ⟨?_, nofun, rfl, rfl, fun other old => (sessions other).trans (if_neg old)⟩
      rintro id same
      cases same
      have held := (sessions node.sessions.next).trans (if_pos rfl)
      refine ⟨rfl, held, fun illegible => ?_⟩
      exact (congrArg (·.defaultBearer.qos) held).trans (Session.qos_given illegible)

theorem accepted_iff_legible_bearer :
    let request := Body.ofElements MessageType.createSessionRequest.code [.ofValue .imsi 0 [0x21],
      .ofChildren .bearerContext 0 [.ofValue .ebi 0 [5],
        .ofValue .bearerQos 0 (32 :: 9 :: List.replicate 20 0)]]
    let node : Node Empty := { endpoint := .ofConfig {} }
    let result := perform (attempt (Node.describe default request)) node
    request.Legible ∧ request.QosLegible ∧ result.1 = .ok 0 ∧
      result.2.endpoint = node.endpoint := by
  intro request node result
  obtain ⟨accepted, _, _, _, unchanged, _⟩ := accepted_iff_legible node default request
  have taken : result.1 = .ok 0 := by decide +kernel
  refine ⟨accepted.mp ⟨0, taken⟩, fun context first child found => ?_, taken, unchanged⟩
  cases first
  cases found
  exact ⟨_, rfl⟩

/-- One octet of a quality of service is accepted as if there were none. -/
theorem not_accepted_iff_legible :
    let request := Body.ofElements MessageType.createSessionRequest.code [.ofValue .imsi 0 [0x21],
      .ofChildren .bearerContext 0 [.ofValue .ebi 0 [5], .ofValue .bearerQos 0 [0]]]
    let node : Node Empty := { endpoint := .ofConfig {} }
    let result := perform (attempt (Node.describe default request)) node
    Element.get .bearerQos (.ofValue .bearerQos 0 [0]) = .error (.tooShort 22 1) ∧
      result.1 = .ok 0 ∧ (result.2.session 0).defaultBearer.qos = {} ∧
      ¬ ((∃ id, result.1 = .ok id) ↔ request.Legible ∧ request.QosLegible) := by
  intro request node result
  have taken : result.1 = .ok 0 := by decide +kernel
  refine ⟨by decide +kernel, taken, by decide +kernel, fun right => ?_⟩
  obtain ⟨-, legible⟩ := right.mp ⟨0, taken⟩
  obtain ⟨qos, read⟩ := legible _ rfl _ rfl
  cases read

end Action

end TunnelControl
