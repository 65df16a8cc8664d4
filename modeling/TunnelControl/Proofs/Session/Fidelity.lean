import TunnelControl.Endpoint.Creation
import TunnelControl.Proofs.Element.Carriage
import TunnelControl.Proofs.Message.RoundTrip
import TunnelControl.Proofs.Session.Request
import TunnelControl.Proofs.Value.Paa

namespace TunnelControl

structure Attachment where
  imsi : String
  msisdn : String
  mei : String
  ratType : UInt8
  network : Plmn
  location : Location
  sender : Fteid
  gateway : Fteid
  apn : String
  ambr : Ambr
  paa : Paa
  ebi : UInt8
  qos : BearerQos
  bearer : Fteid
  bearerInst : UInt8 := 0

namespace Attachment

variable {given : Attachment} {elements : List Element} {request : Body} {peer : SocketAddress}

def context (given : Attachment) : List Carried :=
  [{ attr := .ebi, value := given.ebi }, { attr := .bearerQos, value := given.qos },
    { attr := .fteid, value := given.bearer, inst := given.bearerInst }]

def parts (given : Attachment) : List Carried :=
  [{ attr := .imsi, value := given.imsi }, { attr := .msisdn, value := given.msisdn },
    { attr := .mei, value := given.mei }, { attr := .ratType, value := given.ratType },
    { attr := .servingNetwork, value := given.network },
    { attr := .location, value := given.location }, { attr := .fteid, value := given.sender },
    { attr := .fteid, value := given.gateway, inst := 1 }, { attr := .apn, value := given.apn },
    { attr := .ambr, value := given.ambr }, { attr := .paa, value := given.paa }]

/-- Whether these are the elements of a request, in any order and among any others, from which they
can be told by their types and instances. -/
inductive Requested (given : Attachment) (elements : List Element) : Prop where
  | build (inner children outer : List Element)
      (inside : given.context.mapM Carried.element = .ok inner)
      -- the children may have seven groups inside each other, as they are in a group themselves
      (context : Among Element.type 7 inner children)
      (outside : given.parts.mapM Carried.element = .ok outer)
      (request : Among Element.key Element.maxDepth
        (.ofChildren .bearerContext 0 children :: outer) elements)

structure Writable (given : Attachment) : Prop where
  imsi : ∀ c ∈ given.imsi.toList, c.isDigit = true
  msisdn : ∀ c ∈ given.msisdn.toList, c.isDigit = true
  mei : ∀ c ∈ given.mei.toList, c.isDigit = true
  network : given.network.Valid
  location : ∀ plmn ∈ given.location.plmns, plmn.Valid
  apn : ∀ label ∈ Name.labels given.apn.toList, (Name.labelOctets label).length ≤ 255

theorem exists_outside_iff :
    (∃ outer, given.parts.mapM Carried.element = .ok outer) ↔ given.Writable := by
  have digits (text : String) : (∃ octets, Digits.encode text = .ok octets) ↔
      ∀ c ∈ text.toList, c.isDigit = true := by
    rw [← Digits.exists_values_iff]
    simp [Digits.encode_eq_ok]
  rw [Except.exists_mapM_iff]
  simp only [Carried.exists_element_iff, parts, List.forall_mem_cons]
  constructor
  · rintro ⟨imsi, msisdn, mei, -, network, location, -, -, apn, -⟩
    exact ⟨(digits _).mp imsi, (digits _).mp msisdn, (digits _).mp mei,
      Plmn.exists_encode_iff.mp network, Location.exists_encode_iff.mp location,
      Name.exists_encode_iff.mp apn⟩
  · rintro ⟨imsi, msisdn, mei, network, location, apn⟩
    exact ⟨(digits _).mpr imsi, (digits _).mpr msisdn, (digits _).mpr mei, ⟨_, rfl⟩,
      Plmn.exists_encode_iff.mpr network, Location.exists_encode_iff.mpr location, ⟨_, rfl⟩,
      ⟨_, rfl⟩, Name.exists_encode_iff.mpr apn, ⟨_, rfl⟩, ⟨_, rfl⟩, List.forall_mem_nil _⟩

theorem exists_requested_iff : (∃ elements, given.Requested elements) ↔ given.Writable := by
  rw [← exists_outside_iff]
  constructor
  · rintro ⟨elements, ⟨_, _, _, _, _, outside, _⟩⟩
    exact ⟨_, outside⟩
  · rintro ⟨outer, outside⟩
    obtain ⟨inner, inside⟩ : ∃ inner, given.context.mapM Carried.element = .ok inner := ⟨_, rfl⟩
    exact ⟨_, .build _ _ _ inside (.refl ..) outside (.refl ..)⟩

def keys : List (ElementType × UInt8) :=
  [(.bearerContext, 0), (.imsi, 0), (.msisdn, 0), (.mei, 0), (.ratType, 0), (.servingNetwork, 0),
    (.uli, 0), (.fteid, 0), (.fteid, 1), (.apn, 0), (.ambr, 0), (.paa, 0)]

theorem keys_eq (given : Attachment) :
    keys = (.bearerContext, 0) :: given.parts.map Carried.key := rfl

theorem keys_distinct : keys.Nodup := by decide

theorem keys_placed : ∀ key ∈ keys,
    key ∈ (Body.layout MessageType.createSessionRequest.code).map Slot.key := by
  have all : keys.all (· ∈ (Body.layout MessageType.createSessionRequest.code).map Slot.key) =
      true := by decide
  exact fun key member => of_decide_eq_true (List.all_eq_true.mp all key member)

theorem types_context (given : Attachment) :
    given.context.map (·.attr.type) = [.ebi, .bearerQos, .fteid] := rfl

theorem Requested.conforms (requested : given.Requested elements) :
    ∀ element ∈ elements, element.Conforms .standard Element.maxDepth := by
  obtain ⟨inner, children, outer, inside, context, outside, request⟩ := requested
  have plain {level : Nat} {carried : List Carried} {built : List Element}
      (done : carried.mapM Carried.element = .ok built)
      (leaves : carried.all (fun part => !Groups.standard.contains part.attr.type) = true) :
      ∀ element ∈ built, element.Conforms .standard level := by
    intro element member
    obtain ⟨part, known, made⟩ := Except.exists_mem_of_mem_mapM done member
    have leaf := List.all_eq_true.mp leaves part known
    rw [Bool.not_eq_true'] at leaf
    exact Carried.conforms made leaf
  apply request.conforms
  rw [List.forall_mem_cons]
  constructor
  · exact .group (by decide) 0 (context.conforms (plain inside rfl))
  · exact plain outside rfl

def Holds (request : Body) (part : Carried) : Prop :=
  ∃ element, part.element = .ok element ∧
    request.slot? part.attr.type (part.inst % 16) = some element

theorem Holds.value? {part : Carried} {found : part.α} (held : Holds request part)
    (gives : part.attr.Gives part.value found) :
    request.value? part.attr (part.inst % 16) = .ok (some found) := by
  obtain ⟨element, built, slot⟩ := held
  exact Body.value?_eq_some.mpr ⟨element, slot, Carried.get_of_element built gives⟩

structure Filed (given : Attachment) (request : Body) : Prop where
  parts : ∀ part ∈ given.parts, Holds request part
  context : ∃ children,
    request.slot? .bearerContext = some (.ofChildren .bearerContext 0 children) ∧
      ∀ part ∈ given.context, ∃ child, part.element = .ok child ∧
        children.find? (·.type = part.attr.type) = some child

theorem Requested.filed (requested : given.Requested elements) {type : UInt8}
    (places : ∀ key ∈ keys, key ∈ (Body.layout type).map Slot.key) :
    given.Filed (.ofElements type elements) := by
  obtain ⟨inner, children, outer, inside, context, outside, request⟩ := requested
  have marks : (Element.ofChildren .bearerContext 0 children :: outer).map Element.key = keys := by
    rw [List.map_cons, Except.map_mapM Carried.key_of_element outside, keys_eq given]
    rfl
  -- no two elements have the same key, so the first one with the key of an element is that element
  have held {element : Element}
      (member : element ∈ Element.ofChildren .bearerContext 0 children :: outer) :
      (Body.ofElements type elements).slot? element.type element.inst = some element := by
    have place : element.key ∈ keys := marks ▸ List.mem_map_of_mem member
    have wanted : elements.find? (Element.hasKey element.type element.inst) =
        elements.find? (Element.key · = element.key) :=
      congrArg elements.find? (funext fun other => by
        rw [Bool.eq_iff_iff, Element.hasKey_iff, decide_eq_true_iff]
        rfl)
    rw [Body.slot?_ofElements (places _ place), wanted]
    exact request.find?_eq (marks ▸ keys_distinct) member
  refine ⟨?_, children, held List.mem_cons_self, ?_⟩
  · intro part member
    obtain ⟨element, inside, built⟩ := Except.exists_mem_of_mapM outside member
    have key := Prod.mk.inj (Carried.key_of_element built)
    exact ⟨element, built, key.1 ▸ key.2 ▸ held (List.mem_cons_of_mem _ inside)⟩
  · intro part member
    have type_of_element {part : Carried} {element : Element}
        (built : part.element = .ok element) : element.type = part.attr.type :=
      congrArg Prod.fst (Carried.key_of_element built)
    obtain ⟨child, known, built⟩ := Except.exists_mem_of_mapM inside member
    refine ⟨child, built, ?_⟩
    rw [← type_of_element built]
    apply context.find?_eq _ known
    rw [Except.map_mapM type_of_element inside, types_context]
    decide

/-- Whether all that is requested travels, except that of the identity of a cell 28 bits do. -/
structure Travels (given : Attachment) : Prop where
  imsi : given.imsi ≠ ""
  msisdn : given.msisdn ≠ ""
  mei : given.mei ≠ ""
  sender : given.sender.interface < 64
  gateway : given.gateway.interface < 64
  apart : given.sender.interface ≠ given.gateway.interface
  apn : Name.Leads given.apn
  paa : given.paa.Allotted
  ebi : given.ebi < 16
  priority : given.qos.arp.level < 16
  rates : given.qos.rates.Fits

def subscriber (given : Attachment) : Subscriber :=
  let location := given.location
  { imsi := given.imsi
    msisdn := given.msisdn
    imei := given.mei
    whereabouts := {
      plmn := given.network
      ratType := given.ratType
      lac := ((location.locationArea.map Area.code).or <|
        (location.routingArea.map Place.lac).or <|
        (location.serviceArea.map Place.lac).or (location.cell.map Place.lac)).getD 0
      cell := (location.cell.map Place.code).getD 0
      serviceArea := (location.serviceArea.map Place.code).getD 0
      routingArea := (location.routingArea.map Place.code).getD 0
      trackingArea := (location.trackingArea.map Area.code).getD 0
      eci := (location.evolvedCell.map (·.eci % 0x10000000)).getD 0 } }

def defaultBearer (given : Attachment) : Bearer :=
  { name := Bearers.defaultName
    ebi := given.ebi
    qos := given.qos
    ambr := given.ambr
    apn := given.apn
    subscriberIp := (given.paa.ipv4.map .v4).or (given.paa.ipv6.map .v6)
    outgoingTeid := given.bearer.teid
    remoteAddress := (given.bearer.ipv4.map .v4).or (given.bearer.ipv6.map .v6) }

structure Describes (given : Attachment) (peer : SocketAddress) (session : Session) : Prop where
  peer : session.peer = peer
  subscriber : session.subscriber = given.subscriber
  sender : session.teid? given.sender.interface = some given.sender.teid
  gateway : session.teid? given.gateway.interface = some given.gateway.teid
  apart : ∀ interface, interface ≠ given.sender.interface →
    interface ≠ given.gateway.interface → session.teid? interface = none
  bearer : session.bearers.get? Bearers.defaultName = some given.defaultBearer
  single : ∀ name, name ≠ Bearers.defaultName → session.bearers.get? name = none
  inactive : session.active = false
  kept : session.removed = false

theorem gives_fteid (fteid : Fteid) :
    Attribute.fteid.Gives fteid { fteid with interface := fteid.interface % 64 } :=
  Attribute.gives_total .fteid (Fteid.read_encode fteid)

theorem gives_fteid_of_lt {fteid : Fteid} (short : fteid.interface < 64) :
    Attribute.fteid.Gives fteid fteid := by
  have whole : fteid.interface % 64 = fteid.interface := Octets.mod_of_lt short
  have gives := gives_fteid fteid
  rwa [whole] at gives

theorem gives_ebi_of_lt {ebi : UInt8} (short : ebi < 16) : Attribute.ebi.Gives ebi ebi := by
  have whole : ebi % 16 = ebi := Octets.mod_of_lt short
  have gives : Attribute.ebi.Gives ebi (ebi % 16 % 16) := Attribute.gives_octet .ebi (· % 16) ebi
  rwa [whole, whole] at gives

theorem report_cut (given : Attachment) :
    Whereabouts.report given.location.cut { plmn := given.network, ratType := given.ratType } =
      given.subscriber.whereabouts := by
  have last : ∀ first second third fourth : Option UInt16,
      ([first, second, third, fourth].filterMap id).getLast? =
        fourth.or (third.or (second.or first)) := by
    rintro (_ | _) (_ | _) (_ | _) (_ | _) <;> rfl
  have eci : given.location.cut.evolvedCell.map EvolvedCell.eci =
      given.location.evolvedCell.map (·.eci % 0x10000000) := Option.map_map ..
  rw [Whereabouts.report, last, eci]
  rfl

namespace Filed

theorem subscriber (filed : given.Filed request) (travels : given.Travels) :
    Subscriber.ofRequest request = .ok given.subscriber := by
  have slots := filed.parts
  simp only [Attachment.parts, List.forall_mem_cons] at slots
  obtain ⟨imsi, msisdn, mei, ratType, network, location, -⟩ := slots
  rw [Subscriber.ofRequest_of_values
    (Body.value_of_value? (imsi.value? (Attribute.gives_digits _ travels.imsi)))
    (msisdn.value? (Attribute.gives_digits _ travels.msisdn))
    (mei.value? (Attribute.gives_digits _ travels.mei))
    (ratType.value? (Attribute.gives_octet .ratType id given.ratType))
    (network.value? (Attribute.gives_checked .servingNetwork Plmn.read_encode))
    (location.value? (Attribute.gives_checked .uli Location.read_encode))]
  exact congrArg (fun whereabouts => Except.ok { given.subscriber with whereabouts })
    (report_cut given)

theorem bearer (filed : given.Filed request) (travels : given.Travels) :
    Bearer.ofRequest request { name := Bearers.defaultName } = .ok given.defaultBearer := by
  have slots := filed.parts
  simp only [Attachment.parts, List.forall_mem_cons] at slots
  obtain ⟨-, -, -, -, -, -, -, -, apn, ambr, paa, -⟩ := slots
  obtain ⟨children, slot, inside⟩ := filed.context
  simp only [Attachment.context, List.forall_mem_cons] at inside
  obtain ⟨⟨ebi, ebi_built, ebi_first⟩, ⟨qos, qos_built, qos_first⟩,
    ⟨fteid, fteid_built, fteid_first⟩, -⟩ := inside
  rw [Bearer.ofRequest_of_values (apn.value? (Attribute.gives_name _ travels.apn))
    (ambr.value? (Attribute.gives_total .ambr (Ambr.read_encode given.ambr)))
    (paa.value? (Attribute.gives_total .paa (Paa.read_encode travels.paa))) slot]
  rw [Bearer.ofContext_of_values
    ((Element.get_through_bearer rfl (by decide) ebi_first).trans
      (Carried.get_of_element ebi_built (gives_ebi_of_lt travels.ebi)))
    ((Element.get_through_bearer rfl (by decide) qos_first).trans
      (Carried.get_of_element qos_built
        (Attribute.gives_total .bearerQos (BearerQos.read_encode travels.priority travels.rates))))
    ((List.head?_filter ..).trans fteid_first)
    (Carried.get_of_element fteid_built (gives_fteid given.bearer))]
  rw [Fteid.address?_eq, Option.elim_some, Paa.address?_eq]
  rfl

theorem describes (filed : given.Filed request) (travels : given.Travels) (capacity : Nat)
    (peer : SocketAddress) : ∃ session, Session.ofRequest capacity peer request = .ok session ∧
      given.Describes peer session := by
  have slots := filed.parts
  simp only [Attachment.parts, List.forall_mem_cons] at slots
  obtain ⟨-, -, -, -, -, -, sender, gateway, -⟩ := slots
  refine ⟨_, Session.ofRequest_eq_ok.mpr ⟨_, filed.subscriber travels, _,
    sender.value? (gives_fteid_of_lt travels.sender), _,
    gateway.value? (gives_fteid_of_lt travels.gateway), _, filed.bearer travels, rfl⟩, ?_⟩
  have teids (interface : UInt8) :
      (Session.record (Session.record .empty (some given.sender)) (some given.gateway)).get?
          interface =
        if interface = given.gateway.interface then some given.gateway.teid
        else if interface = given.sender.interface then some given.sender.teid else none := by
    simp only [Session.record, Table.get?_insert, Table.get?_empty]
  have bearers (name : String) :
      (Bearers.initial.add Bearers.defaultName given.defaultBearer).get? name =
        if name = Bearers.defaultName then some given.defaultBearer else none := by
    rw [Bearers.add, Table.get?_insert]
    split
    · rfl
    · next other => rw [Bearers.initial, Table.get?_insert, if_neg other, Table.get?_empty]
  constructor
  case peer | subscriber | inactive | kept => rfl
  case sender => exact (teids _).trans (by rw [if_neg travels.apart, if_pos rfl])
  case gateway => exact (teids _).trans (if_pos rfl)
  case apart =>
    intro interface other another
    exact (teids _).trans (by rw [if_neg another, if_neg other])
  case bearer => exact (bearers _).trans (if_pos rfl)
  case single => exact fun name other => (bearers _).trans (if_neg other)

end Filed

/-- A request that is sent describes, where it is received, the session that was requested. -/
theorem described_as_requested {η : Type} (node : Node η) {teid sequence : UInt32} {octets : Octets}
    (requested : given.Requested elements) (travels : given.Travels)
    (written : (Message.ofElements MessageType.createSessionRequest.code teid sequence
      elements).marshal = .ok octets) :
    ∃ message body id after, Message.parse .standard octets = .ok message ∧
      message.bodyAs .createSessionRequest = .ok body ∧
      node.describe peer body = .ok (id, after) ∧ given.Describes peer (after.session id) := by
  obtain ⟨message, parsed, same, -⟩ :=
    Message.parse_marshal_ofElements _ _ _ requested.conforms written
  rw [Message.body_ofElements] at same
  have filed : given.Filed (.ofElements MessageType.createSessionRequest.code elements) :=
    requested.filed keys_placed
  obtain ⟨session, read, describes⟩ :=
    filed.describes travels node.endpoint.config.inboxCapacity.toNat peer
  have added : (node.addSession session).2.session (node.addSession session).1 = session :=
    (Sessions.get_add session node.sessions _).trans (if_pos rfl)
  refine ⟨message, _, (node.addSession session).1, (node.addSession session).2, parsed,
    Message.bodyAs_of_code rfl same, ?_, ?_⟩
  · rw [Node.describe, read]
    rfl
  · rw [added]
    exact describes

theorem described_as_requested_reversed :
    let network : Plmn := ⟨"001", "01"⟩
    let given : Attachment := {
      imsi := "001010000000001", msisdn := "8130", mei := "35", ratType := 6, network
      location := { cell := some ⟨network, 1, 2⟩, evolvedCell := some ⟨network, 0xF0000004⟩ }
      sender := { interface := 10, teid := 1, ipv4 := some ⟨0x7F000001⟩ }
      gateway := { interface := 7, teid := 2 }
      apn := "internet", ambr := ⟨1, 2⟩, paa := .ofIpv4 ⟨0x0A000001⟩
      ebi := 5, qos := { arp := { level := 8 }, qci := 9 }
      bearer := { interface := 0, teid := 3 } }
    let node : Node Empty := { endpoint := .ofConfig {} }
    ∃ elements octets, given.Requested elements ∧ given.Travels ∧
      (Message.ofElements MessageType.createSessionRequest.code 0 1 elements).marshal =
        .ok octets ∧
      ∃ message body id after, Message.parse .standard octets = .ok message ∧
        message.bodyAs .createSessionRequest = .ok body ∧
        node.describe default body = .ok (id, after) ∧
        given.Describes default (after.session id) := by
  intro network given node
  let inner : List Element :=
    [.ofValue .ebi 0 [5], .ofValue .bearerQos 0 (32 :: 9 :: List.replicate 20 0),
      .ofValue .fteid 0 [0, 0, 0, 0, 3]]
  let outer : List Element :=
    [.ofValue .imsi 0 [0, 1, 1, 0, 0, 0, 0, 0xF1], .ofValue .msisdn 0 [0x18, 0x03],
      .ofValue .mei 0 [0x53], .ofValue .ratType 0 [6], .ofValue .servingNetwork 0 [0, 0xF1, 0x10],
      .ofValue .uli 0 [0x11, 0, 0xF1, 0x10, 0, 1, 0, 2, 0, 0xF1, 0x10, 0, 0, 0, 4],
      .ofValue .fteid 0 [0x8A, 0, 0, 0, 1, 127, 0, 0, 1], .ofValue .fteid 1 [7, 0, 0, 0, 2],
      .ofValue .apn 0 [8, 105, 110, 116, 101, 114, 110, 101, 116],
      .ofValue .ambr 0 [0, 0, 0, 1, 0, 0, 0, 2], .ofValue .paa 0 [1, 10, 0, 0, 1]]
  -- the elements in the opposite order, behind one that says nothing about the session
  let wanted : List Element := .ofChildren .bearerContext 0 inner :: outer
  let recovery := Element.ofValue .recovery 0 [1]
  have among : Among Element.key Element.maxDepth wanted (recovery :: wanted.reverse) := by
    apply Among.mix [recovery]
    · exact ((List.reverse_perm wanted).cons recovery).trans
        (List.perm_append_singleton recovery wanted).symm
    · decide
    · intro other member
      rw [List.mem_singleton] at member
      exact member ▸ .leaf (by decide) 0 [1]
  have requested : given.Requested (recovery :: wanted.reverse) := by
    apply Requested.build inner inner outer _ (.refl ..) _ among
    all_goals
      subst given network
      rfl
  have travels : given.Travels := by
    constructor
    case paa => exact .ipv4 _
    case rates => constructor <;> decide
    all_goals decide
  let message :=
    Message.ofElements MessageType.createSessionRequest.code 0 1 (recovery :: wanted.reverse)
  have sendable : message.marshal.isOk = true := by decide +zetaReduce
  cases written : message.marshal with
  | error error =>
      rw [written] at sendable
      cases sendable
  | ok octets =>
      exact ⟨_, octets, requested, travels, written,
        described_as_requested node requested travels written⟩

end Attachment

end TunnelControl
