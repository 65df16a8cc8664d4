import TunnelControl.Proofs.Element.Pruning
import TunnelControl.Proofs.Message.NormalForm

namespace TunnelControl

variable {change : Element → Element} {elements : List Element}

def Element.KeepsFrame (change : Element → Element) : Prop :=
  ∀ element, (change element).frame = element.frame

namespace Element.KeepsFrame

variable (keeps : Element.KeepsFrame change)

include keeps

theorem map_frame (elements : List Element) :
    (elements.map change).map Element.frame = elements.map Element.frame := by
  rw [List.map_map]
  exact List.map_congr_left fun element _ => keeps element

theorem type (element : Element) : (change element).type = element.type :=
  congrArg Frame.type (keeps element)

theorem inst (element : Element) : (change element).inst = element.inst :=
  congrArg Frame.inst (keeps element)

theorem value (element : Element) : (change element).value = element.value :=
  congrArg Frame.value (keeps element)

theorem hasKey (type : ElementType) (inst : UInt8) (element : Element) :
    (change element).hasKey type inst = element.hasKey type inst := by
  rw [Element.hasKey, keeps.type, keeps.inst, Element.hasKey]

theorem totalSize (elements : List Element) :
    Element.totalSize (elements.map change) = Element.totalSize elements := by
  induction elements with
  | nil => rfl
  | cons element elements ih =>
      rw [List.map_cons, Element.totalSize, Element.totalSize, ih, Element.size, keeps.value,
        Element.size]

theorem encode (element : Element) : (change element).encode = element.encode := by
  rw [Element.encode, Element.octets, keeps element, keeps.type, keeps.value]
  rfl

end Element.KeepsFrame

theorem Slot.take_map (keeps : Element.KeepsFrame change) (slot : Slot) (elements : List Element) :
    slot.take (elements.map change) =
      ((slot.take elements).1.map change, (slot.take elements).2.map change) := by
  have accepts : slot.accepts ∘ change = slot.accepts :=
    funext fun element => keeps.hasKey slot.type slot.inst element
  unfold Slot.take
  split
  · simp only [List.partition_eq_filter_filter, List.filter_map, Function.comp_assoc, accepts]
  · simp only [List.find?_map, List.eraseP_map, accepts, Option.toList_map]

def Filled.map (change : Element → Element) (filled : Filled) : Filled :=
  { filled with elements := filled.elements.map change }

theorem Filled.fill_map (keeps : Element.KeepsFrame change) (layout : List Slot)
    (elements : List Element) :
    fill layout (elements.map change) =
      ((fill layout elements).1.map (Filled.map change),
        (fill layout elements).2.map change) := by
  induction layout generalizing elements with
  | nil => rfl
  | cons slot layout ih =>
      simp only [fill, Slot.take_map keeps, ih]
      rfl

namespace Body

def map (change : Element → Element) : Body → Body
  | settled type slots additional =>
      settled type (slots.map (Filled.map change)) (additional.map change)
  | generic type additional => generic type (additional.map change)

theorem ofElements_map (keeps : Element.KeepsFrame change) (type : UInt8)
    (elements : List Element) :
    ofElements type (elements.map change) = (ofElements type elements).map change := by
  unfold ofElements
  split
  · rfl
  · split
    · rfl
    · simp only [Filled.fill_map keeps]
      rfl

theorem elements_map (change : Element → Element) (body : Body) :
    (body.map change).elements = body.elements.map change := by
  cases body with
  | generic => rfl
  | settled type slots additional =>
      simp only [map, elements, Body.slots, Body.additional, List.flatMap_map, List.map_append,
        List.map_flatMap]
      rfl

def frames (body : Body) : List (Slot × List Frame) × List Frame :=
  (body.slots.map fun filled => (filled.slot, filled.elements.map Element.frame),
    body.additional.map Element.frame)

theorem frames_map (keeps : Element.KeepsFrame change) (body : Body) :
    (body.map change).frames = body.frames := by
  cases body with
  | generic type additional =>
      rw [frames, frames, map, Body.additional, Body.additional, keeps.map_frame]
      rfl
  | settled type slots additional =>
      have framed : ∀ filled : Filled,
          (filled.map change).elements.map Element.frame = filled.elements.map Element.frame :=
        fun filled => keeps.map_frame filled.elements
      simp only [frames, map, Body.slots, Body.additional, List.map_map, Function.comp_def, framed,
        keeps.map_frame]
      rfl

end Body

namespace Message

variable {small large groups : Groups} {octets rest : Octets} {message : Message} {header : Header}

theorem marshal_map (keeps : Element.KeepsFrame change) (message : Message) :
    marshal { message with body := message.body.map change } = message.marshal := by
  have encode : Element.encode ∘ change = Element.encode := funext keeps.encode
  unfold marshal encodedLength elements
  simp only [Body.elements_map, keeps.totalSize, List.mapM_map, encode]
  rfl

theorem parse_of_foreign (read : Header.read octets = (.ok header, rest))
    (foreign : header.version ≠ Header.supportedVersion) :
    parse groups octets = .ok { header, body := .generic header.type [] } := by
  simp only [parse, read, if_pos foreign]

theorem exists_marshal_of_parse (parsed : parse groups octets = .ok message) :
    ∃ written, message.marshal = .ok written := by
  obtain ⟨rest, read, _⟩ := parse_cases parsed
  by_cases version : message.header.version = Header.supportedVersion
  · have supported : versionBits octets = some Header.supportedVersion :=
      (versionBits_of_read read).trans (congrArg some version)
    obtain ⟨written, marshalled, _⟩ := marshal_of_parse supported parsed
    exact ⟨written, marshalled⟩
  · have bare := Except.ok.inj (parsed.symm.trans (parse_of_foreign read version))
    rw [bare]
    exact marshal_bare rfl

theorem parse_prune (within : small.Within large) (parsed : parse large octets = .ok message) :
    parse small octets =
      .ok { message with body := message.body.map (Element.prune small) } := by
  obtain ⟨rest, read, bodied⟩ := parse_cases parsed
  by_cases version : message.header.version = Header.supportedVersion
  · obtain ⟨elements, accepted, body⟩ := bodied version
    obtain ⟨covers, front, back, whole, length, decoded⟩ := parseBody_eq_ok.mp accepted
    have fewer : parseBody small message.header octets.length rest =
        .ok (elements.map (Element.prune small)) :=
      parseBody_eq_ok.mpr
        ⟨covers, front, back, whole, length, Element.decodeAll_prune within decoded⟩
    rw [parse_of_read read version fewer, Body.ofElements_map (Element.frame_prune small), body]
  · have body : message.body = .generic message.header.type [] :=
      congrArg Message.body (Except.ok.inj (parsed.symm.trans (parse_of_foreign read version)))
    rw [parse_of_foreign read version, body]
    rfl

/-- Whoever takes fewer types for groups reads whatever is read with more of them: the same elements
up to children that are not looked for, in the same slots, and the same octets are written of
them. -/
theorem fewer_groups (small large : Groups) (within : small.Within large) (octets : Octets) :
    (∀ elements, Element.decodeAll large octets = .ok elements →
      ∃ others, Element.decodeAll small octets = .ok others ∧
        others.length = elements.length ∧
        others.map Element.frame = elements.map Element.frame ∧
        others = elements.map (Element.prune small)) ∧
    ∀ message, parse large octets = .ok message →
      ∃ other written, parse small octets = .ok other ∧ other.header = message.header ∧
        other.body = message.body.map (Element.prune small) ∧
        other.body.frames = message.body.frames ∧
        message.marshal = .ok written ∧ other.marshal = .ok written := by
  have keeps : Element.KeepsFrame (Element.prune small) := Element.frame_prune small
  constructor
  · intro elements decoded
    exact ⟨elements.map (Element.prune small), Element.decodeAll_prune within decoded,
      List.length_map _, keeps.map_frame elements, rfl⟩
  · intro message parsed
    obtain ⟨written, marshalled⟩ := exists_marshal_of_parse parsed
    exact ⟨{ message with body := message.body.map (Element.prune small) }, written,
      parse_prune within parsed, rfl, rfl, Body.frames_map keeps message.body, marshalled,
      (marshal_map keeps message).trans marshalled⟩

theorem fewer_groups_vendor :
    let large : Groups := .withExtra [200]
    let front : Octets :=
      [200, 0, 5, 0, 73, 0, 1, 0, 5, 93, 0, 9, 0, 200, 0, 5, 0, 73, 0, 1, 0, 5]
    let vendor : Element := .group 200 0 [73, 0, 1, 0, 5] [.leaf .ebi 0 [5]]
    let plain : Element := .leaf 200 0 [73, 0, 1, 0, 5]
    let context : List Element → Element :=
      .group .bearerContext 0 [200, 0, 5, 0, 73, 0, 1, 0, 5]
    let octets : Octets :=
      [0x48, 32, 0, 30, 0, 0, 0, 1, 0, 0, 7, 0, 200, 0, 5, 0, 73, 0, 1, 0, 5, 93, 0, 9, 0, 200, 0,
        5, 0, 73, 0, 1, 0, 5]
    let header : Header := { type := 32, length := 30, teid := some 1, sequence := 7 }
    let message : Message := { header, body := .ofElements 32 [vendor, context [vendor]] }
    Groups.standard.Within large ∧
    Element.decodeAll large front = .ok [vendor, context [vendor]] ∧
    Element.decodeAll .standard front = .ok [plain, context [plain]] ∧
    parse large octets = .ok message ∧
    ∃ other written, parse .standard octets = .ok other ∧ other.header = header ∧
      other.body = message.body.map (Element.prune .standard) ∧
      other.body.frames = message.body.frames ∧
      message.marshal = .ok written ∧ other.marshal = .ok written := by
  intro large front vendor plain context octets header message
  have within : Groups.standard.Within large := Groups.standard_within [200]
  have decoded : Element.decodeAll large front = .ok [vendor, context [vendor]] := rfl
  have read : Header.read octets = (.ok header, front) := by
    unfold octets header
    rfl
  have accepted : parseBody large header octets.length front = .ok [vendor, context [vendor]] :=
    parseBody_eq_ok.mpr ⟨Nat.le_refl 34, front, [], rfl, rfl, decoded⟩
  have parsed : parse large octets = .ok message := parse_of_read read rfl accepted
  obtain ⟨others, same, _, _, rfl⟩ := (fewer_groups _ _ within front).1 _ decoded
  obtain ⟨other, written, fewer, headed, body, frames, marshalled⟩ :=
    (fewer_groups _ _ within octets).2 _ parsed
  exact ⟨within, decoded, same, parsed, other, written, fewer, headed, body, frames, marshalled⟩

end Message

end TunnelControl
