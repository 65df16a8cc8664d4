import TunnelControl.Element.Attribute
import TunnelControl.Message.Layout

namespace TunnelControl

namespace Slot

def accepts (slot : Slot) (element : Element) : Bool := element.hasKey slot.type slot.inst

def take (slot : Slot) (elements : List Element) : List Element × List Element :=
  if slot.repeated then elements.partition slot.accepts
  else ((elements.find? slot.accepts).toList, elements.eraseP slot.accepts)

end Slot

structure Filled where
  slot : Slot
  elements : List Element
  deriving Inhabited

namespace Filled

/-- Fills the slots one after the other, each from what the ones before it left. -/
def fill : List Slot → List Element → List Filled × List Element
  | [], elements => ([], elements)
  | slot :: slots, elements =>
      let (taken, left) := slot.take elements
      let (filled, additional) := fill slots left
      (⟨slot, taken⟩ :: filled, additional)

end Filled

inductive Body where
  | settled (type : MessageType) (slots : List Filled) (additional : List Element)
  | generic (type : UInt8) (additional : List Element)
  deriving Inhabited

namespace Body

def ofElements (type : UInt8) (elements : List Element) : Body :=
  match MessageType.ofCode? type with
  | none => generic type elements
  | some known =>
      match known.layout? with
      | none => generic type elements
      | some layout =>
          let (slots, additional) := Filled.fill layout elements
          settled known slots additional

def type : Body → UInt8
  | settled type _ _ => type.code
  | generic type _ => type

def slots : Body → List Filled
  | settled _ slots _ => slots
  | generic _ _ => []

def additional : Body → List Element
  | settled _ _ additional => additional
  | generic _ additional => additional

def elements (body : Body) : List Element := body.slots.flatMap Filled.elements ++ body.additional

def held (body : Body) (type : ElementType) (inst : UInt8 := 0) : List Element :=
  match body.slots.find? fun filled => filled.slot.key = (type, inst) with
  | some filled => filled.elements
  | none => []

def slot? (body : Body) (type : ElementType) (inst : UInt8 := 0) : Option Element :=
  (body.held type inst).head?

end Body

def Element.required (slot : Option Element) (type : ElementType) : Except Error Element :=
  match slot with
  | some element => .ok element
  | none => .error (.missingElement type)

end TunnelControl
