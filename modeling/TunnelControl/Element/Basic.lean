import TunnelControl.Element.Frame
import TunnelControl.Element.Groups

namespace TunnelControl

inductive Element where
  | leaf (type : ElementType) (inst : UInt8) (value : Octets)
  | group (type : ElementType) (inst : UInt8) (value : Octets) (children : List Element)
  deriving Inhabited

namespace Element

def type : Element → ElementType
  | leaf type _ _ => type
  | group type _ _ _ => type

def inst : Element → UInt8
  | leaf _ inst _ => inst
  | group _ inst _ _ => inst

def value : Element → Octets
  | leaf _ _ value => value
  | group _ _ value _ => value

def children : Element → List Element
  | leaf _ _ _ => []
  | group _ _ _ children => children

def isGroup : Element → Bool
  | leaf _ _ _ => false
  | group _ _ _ _ => true

def maxDepth : Nat := 8

def ofValue (type : ElementType) (inst : UInt8) (value : Octets) : Element :=
  leaf type (inst % 16) value

def frame (element : Element) : Frame := ⟨element.type, element.inst, element.value⟩

/-- The octets of the element. They end in the whole value even if its size does not fit the size
field, in which case `encode` reports the element or whatever holds it. -/
def octets (element : Element) : Octets := element.frame.octets

def concat (elements : List Element) : Octets := elements.flatMap octets

def ofChildren (type : ElementType) (inst : UInt8) (children : List Element) : Element :=
  group type (inst % 16) (concat children) children

def withInst (inst : UInt8) : Element → Element
  | leaf type _ value => leaf type (inst % 16) value
  | group type _ value children => group type (inst % 16) value children

def size (element : Element) : Nat := 4 + element.value.length

def totalSize : List Element → Nat
  | [] => 0
  | element :: elements => element.size + totalSize elements

def maxValue : Nat := 65535

def encode (element : Element) : Except Error Octets :=
  if maxValue < element.value.length then
    .error (.unencodable (.longElement element.type element.value.length))
  else .ok element.octets

@[simp] theorem length_octets (element : Element) : element.octets.length = element.size := by
  simp [octets, frame, size]

@[simp] theorem length_concat (elements : List Element) :
    (concat elements).length = totalSize elements := by
  induction elements with
  | nil => rfl
  | cons element elements ih => simpa [concat, totalSize] using ih

/-- Reads a string of elements frame by frame. Frames are interpreted in their order, so that the
error reported is the first one from left to right, an error inside a group before any after it. -/
def forest (interpret : Frame → Except Error Element) (octets : Octets) :
    Except Error (List Element) := do
  let (frames, stop) := Reader.all Frame.read octets
  let elements ← frames.mapM interpret
  match stop with
  | none => return elements
  | some error => throw error

def ofFrame (groups : Groups) : (level : Nat) → Frame → Except Error Element
  | level, frame =>
      if groups.contains frame.type then
        match level with
        | 0 => .error (.malformed (.nestedTooDeep frame.type))
        | level + 1 => do
            let children ← forest (ofFrame groups level) frame.value
            return group frame.type frame.inst frame.value children
      else .ok (leaf frame.type frame.inst frame.value)

def read (groups : Groups) : Reader Element := do
  let frame ← Frame.read
  fun rest => (ofFrame groups maxDepth frame, rest)

def decodeAll (groups : Groups) (octets : Octets) : Except Error (List Element) :=
  forest (ofFrame groups maxDepth) octets

def hasKey (type : ElementType) (inst : UInt8) (element : Element) : Bool :=
  element.type == type && element.inst == inst

def find? (element : Element) (type : ElementType) (inst : UInt8) : Option Element :=
  element.children.find? (hasKey type inst)

def findAll (element : Element) (type : ElementType) : List Element :=
  element.children.filter (·.type == type)

def addChild (child : Element) : Element → Except Error Element
  | leaf type _ _ => .error (.malformed (.notGrouped type))
  | group type inst _ children =>
      let children := children ++ [child]
      .ok (group type inst (concat children) children)

/-- Takes the first child of this type and instance out of the group. If there is none, the group
stays as it is, its value as it was read. -/
def removeChild (childType : ElementType) (childInst : UInt8) :
    Element → Except Error (Option Element × Element)
  | leaf type _ _ => .error (.malformed (.notGrouped type))
  | group type inst value children =>
      match children.find? (hasKey childType childInst) with
      | none => .ok (none, group type inst value children)
      | some removed =>
          let children := children.eraseP (hasKey childType childInst)
          .ok (some removed, group type inst (concat children) children)

end Element

end TunnelControl
