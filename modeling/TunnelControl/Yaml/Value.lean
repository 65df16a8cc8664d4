import TunnelControl.Yaml.Node

namespace TunnelControl.Yaml

namespace Scalar

def isOpen (kind : String) (scalar : Scalar) : Bool :=
  scalar.style = .plain ||
    (scalar.style = .literal && scalar.tag = some ("tag:yaml.org,2002:" ++ kind))

def below? (bound : Nat) (scalar : Scalar) : Option Nat := do
  guard (scalar.isOpen "int")
  let digits := match scalar.text.toList with
    | '+' :: digits => digits
    | digits => digits
  match digits with
  | '0' :: 'x' :: digits => numeral? 16 bound digits
  | '0' :: 'o' :: digits => numeral? 8 bound digits
  | '0' :: 'b' :: digits => numeral? 2 bound digits
  | '0' :: _ :: _ => none
  | digits => numeral? 10 bound digits

def bool? (scalar : Scalar) : Option Bool := do
  guard (scalar.isOpen "bool")
  if ["true", "True", "TRUE"].contains scalar.text then some true
  else if ["false", "False", "FALSE"].contains scalar.text then some false
  else none

def isEmpty (scalar : Scalar) : Bool := scalar.style = .plain && scalar.text.isEmpty

end Scalar

namespace Document

variable (document : Document)

def scalar? (node : Node) : Option Scalar := do
  match ← document.resolve node with
  | .scalar scalar => some scalar
  | _ => none

def text? (node : Node) : Option String := (document.scalar? node).map Scalar.text

def below? (bound : Nat) (node : Node) : Option Nat := do (← document.scalar? node).below? bound

def bool? (node : Node) : Option Bool := do (← document.scalar? node).bool?

def list? (node : Node) : Option (List Node) := do
  match ← document.resolve node with
  | .list items => some items
  | .scalar scalar => if scalar.isEmpty then some [] else none
  | _ => none

def entries? (node : Node) : Option (List (String × Node)) := do
  match ← document.resolve node with
  | .map entries => entries.mapM fun (key, value) => (document.text? key).map (·, value)
  | .scalar scalar => if scalar.isEmpty then some [] else none
  | _ => none

end Document

def field? {α : Type} (entries : List (String × Node)) (key : String) (default : α)
    (read : Node → Option α) : Option α :=
  match entries.filter (·.1 == key) with
  | [] => some default
  | [(_, value)] => read value
  | _ => none

end TunnelControl.Yaml
