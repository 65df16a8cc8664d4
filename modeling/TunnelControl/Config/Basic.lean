import TunnelControl.Element.Groups
import TunnelControl.Error
import TunnelControl.Yaml.Value

/-!
The text form of settings serves programs that load them. Nothing is proved about it, nor about the
reader of such texts in `Yaml`.
-/

namespace TunnelControl

structure Config where
  address : SocketAddress := ⟨.v4 ⟨0⟩, 0, 2123⟩
  interface : UInt8 := 0
  restartCounter : UInt8 := 0
  validation : Bool := true
  mintAttempts : UInt32 := 1000
  inboxCapacity : UInt64 := 8
  receiveLimit : UInt64 := 65535
  extraGroups : List ElementType := []
  deriving DecidableEq, Inhabited

namespace Config

def groups (config : Config) : Groups := .withExtra config.extraGroups

def ofDocument? (document : Yaml.Document) : Option Config := do
  let entries ← document.entries? document.value
  let octet (value : Yaml.Node) := (document.below? UInt8.size value).map UInt8.ofNat
  let word (value : Yaml.Node) := (document.below? UInt64.size value).map UInt64.ofNat
  let default : Config := {}
  return {
    address := ← Yaml.field? entries "local_addr" default.address
      fun value => (document.text? value).bind SocketAddress.ofText?
    interface := ← Yaml.field? entries "local_if_type" default.interface octet
    restartCounter := ← Yaml.field? entries "restart_counter" default.restartCounter octet
    validation := ← Yaml.field? entries "validation" default.validation document.bool?
    mintAttempts := ← Yaml.field? entries "teid_alloc_attempts" default.mintAttempts
      fun value => (document.below? UInt32.size value).map UInt32.ofNat
    inboxCapacity := ← Yaml.field? entries "inbox_capacity" default.inboxCapacity word
    receiveLimit := ← Yaml.field? entries "recv_buffer_size" default.receiveLimit word
    extraGroups := ← Yaml.field? entries "extra_grouped_ie_types" default.extraGroups
      fun value => (document.list? value).bind (·.mapM octet) }

def ofText? (text : String) : Except Error Config :=
  match (Yaml.Document.ofText? text).bind ofDocument? with
  | some config => .ok config
  | none => .error (.configuration "unreadable settings")

def text (config : Config) : String :=
  let address := config.address.text
  let quoted := if address.startsWith "[" then "'" ++ address ++ "'" else address
  let items :=
    if config.extraGroups.isEmpty then [" []"]
    else config.extraGroups.map fun type => s!"\n- {type}"
  String.join [
    s!"local_addr: {quoted}\n",
    s!"local_if_type: {config.interface}\n",
    s!"restart_counter: {config.restartCounter}\n",
    s!"validation: {config.validation}\n",
    s!"teid_alloc_attempts: {config.mintAttempts}\n",
    s!"inbox_capacity: {config.inboxCapacity}\n",
    s!"recv_buffer_size: {config.receiveLimit}\n",
    "extra_grouped_ie_types:" ++ String.join items ++ "\n"]

end Config

end TunnelControl
