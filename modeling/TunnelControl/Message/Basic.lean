import TunnelControl.Message.Body
import TunnelControl.Message.Header

namespace TunnelControl

structure Message where
  header : Header
  body : Body
  deriving Inhabited

namespace Message

def isAddressed (type : UInt8) : Bool :=
  match MessageType.ofCode? type with
  | some type => type.hasTeid
  | none => true

def ofElements (type : UInt8) (teid sequence : UInt32) (elements : List Element) : Message :=
  { header :=
      if isAddressed type then .toTunnel type teid sequence else .toNode type sequence
    body := .ofElements type elements }

def generic (type : UInt8) (teid sequence : UInt32) (elements : List Element) : Message :=
  { header := .toTunnel type teid sequence, body := .generic type elements }

def echoRequest (sequence : UInt32) (recovery : UInt8) : Message :=
  ofElements MessageType.echoRequest.code 0 sequence [.ofRecovery recovery]

def echoResponse (sequence : UInt32) (recovery : UInt8) : Message :=
  ofElements MessageType.echoResponse.code 0 sequence [.ofRecovery recovery]

def versionNotSupported (sequence : UInt32) : Message :=
  ofElements MessageType.versionNotSupportedIndication.code 0 sequence []

def type (message : Message) : UInt8 := message.header.type

def sequence (message : Message) : UInt32 := message.header.sequence

def teid (message : Message) : UInt32 := message.header.teid.getD 0

def withSequence (sequence : UInt32) (message : Message) : Message :=
  { message with header.sequence := sequence % Header.sequenceBound }

def withTeid (teid : UInt32) (message : Message) : Message :=
  { message with header.teid := message.header.teid.map fun _ => teid }

def response? (message : Message) : Option MessageType :=
  (MessageType.ofCode? message.type).bind MessageType.response?

def isRequest (message : Message) : Bool := message.response?.isSome

def elements (message : Message) : List Element := message.body.elements

def find? (message : Message) (type : ElementType) (inst : UInt8) : Option Element :=
  message.elements.find? (Element.hasKey type inst)

def bodyAs (type : MessageType) (message : Message) : Except Error Body :=
  match message.body with
  | .settled found slots additional =>
      if found = type then .ok (.settled found slots additional)
      else .error (.unexpectedMessage type.code message.type)
  | .generic _ _ => .error (.unexpectedMessage type.code message.type)

/-- The number that the length field holds: what the message takes without its first four octets. -/
def encodedLength (message : Message) : Nat :=
  message.header.size - Header.fixedSize + Element.totalSize message.elements

def maxLength : Nat := 65535

def marshal (message : Message) : Except Error Octets := do
  let length := message.encodedLength
  if maxLength < length then throw (.unencodable (.longMessage message.type length))
  let elements ← message.elements.mapM Element.encode
  return { message.header with length := UInt16.ofNat length }.encode ++ elements.flatten

def parseBody (groups : Groups) (header : Header) (available : Nat) (rest : Octets) :
    Except Error (List Element) := do
  let total := Header.fixedSize + header.length.toNat
  if available < total then throw (.tooShort total available)
  if total < header.size then throw (.malformed (.lengthBelowHeader header.length))
  Element.decodeAll groups (← (Reader.take (total - header.size)).value rest)

def parse (groups : Groups) (octets : Octets) : Except Error Message :=
  match Header.read octets with
  | (.error error, _) => .error error
  | (.ok header, rest) =>
      if header.version ≠ Header.supportedVersion then
        .ok { header, body := .generic header.type [] }
      else do
        let elements ← parseBody groups header octets.length rest
        return { header, body := .ofElements header.type elements }

end Message

end TunnelControl
