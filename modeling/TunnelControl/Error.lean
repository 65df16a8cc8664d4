import TunnelControl.Address.Text
import TunnelControl.Text.Quoted

namespace TunnelControl

inductive Malformed where
  | unknownCause (code : UInt8)
  | unknownElement (code : UInt8)
  | nestedTooDeep (type : UInt8)
  | notGrouped (type : UInt8)
  | addressSize (octets : Nat)
  | lengthBelowHeader (length : UInt16)
  | stated (text : String)
  deriving DecidableEq, Inhabited

inductive Unencodable where
  | nonDigit (text : String)
  | plmn (mcc mnc : String)
  | longLabel (octets : Nat) (name : String)
  | longContainer (id : UInt16) (octets : Nat)
  | longElement (type : UInt8) (octets : Nat)
  | longMessage (type : UInt8) (octets : Nat)
  | stated (text : String)
  deriving DecidableEq, Inhabited

inductive Absence where
  | teid (interface : UInt8)
  | bearer (name : String)
  | bearerWithEbi (ebi : UInt8)
  | stated (text : String)
  deriving DecidableEq, Inhabited

inductive Error where
  | tooShort (needed available : Nat)
  | malformed (reason : Malformed)
  | wrongElement (expected actual : UInt8)
  | missingElement (type : UInt8)
  | notAccepted (cause : UInt8)
  | unknownImsi (imsi : String)
  | unknownTeid (teid : UInt32)
  | notFound (what : Absence)
  | noIdentity
  | noHandler (type : UInt8)
  | timeout
  | outOfSequence (expected actual : UInt32)
  | foreignVersion (version : UInt8)
  | unknownMessage (type : UInt8)
  | unexpectedMessage (expected actual : UInt8)
  | unknownPdnType (code : UInt8)
  | unencodable (reason : Unencodable)
  | defaultBearer
  | retired
  | configuration (text : String)
  | unbound
  | network (text : String)
  | inHandler (type : UInt8) (peer : SocketAddress) (failure : Error)
  /-- Octets were read that are not there. No reader of a wire format ends in this: each checks how
  much is there before it reads. -/
  | overrun
  deriving DecidableEq, Inhabited

namespace Malformed

def message : Malformed → String
  | unknownCause code => s!"Unknown cause value: {code}"
  | unknownElement code => s!"Unknown IE type: {code}"
  | nestedTooDeep type => s!"Grouped IE type {type} nested deeper than 8"
  | notGrouped type => s!"IE type {type} is not grouped"
  | addressSize octets => s!"IP Address IE of {octets} bytes"
  | lengthBelowHeader length => s!"Length {length} shorter than header"
  | stated text => text

end Malformed

namespace Unencodable

def message : Unencodable → String
  | nonDigit text => s!"Non-digit in {Text.quoted text}"
  | plmn mcc mnc => s!"Invalid PLMN {mcc}-{mnc}"
  | longLabel octets name => s!"label of {octets} octets in {Text.quoted name}"
  | longContainer id octets =>
      s!"PCO container {Hexadecimal.padded 4 id.toNat} of {octets} octets"
  | longElement type octets => s!"IE type {type} value of {octets} bytes exceeds length field"
  | longMessage type octets => s!"Message type {type} of {octets} bytes exceeds length field"
  | stated text => text

end Unencodable

namespace Absence

def message : Absence → String
  | teid interface => s!"TEID for interface type {interface}"
  | bearer name => s!"bearer {name}"
  | bearerWithEbi ebi => s!"bearer with EBI {ebi}"
  | stated text => text

end Absence

namespace Error

def message : Error → String
  | tooShort needed available => s!"Buffer too short: need {needed} bytes, have {available}"
  | malformed reason => s!"Invalid message format: {reason.message}"
  | wrongElement expected actual => s!"Wrong IE type: expected {expected}, got {actual}"
  | missingElement type => s!"Required IE missing: type {type}"
  | notAccepted cause => s!"Cause not accepted: {cause}"
  | unknownImsi imsi => s!"Unknown IMSI: {imsi}"
  | unknownTeid teid => s!"Invalid TEID: {Hexadecimal.padded 8 teid.toNat}"
  | notFound what => s!"Not found: {what.message}"
  | noIdentity => "Session has no IMSI"
  | noHandler type => s!"No handler for message type {type}"
  | timeout => "Timed out"
  | outOfSequence expected actual =>
      s!"Sequence mismatch: expected {Hexadecimal.padded 6 expected.toNat}, " ++
        s!"got {Hexadecimal.padded 6 actual.toNat}"
  | foreignVersion version => s!"Invalid GTP version: {version}"
  | unknownMessage type => s!"Invalid message type: {type}"
  | unexpectedMessage expected actual =>
      s!"Unexpected message: expected type {expected}, got {actual}"
  | unknownPdnType code => s!"Invalid PDN type: {code}"
  | unencodable reason => s!"Encoding error: {reason.message}"
  | defaultBearer => "The default bearer cannot be removed"
  | retired => "Session already removed"
  | configuration text => s!"Configuration error: {text}"
  | unbound => "Conn is not bound"
  | network text => s!"I/O error: {text}"
  | inHandler type peer failure =>
      s!"Handler for message type {type} from {peer.text} failed: {failure.message}"
  | overrun => "Read past the end of the octets"

def root : Error → Error
  | inHandler _ _ failure => failure.root
  | error => error

def inHandlers (error : Error) (contexts : List (UInt8 × SocketAddress)) : Error :=
  contexts.foldl (fun error context => .inHandler context.1 context.2 error) error

end Error

end TunnelControl
