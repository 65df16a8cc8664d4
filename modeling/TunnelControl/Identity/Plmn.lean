import TunnelControl.Identity.Digits
import TunnelControl.Octets.Reader

namespace TunnelControl

structure Plmn where
  mcc : String
  mnc : String
  deriving DecidableEq, Inhabited

namespace Plmn

def encode (plmn : Plmn) : Except Error Octets := do
  let mcc ← Digits.values plmn.mcc
  let mnc ← Digits.values plmn.mnc
  match mcc, mnc with
  | [a, b, c], [d, e] => return [Digits.octet a b, Digits.octet c Digits.filler, Digits.octet d e]
  | [a, b, c], [d, e, f] => return [Digits.octet a b, Digits.octet c f, Digits.octet d e]
  | _, _ => throw (.unencodable (.plmn plmn.mcc plmn.mnc))

/-- The codes in three octets. A nibble above nine is shown by the character that follows the
digits at its distance. -/
def ofOctets (first second third : UInt8) : Plmn :=
  let low (octet : UInt8) := Digits.character (octet.toNat % 16)
  let high (octet : UInt8) := Digits.character (octet.toNat / 16)
  let last := if second.toNat / 16 = Digits.filler then [] else [high second]
  { mcc := String.ofList [low first, high first, low second]
    mnc := String.ofList (low third :: high third :: last) }

def read : Reader Plmn := do
  Reader.need 3
  return ofOctets (← Reader.u8) (← Reader.u8) (← Reader.u8)

end Plmn

end TunnelControl
