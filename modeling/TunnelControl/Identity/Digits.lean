import TunnelControl.Error

namespace TunnelControl.Digits

def value? (c : Char) : Option Nat := if c.isDigit then some (c.toNat - '0'.toNat) else none

/-- The character for a nibble: a digit for numbers below ten, and the characters after `9` in
their order for the others. -/
def character (nibble : Nat) : Char := Char.ofNat ('0'.toNat + nibble)

def values (text : String) : Except Error (List Nat) :=
  match text.toList.mapM value? with
  | some digits => .ok digits
  | none => .error (.unencodable (.nonDigit text))

def octet (low high : Nat) : UInt8 := UInt8.ofNat (low + 16 * high)

def filler : Nat := 0xf

def pack : List Nat → Octets
  | [] => []
  | [digit] => [octet digit filler]
  | first :: second :: digits => octet first second :: pack digits

def nibbles (octets : Octets) : List Nat :=
  octets.flatMap fun octet => [octet.toNat % 16, octet.toNat / 16]

def encode (text : String) : Except Error Octets := pack <$> values text

def decode (octets : Octets) : String :=
  String.ofList (((nibbles octets).takeWhile (· ≤ 9)).map character)

end TunnelControl.Digits
