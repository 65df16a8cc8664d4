namespace TunnelControl.Hexadecimal

def digits (n : Nat) : String := String.ofList (Nat.toDigits 16 n)

def padded (width n : Nat) : String :=
  let shortest := Nat.toDigits 16 n
  "0x" ++ String.ofList (List.replicate (width - shortest.length) '0' ++ shortest)

def ofOctets (octets : List UInt8) : String :=
  octets.foldl (fun text octet =>
    (text.push (octet.toNat / 16).digitChar).push (octet.toNat % 16).digitChar) ""

def digit? (c : Char) : Option Nat :=
  if c.isDigit then some (c.toNat - '0'.toNat)
  else if 'a' ≤ c ∧ c ≤ 'f' then some (c.toNat - 'a'.toNat + 10)
  else if 'A' ≤ c ∧ c ≤ 'F' then some (c.toNat - 'A'.toNat + 10)
  else none

def pairs? (done : List UInt8) : List Char → Option (List UInt8)
  | [] => some done.reverse
  | [_] => none
  | high :: low :: rest =>
      match digit? high, digit? low with
      | some high, some low => pairs? (UInt8.ofNat (16 * high + low) :: done) rest
      | _, _ => none

def octets? (text : String) : Option (List UInt8) := pairs? [] text.toList

end TunnelControl.Hexadecimal
