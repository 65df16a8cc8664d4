import TunnelControl.Address.Basic
import TunnelControl.Text.Hexadecimal

namespace TunnelControl

namespace Ipv4

def text (address : Ipv4) : String :=
  ".".intercalate (address.toOctets.map fun octet => toString octet.toNat)

end Ipv4

namespace Ipv6

/-- The start and the length of the first longest run of zeros, from index `i` on, where `current`
is the run that ends just before `i` and `best` the longest one so far. -/
def longestZeros : List Nat → (i : Nat) → (current best : Nat × Nat) → Nat × Nat
  | [], _, _, best => best
  | group :: groups, i, current, best =>
      if group = 0 then
        let current := if current.2 = 0 then (i, 1) else (current.1, current.2 + 1)
        longestZeros groups (i + 1) current (if best.2 < current.2 then current else best)
      else longestZeros groups (i + 1) (0, 0) best

def mapped? (address : Ipv6) : Option Ipv4 :=
  if address.bits.toNat / 0x100000000 = 0xffff then
    some ⟨UInt32.ofNat address.bits.toNat⟩
  else none

def text (address : Ipv6) : String :=
  match address.mapped? with
  | some embedded => "::ffff:" ++ embedded.text
  | none =>
      let groups := address.groups
      let write (groups : List Nat) := ":".intercalate (groups.map Hexadecimal.digits)
      let (start, length) := longestZeros groups 0 (0, 0) (0, 0)
      if 1 < length then
        write (groups.take start) ++ "::" ++ write (groups.drop (start + length))
      else write groups

end Ipv6

namespace IpAddress

def text : IpAddress → String
  | .v4 address => address.text
  | .v6 address => address.text

end IpAddress

namespace SocketAddress

def text (address : SocketAddress) : String :=
  let host :=
    match address.ip with
    | .v4 ip => ip.text
    | .v6 ip =>
        let zone := if address.zone = 0 then "" else "%" ++ toString address.zone.toNat
        "[" ++ ip.text ++ zone ++ "]"
  host ++ ":" ++ toString address.port.toNat

end SocketAddress

namespace Address

def digit? (radix : Nat) (c : Char) : Option Nat :=
  (Hexadecimal.digit? c).filter (· < radix)

def digits (radix : Nat) : List Char → List Nat × List Char
  | [] => ([], [])
  | c :: cs =>
      match digit? radix c with
      | some value => let (values, rest) := digits radix cs; (value :: values, rest)
      | none => ([], c :: cs)

def number? (radix bound : Nat) (cs : List Char) : Option (Nat × List Char) :=
  let (values, rest) := digits radix cs
  let value := values.foldl (fun n value => radix * n + value) 0
  if values.isEmpty ∨ bound ≤ value then none else some (value, rest)

def byte? (cs : List Char) : Option (Nat × List Char) :=
  let (values, _) := digits 10 cs
  if 3 < values.length ∨ (1 < values.length ∧ values.head? = some 0) then none
  else number? 10 256 cs

def after? (c : Char) : List Char → Option (List Char)
  | [] => none
  | d :: cs => if d = c then some cs else none

def ipv4? (cs : List Char) : Option (Ipv4 × List Char) := do
  let (a, cs) ← byte? cs
  let (b, cs) ← byte? (← after? '.' cs)
  let (c, cs) ← byte? (← after? '.' cs)
  let (d, cs) ← byte? (← after? '.' cs)
  return (⟨UInt32.ofNat (((a * 256 + b) * 256 + c) * 256 + d)⟩, cs)

def group? (cs : List Char) : Option (Nat × List Char) :=
  let (values, _) := digits 16 cs
  if 4 < values.length then none else number? 16 65536 cs

def groups : (limit : Nat) → (first : Bool) → List Char → List Nat × Bool × List Char
  | 0, _, cs => ([], false, cs)
  | limit + 1, first, cs =>
      let start? := if first then some cs else after? ':' cs
      let embedded? := if limit = 0 then none else start?.bind ipv4?
      match embedded? with
      | some (address, rest) =>
          let bits := address.bits.toNat
          ([bits / 65536, bits % 65536], true, rest)
      | none =>
          match start?.bind group? with
          | some (group, rest) =>
              let (more, embedded, rest) := groups limit false rest
              (group :: more, embedded, rest)
          | none => ([], false, cs)

def ipv6? (cs : List Char) : Option (Ipv6 × List Char) := do
  let (head, embedded, cs) := groups 8 true cs
  if head.length = 8 then return (Ipv6.ofGroups head, cs)
  if embedded then none
  let cs ← after? ':' cs
  let cs ← after? ':' cs
  let (tail, _, cs) := groups (7 - head.length) true cs
  let zeros := List.replicate (8 - head.length - tail.length) 0
  return (Ipv6.ofGroups (head ++ zeros ++ tail), cs)

def port? (cs : List Char) : Option (UInt16 × List Char) := do
  let (port, cs) ← number? 10 65536 (← after? ':' cs)
  return (UInt16.ofNat port, cs)

def zone (cs : List Char) : UInt32 × List Char :=
  match (after? '%' cs).bind (number? 10 UInt32.size) with
  | some (zone, cs) => (UInt32.ofNat zone, cs)
  | none => (0, cs)

def socket4? (cs : List Char) : Option (SocketAddress × List Char) := do
  let (ip, cs) ← ipv4? cs
  let (port, cs) ← port? cs
  return (⟨.v4 ip, 0, port⟩, cs)

def socket6? (cs : List Char) : Option (SocketAddress × List Char) := do
  let (ip, cs) ← ipv6? (← after? '[' cs)
  let (zone, cs) := zone cs
  let (port, cs) ← port? (← after? ']' cs)
  return (⟨.v6 ip, zone, port⟩, cs)

def whole? {α : Type} (read : List Char → Option (α × List Char)) (text : String) : Option α :=
  match read text.toList with
  | some (value, []) => some value
  | _ => none

end Address

def Ipv4.ofText? (text : String) : Option Ipv4 := Address.whole? Address.ipv4? text

def Ipv6.ofText? (text : String) : Option Ipv6 := Address.whole? Address.ipv6? text

def IpAddress.ofText? (text : String) : Option IpAddress :=
  match Ipv4.ofText? text with
  | some address => some (.v4 address)
  | none => (Ipv6.ofText? text).map .v6

def SocketAddress.ofText? (text : String) : Option SocketAddress :=
  match Address.whole? Address.socket4? text with
  | some address => some address
  | none => Address.whole? Address.socket6? text

end TunnelControl
