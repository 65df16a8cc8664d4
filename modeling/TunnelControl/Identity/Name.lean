import TunnelControl.Octets.Reader
import TunnelControl.Text.Utf8

namespace TunnelControl.Name

def labels : List Char → List (List Char)
  | [] => [[]]
  | c :: cs =>
      if c = '.' then [] :: labels cs
      else
        match labels cs with
        | label :: more => (c :: label) :: more
        | [] => [[c]]

def encodeLabel (name : String) (label : List Char) : Except Error Octets :=
  let octets := label.flatMap Utf8.octetsOf
  if 255 < octets.length then .error (.unencodable (.longLabel octets.length name))
  else .ok (UInt8.ofNat octets.length :: octets)

def encode (name : String) : Except Error Octets :=
  if name.toList = [] then .ok []
  else return (← (labels name.toList).mapM (encodeLabel name)).flatten

def readLabel : Reader Octets := do
  let size ← Reader.u8
  Reader.need size.toNat
  Reader.take size.toNat

theorem readLabel_advances : readLabel.Advances := by
  intro octets label rest found
  simp only [readLabel, Reader.bind_eq_ok, Reader.need_eq_ok, Reader.u8_eq_ok,
    Reader.take_eq_ok] at found
  obtain ⟨size, _, rfl, _, _, ⟨_, rfl⟩, _, rfl⟩ := found
  simp only [List.length_cons, List.length_append]
  omega

/-- A name with one more label; no dot stands before the first character of a name. -/
def append (name : String) (label : Octets) : String :=
  if name.isEmpty then Utf8.decode label else name ++ "." ++ Utf8.decode label

/-- The name whose labels follow each other. What is missing of a label is counted from the first
octet of the name on. -/
def decode (octets : Octets) : Except Error String :=
  match Reader.all readLabel octets with
  | (labels, none) => .ok (labels.foldl append "")
  | (_, some (.tooShort needed available)) =>
      .error (.tooShort (octets.length - available + needed) octets.length)
  | (_, some error) => .error error

end TunnelControl.Name
