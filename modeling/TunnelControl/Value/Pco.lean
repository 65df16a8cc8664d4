import TunnelControl.Octets.Reader

namespace TunnelControl

structure Container where
  id : UInt16
  contents : Octets
  deriving DecidableEq, Inhabited

structure Pco where
  protocol : UInt8 := 0
  containers : List Container := []
  deriving DecidableEq, Inhabited

namespace Container

def encode (container : Container) : Except Error Octets :=
  let size := container.contents.length
  if 255 < size then .error (.unencodable (.longContainer container.id size))
  else .ok (Octets.ofU16 container.id ++ UInt8.ofNat size :: container.contents)

def read : Reader Container := do
  Reader.need 3
  let id ← Reader.u16
  let size ← Reader.u8
  Reader.need size.toNat
  return ⟨id, ← Reader.take size.toNat⟩

theorem read_advances : read.Advances := by
  intro octets container rest found
  simp only [read, Reader.bind_eq_ok, Reader.need_eq_ok, Reader.u8_eq_ok, Reader.u16_eq_ok,
    Reader.take_eq_ok, Reader.pure_eq_ok] at found
  obtain ⟨_, _, ⟨_, rfl⟩, id, _, rfl, size, _, rfl, _, _, ⟨_, rfl⟩, contents, _, ⟨_, rfl⟩, rfl,
    rfl⟩ := found
  simp only [List.length_cons, List.length_append]
  omega

end Container

namespace Pco

def encode (pco : Pco) : Except Error Octets := do
  return (0x80 + pco.protocol % 8) :: (← pco.containers.mapM Container.encode).flatten

def decode (octets : Octets) : Except Error Pco :=
  match (do Reader.need 1; Reader.u8 : Reader UInt8) octets with
  | (.error error, _) => .error error
  | (.ok first, rest) =>
      match Reader.all Container.read rest with
      | (containers, none) => .ok ⟨first % 8, containers⟩
      | (_, some error) => .error error

end Pco

end TunnelControl
