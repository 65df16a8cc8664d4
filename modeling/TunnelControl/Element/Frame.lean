import TunnelControl.Code.ElementType
import TunnelControl.Octets.Reader

namespace TunnelControl

structure Frame where
  type : ElementType
  inst : UInt8
  value : Octets
  deriving DecidableEq, Inhabited

namespace Frame

def octets (frame : Frame) : Octets :=
  frame.type :: Octets.ofNat 2 frame.value.length ++ (frame.inst % 16) :: frame.value

def read : Reader Frame := do
  Reader.need 4
  let type ← Reader.u8
  let size ← Reader.u16
  let inst := (← Reader.u8) % 16
  Reader.need size.toNat
  return ⟨type, inst, ← Reader.take size.toNat⟩

@[simp] theorem length_octets (frame : Frame) :
    frame.octets.length = 4 + frame.value.length := by
  simp [octets]; omega

theorem read_eq_ok {octets rest : Octets} {frame : Frame} :
    read octets = (.ok frame, rest) ↔
      frame.value.length < 65536 ∧ ∃ spare : UInt8, spare % 16 = frame.inst ∧
        octets = frame.type ::
          Octets.ofU16 (UInt16.ofNat frame.value.length) ++ spare :: frame.value ++ rest := by
  simp only [read, Reader.bind_eq_ok, Reader.need_eq_ok, Reader.u8_eq_ok, Reader.u16_eq_ok,
    Reader.take_eq_ok, Reader.pure_eq_ok]
  constructor
  · rintro ⟨_, _, ⟨_, rfl⟩, type, _, rfl, size, _, rfl, spare, _, rfl, _, _, ⟨_, rfl⟩, value, _,
      ⟨length, rfl⟩, rfl, rfl⟩
    exact ⟨length ▸ size.toNat_lt, spare, rfl, by simp [length]⟩
  · rintro ⟨fits, spare, inst, rfl⟩
    have size : (UInt16.ofNat frame.value.length).toNat = frame.value.length :=
      Nat.mod_eq_of_lt fits
    exact ⟨(), _, ⟨by simp [Octets.ofU16]; omega, rfl⟩, frame.type, _, rfl, _, _, by simp,
      spare, _, rfl, (), _, ⟨by simp [size], rfl⟩, frame.value, rest, ⟨size.symm, rfl⟩,
      by rw [inst], rfl⟩

theorem length_of_read {octets rest : Octets} {frame : Frame}
    (found : read octets = (.ok frame, rest)) :
    octets.length = 4 + frame.value.length + rest.length := by
  obtain ⟨_, spare, _, rfl⟩ := read_eq_ok.mp found
  simp [Octets.ofU16]
  omega

theorem read_advances : read.Advances := by
  intro octets frame rest found
  have length := length_of_read found
  omega

end Frame

end TunnelControl
