namespace TunnelControl

abbrev Octets := List UInt8

namespace Octets

/-- How much one unit counts in an octet that `n` octets follow, which is also how many numbers `n`
octets can write. -/
def weight : (n : Nat) → Nat
  | 0 => 1
  | n + 1 => 256 * weight n

def ofNat : (width : Nat) → (n : Nat) → Octets
  | 0, _ => []
  | width + 1, n => UInt8.ofNat (n / weight width) :: ofNat width n

/-- Whether there are fewer than `n` octets. The octets after those are not counted. -/
def fewerThan : (n : Nat) → Octets → Bool
  | 0, _ => false
  | _ + 1, [] => true
  | n + 1, _ :: octets => fewerThan n octets

def toNat : Octets → Nat
  | [] => 0
  | octet :: octets => weight octets.length * octet.toNat + toNat octets

def ofU16 (n : UInt16) : Octets := ofNat 2 n.toNat

def ofU24 (n : UInt32) : Octets := ofNat 3 n.toNat

def ofU32 (n : UInt32) : Octets := ofNat 4 n.toNat

def ofU40 (n : UInt64) : Octets := ofNat 5 n.toNat

/-- What is decidable of an octet can be decided of all of them. -/
theorem forall_octet {P : UInt8 → Prop} (each : ∀ n : Fin 256, P ⟨⟨n⟩⟩) (octet : UInt8) : P octet :=
  each octet.toBitVec.toFin

theorem mod_mod (octet n : UInt8) : octet % n % n = octet % n :=
  UInt8.toNat_inj.mp (Nat.mod_mod octet.toNat n.toNat)

theorem mod_of_lt {octet n : UInt8} (small : octet < n) : octet % n = octet :=
  UInt8.toNat_inj.mp (Nat.mod_eq_of_lt small)

theorem weight_pos (n : Nat) : 0 < weight n := by
  induction n with
  | zero => exact Nat.one_pos
  | succ n ih => exact Nat.mul_pos (by decide) ih

theorem weight_add (m n : Nat) : weight (m + n) = weight m * weight n := by
  induction m with
  | zero => simp [weight]
  | succ m ih => simp [Nat.succ_add, weight, ih, Nat.mul_assoc]

@[simp] theorem fewerThan_eq (n : Nat) (octets : Octets) :
    fewerThan n octets = decide (octets.length < n) := by
  induction n generalizing octets with
  | zero => simp [fewerThan]
  | succ n ih => cases octets <;> simp [fewerThan, ih]

@[simp] theorem length_ofNat (width n : Nat) : (ofNat width n).length = width := by
  induction width with
  | zero => rfl
  | succ width ih => simp [ofNat, ih]

@[simp] theorem toNat_nil : toNat [] = 0 := rfl

theorem toNat_cons (octet : UInt8) (octets : Octets) :
    toNat (octet :: octets) = weight octets.length * octet.toNat + toNat octets := rfl

theorem toNat_lt (octets : Octets) : toNat octets < weight octets.length := by
  induction octets with
  | nil => exact Nat.one_pos
  | cons octet octets ih =>
      have bound : octet.toNat + 1 ≤ 256 := octet.toNat_lt
      have scaled := Nat.mul_le_mul_left (weight octets.length) bound
      simp only [toNat_cons, List.length_cons, weight, Nat.mul_add, Nat.mul_one] at scaled ⊢
      omega

theorem toNat_ofNat (width n : Nat) : toNat (ofNat width n) = n % weight width := by
  induction width with
  | zero => simp [ofNat, weight, Nat.mod_one]
  | succ width ih =>
      have split := Nat.mod_mul (x := n) (a := weight width) (b := 256)
      simp only [ofNat, toNat_cons, length_ofNat, ih, weight, Nat.mul_comm 256, split]
      simp [Nat.add_comm]

theorem ofNat_mod (width n : Nat) : ofNat width (n % weight width) = ofNat width n := by
  suffices general : ∀ extra, ofNat width (n % weight (width + extra)) = ofNat width n by
    simpa using general 0
  induction width with
  | zero => simp [ofNat]
  | succ width ih =>
      intro extra
      have shift : weight (width + 1 + extra) = weight width * (256 * weight extra) := by
        rw [weight_add, weight, Nat.mul_comm 256, Nat.mul_assoc]
      have digit : UInt8.ofNat (n % weight (width + 1 + extra) / weight width)
          = UInt8.ofNat (n / weight width) := by
        apply UInt8.toNat_inj.mp
        simp only [UInt8.toNat_ofNat', shift, Nat.mod_mul_right_div_self]
        exact Nat.mod_mul_right_mod _ 256 _
      simp only [ofNat, digit]
      have tail := ih (extra + 1)
      rw [show width + (extra + 1) = width + 1 + extra by omega] at tail
      rw [tail]

theorem ofNat_toNat (octets : Octets) : ofNat octets.length (toNat octets) = octets := by
  induction octets with
  | nil => rfl
  | cons octet octets ih =>
      have low := toNat_lt octets
      have head : (weight octets.length * octet.toNat + toNat octets) / weight octets.length
          = octet.toNat := by
        rw [Nat.mul_add_div (weight_pos _), Nat.div_eq_of_lt low, Nat.add_zero]
      have tail := ofNat_mod octets.length (weight octets.length * octet.toNat + toNat octets)
      rw [Nat.mul_add_mod, Nat.mod_eq_of_lt low, ih] at tail
      simp [ofNat, toNat_cons, head, ← tail]

end Octets

end TunnelControl
