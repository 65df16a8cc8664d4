import TunnelControl.Octets.Basic

namespace TunnelControl.Utf8

def replacement : Char := '\ufffd'

def octetsOf (c : Char) : Octets :=
  let n := c.toNat
  let tail (unit : Nat) := UInt8.ofNat (0x80 + n / unit % 64)
  if n < 0x80 then [UInt8.ofNat n]
  else if n < 0x800 then [UInt8.ofNat (0xc0 + n / 0x40), tail 1]
  else if n < 0x10000 then [UInt8.ofNat (0xe0 + n / 0x1000), tail 0x40, tail 1]
  else [UInt8.ofNat (0xf0 + n / 0x40000), tail 0x1000, tail 0x40, tail 1]

def encode (text : String) : Octets := text.toList.flatMap octetsOf

/-- The character whose leading bits are `bits` and whose last `n` octets follow, of which the
first one must lie between `low` and `high`. -/
def tails : (n : Nat) → (low high bits : Nat) → Octets → Char × Octets
  | 0, _, _, bits, rest => (Char.ofNat bits, rest)
  | _ + 1, _, _, _, [] => (replacement, [])
  | n + 1, low, high, bits, octet :: rest =>
      if low ≤ octet.toNat ∧ octet.toNat ≤ high then
        tails n 0x80 0xbf (64 * bits + octet.toNat % 64) rest
      else (replacement, octet :: rest)

/-- The character that starts with the octet `lead`, and the octets after it. The bounds on the
second octet exclude encodings that are too long, and code points that are no characters. -/
def character (lead : UInt8) (rest : Octets) : Char × Octets :=
  let n := lead.toNat
  if n < 0x80 then (Char.ofNat n, rest)
  else if n < 0xc2 then (replacement, rest)
  else if n < 0xe0 then tails 1 0x80 0xbf (n - 0xc0) rest
  else if n = 0xe0 then tails 2 0xa0 0xbf 0 rest
  else if n = 0xed then tails 2 0x80 0x9f 0xd rest
  else if n < 0xf0 then tails 2 0x80 0xbf (n - 0xe0) rest
  else if n = 0xf0 then tails 3 0x90 0xbf 0 rest
  else if n < 0xf4 then tails 3 0x80 0xbf (n - 0xf0) rest
  else if n = 0xf4 then tails 3 0x80 0x8f 4 rest
  else (replacement, rest)

theorem length_tails_le (n low high bits : Nat) (rest : Octets) :
    (tails n low high bits rest).2.length ≤ rest.length := by
  induction n generalizing low high bits rest with
  | zero => simp [tails]
  | succ n ih =>
      cases rest with
      | nil => simp [tails]
      | cons octet rest =>
          simp only [tails]
          split
          · exact Nat.le_succ_of_le (ih ..)
          · simp

theorem length_character_le (lead : UInt8) (rest : Octets) :
    (character lead rest).2.length ≤ rest.length := by
  unfold character
  dsimp only
  repeat' split
  all_goals first | exact Nat.le_refl _ | exact length_tails_le ..

def characters : Octets → List Char
  | [] => []
  | lead :: rest => (character lead rest).1 :: characters (character lead rest).2
termination_by octets => octets.length
decreasing_by exact Nat.lt_succ_of_le (length_character_le lead rest)

def decode (octets : Octets) : String := String.ofList (characters octets)

theorem tails_cons {n low high bits value : Nat} (rest : Octets)
    (lower : low ≤ 0x80 + value % 64) (upper : 0x80 + value % 64 ≤ high) :
    tails (n + 1) low high bits (UInt8.ofNat (0x80 + value % 64) :: rest) =
      tails n 0x80 0xbf (64 * bits + value % 64) rest := by
  have octet : (UInt8.ofNat (0x80 + value % 64)).toNat = 0x80 + value % 64 :=
    Nat.mod_eq_of_lt (by omega)
  have low_bits : (0x80 + value % 64) % 64 = value % 64 := by omega
  simp only [tails, octet, low_bits]
  rw [if_pos ⟨lower, upper⟩]

theorem character_ofNat {n : Nat} (small : n < 0x80) (rest : Octets) :
    character (UInt8.ofNat n) rest = (Char.ofNat n, rest) := by
  have lead : (UInt8.ofNat n).toNat = n := Nat.mod_eq_of_lt (by omega)
  simp only [character, lead]
  rw [if_pos small]

theorem character_two {top : Nat} (least : 2 ≤ top) (most : top < 0x20) (rest : Octets) :
    character (UInt8.ofNat (0xc0 + top)) rest = tails 1 0x80 0xbf top rest := by
  have lead : (UInt8.ofNat (0xc0 + top)).toNat = 0xc0 + top := Nat.mod_eq_of_lt (by omega)
  simp only [character, lead]
  rw [if_neg (by omega), if_neg (by omega), if_pos (by omega), Nat.add_sub_cancel_left]

theorem character_three {top : Nat} (most : top < 0x10) (rest : Octets) :
    character (UInt8.ofNat (0xe0 + top)) rest =
      tails 2 (if top = 0 then 0xa0 else 0x80) (if top = 0xd then 0x9f else 0xbf) top rest := by
  have lead : (UInt8.ofNat (0xe0 + top)).toNat = 0xe0 + top := Nat.mod_eq_of_lt (by omega)
  simp only [character, lead]
  rw [if_neg (by omega), if_neg (by omega), if_neg (by omega), Nat.add_sub_cancel_left]
  by_cases first : top = 0
  · subst first
    rfl
  · by_cases surrogate : top = 0xd
    · subst surrogate
      rfl
    · rw [if_neg (by omega), if_neg (by omega), if_pos (by omega), if_neg first, if_neg surrogate]

theorem character_four {top : Nat} (most : top ≤ 4) (rest : Octets) :
    character (UInt8.ofNat (0xf0 + top)) rest =
      tails 3 (if top = 0 then 0x90 else 0x80) (if top = 4 then 0x8f else 0xbf) top rest := by
  obtain rfl | rfl | rfl | rfl | rfl : top = 0 ∨ top = 1 ∨ top = 2 ∨ top = 3 ∨ top = 4 := by omega
  all_goals rfl

theorem character_octetsOf (c : Char) :
    ∃ lead following, octetsOf c = lead :: following ∧
      ∀ rest, character lead (following ++ rest) = (c, rest) := by
  have valid : c.toNat < 0xd800 ∨ (0xdfff < c.toNat ∧ c.toNat < 0x110000) := c.valid
  have self := Char.ofNat_toNat c
  unfold octetsOf
  dsimp only
  generalize c.toNat = n at *
  split
  · next one => exact ⟨_, [], rfl, fun rest => by rw [List.nil_append, character_ofNat one, self]⟩
  split
  · refine ⟨_, _, rfl, fun rest => ?_⟩
    have bits : 64 * (n / 0x40) + n / 1 % 64 = n := by omega
    rw [character_two (by omega) (by omega), List.cons_append, tails_cons _ (by omega) (by omega),
      bits, List.nil_append, tails, self]
  split
  · refine ⟨_, _, rfl, fun rest => ?_⟩
    have bits : 64 * (64 * (n / 0x1000) + n / 0x40 % 64) + n / 1 % 64 = n := by omega
    -- the bounds of the second octet leave out what is too small, and surrogates
    rw [character_three (by omega), List.cons_append,
      tails_cons _ (by split <;> omega) (by split <;> omega), List.cons_append,
      tails_cons _ (by omega) (by omega), bits, List.nil_append, tails, self]
  · refine ⟨_, _, rfl, fun rest => ?_⟩
    have bits : 64 * (64 * (64 * (n / 0x40000) + n / 0x1000 % 64) + n / 0x40 % 64) +
        n / 1 % 64 = n := by omega
    rw [character_four (by omega), List.cons_append,
      tails_cons _ (by split <;> omega) (by split <;> omega), List.cons_append,
      tails_cons _ (by omega) (by omega), List.cons_append, tails_cons _ (by omega) (by omega),
      bits, List.nil_append, tails, self]

theorem characters_octetsOf (c : Char) (rest : Octets) :
    characters (octetsOf c ++ rest) = c :: characters rest := by
  obtain ⟨lead, following, octets, reads⟩ := character_octetsOf c
  rw [octets, List.cons_append, characters, reads rest]

theorem characters_flatMap_octetsOf (cs : List Char) : characters (cs.flatMap octetsOf) = cs := by
  induction cs with
  | nil => simp [characters]
  | cons c cs ih => simp [characters_octetsOf, ih]

@[simp] theorem decode_encode (text : String) : decode (encode text) = text := by
  simp [decode, encode, characters_flatMap_octetsOf]

end TunnelControl.Utf8
