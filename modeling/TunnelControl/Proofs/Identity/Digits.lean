import Mathlib.Data.List.TakeWhile
import TunnelControl.Identity.Digits
import TunnelControl.Proofs.Result

namespace TunnelControl.Digits

variable {c : Char} {digit low high : Nat} {digits : List Nat} {text : String} {octets : Octets}

theorem isDigit_iff : c.isDigit = true ↔ 48 ≤ c.toNat ∧ c.toNat ≤ 57 := by
  simp [Char.isDigit, UInt32.le_iff_toNat_le]

theorem toNat_character (small : digit ≤ 9) : (character digit).toNat = 48 + digit := by
  have valid : (48 + digit).isValidChar := .inl (by omega)
  show (Char.ofNat (48 + digit)).toNat = _
  rw [Char.ofNat, dif_pos valid]
  rfl

theorem value?_eq_some : value? c = some digit ↔ digit ≤ 9 ∧ c = character digit := by
  unfold value?
  constructor
  · intro found
    split at found
    · next isDigit =>
        obtain ⟨least, most⟩ := isDigit_iff.mp isDigit
        have same : c.toNat - 48 = digit := Option.some.inj found
        refine ⟨by omega, ?_⟩
        show c = Char.ofNat (48 + digit)
        rw [← same, Nat.add_sub_cancel' least, Char.ofNat_toNat]
    · cases found
  · rintro ⟨small, rfl⟩
    have number := toNat_character small
    rw [if_pos (isDigit_iff.mpr (by omega)), number]
    exact congrArg some (Nat.add_sub_cancel_left ..)

theorem mapM_value?_eq_some {cs : List Char} : cs.mapM value? = some digits ↔
    (∀ digit ∈ digits, digit ≤ 9) ∧ cs = digits.map character := by
  induction cs generalizing digits with
  | nil => cases digits <;> simp [pure]
  | cons c cs ih =>
      rw [List.mapM_cons]
      constructor
      · intro found
        obtain ⟨digit, first, found⟩ := Option.bind_eq_some_iff.mp found
        obtain ⟨others, rest, same⟩ := Option.bind_eq_some_iff.mp found
        cases same
        obtain ⟨small, rfl⟩ := value?_eq_some.mp first
        obtain ⟨all, rfl⟩ := ih.mp rest
        exact ⟨List.forall_mem_cons.mpr ⟨small, all⟩, rfl⟩
      · rintro ⟨small, same⟩
        cases digits with
        | nil => cases same
        | cons digit others =>
            obtain ⟨rfl, rfl⟩ := List.cons.inj same
            obtain ⟨first, rest⟩ := List.forall_mem_cons.mp small
            rw [value?_eq_some.mpr ⟨first, rfl⟩, ih.mpr ⟨rest, rfl⟩]
            rfl

theorem values_eq_ok : values text = .ok digits ↔
    (∀ digit ∈ digits, digit ≤ 9) ∧ text = String.ofList (digits.map character) := by
  have text_eq : text = String.ofList (digits.map character) ↔
      text.toList = digits.map character := by
    rw [← String.toList_inj, String.toList_ofList]
  rw [text_eq, ← mapM_value?_eq_some]
  unfold values
  cases text.toList.mapM value? <;> simp

theorem exists_values_iff :
    (∃ digits, values text = .ok digits) ↔ ∀ c ∈ text.toList, c.isDigit = true := by
  constructor
  · rintro ⟨digits, found⟩ c member
    obtain ⟨small, rfl⟩ := values_eq_ok.mp found
    rw [String.toList_ofList] at member
    obtain ⟨digit, inside, rfl⟩ := List.mem_map.mp member
    have digit_le := small digit inside
    have number := toNat_character digit_le
    exact isDigit_iff.mpr (by omega)
  · intro isDigit
    refine ⟨text.toList.map fun c => c.toNat - 48, values_eq_ok.mpr ⟨?_, ?_⟩⟩
    · intro digit member
      obtain ⟨c, inside, rfl⟩ := List.mem_map.mp member
      have bounds := isDigit_iff.mp (isDigit c inside)
      omega
    · rw [List.map_map]
      have each : ∀ c ∈ text.toList, (character ∘ fun c => c.toNat - 48) c = c := by
        intro c inside
        have bounds := isDigit_iff.mp (isDigit c inside)
        show Char.ofNat (48 + (c.toNat - 48)) = c
        rw [Nat.add_sub_cancel' bounds.1, Char.ofNat_toNat]
      rw [List.map_congr_left each, List.map_id', String.ofList_toList]

theorem length_of_values (found : values text = .ok digits) : text.length = digits.length := by
  rw [(values_eq_ok.mp found).2, String.length_ofList, List.length_map]

theorem octet_nibbles (low high : Nat) (low_lt : low < 16) (high_lt : high < 16) :
    (octet low high).toNat % 16 = low ∧ (octet low high).toNat / 16 = high := by
  have number : (octet low high).toNat = low + 16 * high := Nat.mod_eq_of_lt (by omega)
  omega

theorem octet_of_nibbles (whole : UInt8) : octet (whole.toNat % 16) (whole.toNat / 16) = whole := by
  rw [octet, Nat.mod_add_div, UInt8.ofNat_toNat]

theorem nibbles_cons (octet : UInt8) (octets : Octets) :
    nibbles (octet :: octets) = octet.toNat % 16 :: octet.toNat / 16 :: nibbles octets := rfl

theorem nibbles_octet_cons (low_lt : low < 16) (high_lt : high < 16) (octets : Octets) :
    nibbles (octet low high :: octets) = low :: high :: nibbles octets := by
  obtain ⟨low_eq, high_eq⟩ := octet_nibbles low high low_lt high_lt
  rw [nibbles_cons, low_eq, high_eq]

theorem length_nibbles (octets : Octets) : (nibbles octets).length = 2 * octets.length := by
  induction octets with
  | nil => rfl
  | cons octet octets ih =>
      rw [nibbles_cons, List.length_cons, List.length_cons, List.length_cons, ih]
      omega

theorem nibbles_injective : Function.Injective nibbles := by
  intro octets others same
  induction octets generalizing others with
  | nil =>
      cases others with
      | nil => rfl
      | cons other others => cases same
  | cons octet octets ih =>
      cases others with
      | nil => cases same
      | cons other others =>
          rw [nibbles_cons, nibbles_cons, List.cons.injEq, List.cons.injEq] at same
          obtain ⟨low, high, rest⟩ := same
          have first : octet = other := UInt8.toNat_inj.mp (by omega)
          rw [first, ih rest]

theorem length_pack (digits : List Nat) : (pack digits).length = (digits.length + 1) / 2 := by
  fun_induction pack digits with
  | case1 => rfl
  | case2 digit => simp
  | case3 first second digits ih =>
      simp only [List.length_cons, ih]
      omega

theorem nibbles_pack (small : ∀ digit ∈ digits, digit ≤ 9) :
    nibbles (pack digits) = digits ++ List.replicate (digits.length % 2) filler := by
  fun_induction pack digits with
  | case1 => rfl
  | case2 digit =>
      have digit_le := small digit List.mem_cons_self
      rw [nibbles_octet_cons (by omega) (by decide)]
      rfl
  | case3 first second digits ih =>
      obtain ⟨first_le, rest⟩ := List.forall_mem_cons.mp small
      obtain ⟨second_le, rest⟩ := List.forall_mem_cons.mp rest
      rw [nibbles_octet_cons (by omega) (by omega), ih rest]
      have parity : (first :: second :: digits).length % 2 = digits.length % 2 := by
        rw [List.length_cons, List.length_cons]
        omega
      rw [parity]
      rfl

theorem takeWhile_nibbles_pack (small : ∀ digit ∈ digits, digit ≤ 9) :
    (nibbles (pack digits)).takeWhile (· ≤ 9) = digits := by
  -- the digits are what stands before the first nibble that is none
  rw [nibbles_pack small, List.takeWhile_append_of_pos (by simpa using small)]
  rcases Nat.mod_two_eq_zero_or_one digits.length with even | odd
  · simp [even]
  · simp [odd, filler]

theorem decode_pack (small : ∀ digit ∈ digits, digit ≤ 9) :
    decode (pack digits) = String.ofList (digits.map character) := by
  rw [decode, takeWhile_nibbles_pack small]

theorem encode_eq_ok : encode text = .ok octets ↔
    ∃ digits, values text = .ok digits ∧ octets = pack digits := by
  unfold encode
  cases values text with
  | error error => simp [Functor.map, Except.map]
  | ok digits => simp [Functor.map, Except.map, eq_comm]

theorem decode_encode (encoded : encode text = .ok octets) : decode octets = text := by
  obtain ⟨digits, found, rfl⟩ := encode_eq_ok.mp encoded
  obtain ⟨small, same⟩ := values_eq_ok.mp found
  rw [decode_pack small, same]

theorem ne_nil_of_encode (encoded : encode text = .ok octets) (filled : text ≠ "") :
    octets ≠ [] := by
  rintro rfl
  exact filled (decode_encode encoded).symm

/-- Whether the nibbles of the octets are digits, but that at one place the filler may stand. -/
def Decimal (place : Nat) (octets : Octets) : Prop :=
  ∀ i nibble, (nibbles octets)[i]? = some nibble → nibble ≤ 9 ∨ i = place ∧ nibble = filler

structure Leading (digits nibbles : List Nat) : Prop where
  starts : digits <+: nibbles
  small : ∀ digit ∈ digits, digit ≤ 9
  longest : ∀ others, others <+: nibbles → (∀ digit ∈ others, digit ≤ 9) → others <+: digits

theorem leading_takeWhile (nibbles : List Nat) : Leading (nibbles.takeWhile (· ≤ 9)) nibbles := by
  refine ⟨List.takeWhile_prefix _, fun digit member => ?_, fun others starts small => ?_⟩
  · simpa using List.mem_takeWhile_imp member
  · obtain ⟨rest, rfl⟩ := starts
    rw [List.takeWhile_append_of_pos (by simpa using small)]
    exact List.prefix_append _ _

theorem isDigit_character : ∀ {nibble : Nat}, nibble < 16 →
    ((character nibble).isDigit = true ↔ nibble ≤ 9) := by
  decide

theorem character_eq_digitChar :
    ∀ {digit : Nat}, digit ≤ 9 → character digit = digit.digitChar := by
  decide

theorem encode_decode_eq (octets : Octets) :
    encode (decode octets) = .ok (pack ((nibbles octets).takeWhile (· ≤ 9))) :=
  encode_eq_ok.mpr ⟨_, values_eq_ok.mpr ⟨(leading_takeWhile _).small, rfl⟩, rfl⟩

theorem decimal_pack (small : ∀ digit ∈ digits, digit ≤ 9) :
    Decimal (2 * (pack digits).length - 1) (pack digits) := by
  intro i nibble found
  rw [nibbles_pack small, List.getElem?_append] at found
  split at found
  · exact .inl (small nibble (List.mem_of_getElem? found))
  · next behind =>
      obtain ⟨inside, same⟩ := List.getElem?_eq_some_iff.mp found
      rw [List.length_replicate] at inside
      rw [List.getElem_replicate] at same
      rw [length_pack]
      exact .inr ⟨by omega, same.symm⟩

theorem dropWhile_of_decimal (decimal : Decimal (2 * octets.length - 1) octets) :
    (nibbles octets).dropWhile (· ≤ 9) =
      List.replicate (((nibbles octets).takeWhile (· ≤ 9)).length % 2) filler := by
  have parts := List.takeWhile_append_dropWhile (p := (· ≤ 9)) (l := nibbles octets)
  have total := congrArg List.length parts
  have stop := List.head?_dropWhile_not (· ≤ 9) (nibbles octets)
  rw [List.length_append, length_nibbles] at total
  generalize (nibbles octets).takeWhile (· ≤ 9) = front at parts total
  cases behind : (nibbles octets).dropWhile (· ≤ 9) with
  | nil =>
      rw [behind, List.length_nil] at total
      rw [show front.length % 2 = 0 by omega]
      rfl
  | cons nibble rest =>
      -- The nibble that ends the digits is the filler, and nothing comes after it.
      rw [behind] at parts total stop
      have large : ¬ nibble ≤ 9 := by simpa using stop
      have place : (nibbles octets)[front.length]? = some nibble := by
        rw [← parts]
        simp
      obtain ⟨last, rfl⟩ := (decimal _ _ place).resolve_left large
      rw [List.length_cons] at total
      have none : rest = [] := List.eq_nil_of_length_eq_zero (by omega)
      rw [none, show front.length % 2 = 1 by omega]
      rfl

theorem encode_decode_iff :
    encode (decode octets) = .ok octets ↔ Decimal (2 * octets.length - 1) octets := by
  rw [encode_decode_eq, Except.ok.injEq]
  have small := (leading_takeWhile (nibbles octets)).small
  constructor
  · intro same
    have decimal := decimal_pack small
    rwa [same] at decimal
  · intro decimal
    apply nibbles_injective
    rw [nibbles_pack small, ← dropWhile_of_decimal decimal, List.takeWhile_append_dropWhile]

/-- Digit strings and octets correspond: exactly the strings of digits are written, two digits an
octet, and they are read back; of octets all digits are read that they start with, and exactly those
octets are written again whose nibbles are digits but perhaps for a filler at the end. -/
theorem octets_correspond :
    (∀ text, ((∃ octets, encode text = .ok octets) ↔ ∀ c ∈ text.toList, c.isDigit = true) ∧
      ∀ octets, encode text = .ok octets →
        octets.length = (text.length + 1) / 2 ∧ decode octets = text) ∧
    (∀ text other octets, encode text = .ok octets → encode other = .ok octets → text = other) ∧
    ∀ octets,
      (∃ digits, Leading digits (nibbles octets) ∧
        decode octets = String.ofList (digits.map Nat.digitChar)) ∧
      (encode (decode octets) = .ok octets ↔ Decimal (2 * octets.length - 1) octets) := by
  refine ⟨fun text => ⟨?_, fun octets encoded => ⟨?_, decode_encode encoded⟩⟩,
    fun text other octets encoded again => ?_,
    fun octets => ⟨⟨_, leading_takeWhile _, ?_⟩, encode_decode_iff⟩⟩
  · rw [← exists_values_iff]
    exact Except.exists_bind_ok_iff
  · obtain ⟨digits, found, rfl⟩ := encode_eq_ok.mp encoded
    rw [length_pack, length_of_values found]
  · rw [← decode_encode encoded, decode_encode again]
  · refine congrArg String.ofList (List.map_congr_left fun digit member => ?_)
    exact character_eq_digitChar ((leading_takeWhile _).small digit member)

theorem octets_correspond_odd :
    encode "123" = .ok [0x21, 0xF3] ∧ decode [0x21, 0xF3] = "123" ∧
      encode (decode [0x2A, 0xF3]) ≠ .ok [0x2A, 0xF3] := by
  obtain ⟨strings, _, octets⟩ := octets_correspond
  have encoded : encode "123" = .ok [0x21, 0xF3] := by decide +kernel
  refine ⟨encoded, ((strings "123").2 _ encoded).2, fun again => ?_⟩
  have decimal := (octets [0x2A, 0xF3]).2.mp again
  exact absurd (decimal 0 10 rfl) (by decide)

end TunnelControl.Digits
