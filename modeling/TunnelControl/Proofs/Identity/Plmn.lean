import Mathlib.Data.List.Basic
import TunnelControl.Identity.Plmn
import TunnelControl.Proofs.Identity.Digits
import TunnelControl.Proofs.Result

namespace TunnelControl.Plmn

open Digits

variable {plmn : Plmn} {octets : Octets} {mcc mnc : List Nat}

inductive Packed : List Nat → List Nat → Octets → Prop where
  | two (a b c d e : Nat) : Packed [a, b, c] [d, e] [octet a b, octet c filler, octet d e]
  | three (a b c d e f : Nat) : Packed [a, b, c] [d, e, f] [octet a b, octet c f, octet d e]

structure Valid (plmn : Plmn) : Prop where
  mcc_digits : ∀ c ∈ plmn.mcc.toList, c.isDigit = true
  mnc_digits : ∀ c ∈ plmn.mnc.toList, c.isDigit = true
  mcc_length : plmn.mcc.length = 3
  mnc_length : plmn.mnc.length = 2 ∨ plmn.mnc.length = 3

theorem encode_eq_ok : plmn.encode = .ok octets ↔
    ∃ mcc mnc, values plmn.mcc = .ok mcc ∧ values plmn.mnc = .ok mnc ∧ Packed mcc mnc octets := by
  constructor
  · intro encoded
    obtain ⟨mcc, country, encoded⟩ := Except.bind_eq_ok.mp encoded
    obtain ⟨mnc, network, encoded⟩ := Except.bind_eq_ok.mp encoded
    refine ⟨mcc, mnc, country, network, ?_⟩
    split at encoded
    · cases encoded
      exact .two ..
    · cases encoded
      exact .three ..
    · cases encoded
  · rintro ⟨mcc, mnc, country, network, packed⟩
    rw [encode, country, network]
    cases packed <;> rfl

theorem length_of_encode (encoded : plmn.encode = .ok octets) : octets.length = 3 := by
  obtain ⟨_, _, _, _, packed⟩ := encode_eq_ok.mp encoded
  cases packed <;> rfl

theorem exists_encode_iff : (∃ octets, plmn.encode = .ok octets) ↔ plmn.Valid := by
  constructor
  · rintro ⟨octets, encoded⟩
    obtain ⟨mcc, mnc, country, network, packed⟩ := encode_eq_ok.mp encoded
    have country_length := length_of_values country
    have network_length := length_of_values network
    refine ⟨exists_values_iff.mp ⟨_, country⟩, exists_values_iff.mp ⟨_, network⟩, ?_, ?_⟩
    · cases packed <;> exact country_length
    · cases packed
      · exact .inl network_length
      · exact .inr network_length
  · rintro ⟨mcc_digits, mnc_digits, mcc_length, mnc_length⟩
    obtain ⟨mcc, country⟩ := exists_values_iff.mpr mcc_digits
    obtain ⟨mnc, network⟩ := exists_values_iff.mpr mnc_digits
    rw [length_of_values country] at mcc_length
    rw [length_of_values network] at mnc_length
    obtain ⟨a, b, c, rfl⟩ := List.length_eq_three.mp mcc_length
    rcases mnc_length with two | three
    · obtain ⟨d, e, rfl⟩ := List.length_eq_two.mp two
      exact ⟨_, encode_eq_ok.mpr ⟨_, _, country, network, .two a b c d e⟩⟩
    · obtain ⟨d, e, f, rfl⟩ := List.length_eq_three.mp three
      exact ⟨_, encode_eq_ok.mpr ⟨_, _, country, network, .three a b c d e f⟩⟩

theorem Packed.ofOctets_eq {first second third : UInt8}
    (packed : Packed mcc mnc [first, second, third]) (mcc_small : ∀ digit ∈ mcc, digit ≤ 9)
    (mnc_small : ∀ digit ∈ mnc, digit ≤ 9) :
    ofOctets first second third =
      ⟨String.ofList (mcc.map character), String.ofList (mnc.map character)⟩ := by
  cases packed with
  | two a b c d e =>
      simp only [List.forall_mem_cons] at mcc_small mnc_small
      obtain ⟨a_low, b_high⟩ := octet_nibbles a b (by omega) (by omega)
      obtain ⟨c_low, fill⟩ := octet_nibbles c filler (by omega) (by decide)
      obtain ⟨d_low, e_high⟩ := octet_nibbles d e (by omega) (by omega)
      simp [ofOctets, a_low, b_high, c_low, fill, d_low, e_high]
  | three a b c d e f =>
      simp only [List.forall_mem_cons] at mcc_small mnc_small
      obtain ⟨a_low, b_high⟩ := octet_nibbles a b (by omega) (by omega)
      obtain ⟨c_low, f_high⟩ := octet_nibbles c f (by omega) (by omega)
      obtain ⟨d_low, e_high⟩ := octet_nibbles d e (by omega) (by omega)
      have digit : f ≠ filler := by
        unfold filler
        omega
      simp [ofOctets, a_low, b_high, c_low, f_high, d_low, e_high, digit]

theorem read_eq_ok {rest : Octets} : read octets = (.ok plmn, rest) ↔
    ∃ first second third,
      octets = first :: second :: third :: rest ∧ plmn = ofOctets first second third := by
  simp only [read, Reader.bind_eq_ok, Reader.need_eq_ok, Reader.u8_eq_ok, Reader.pure_eq_ok]
  constructor
  · rintro ⟨_, _, ⟨_, rfl⟩, first, _, rfl, second, _, rfl, third, _, rfl, rfl, rfl⟩
    exact ⟨first, second, third, rfl, rfl⟩
  · rintro ⟨first, second, third, rfl, rfl⟩
    exact ⟨(), _, ⟨by simp, rfl⟩, first, _, rfl, second, _, rfl, third, _, rfl, rfl, rfl⟩

theorem read_encode (encoded : plmn.encode = .ok octets) (rest : Octets) :
    read (octets ++ rest) = (.ok plmn, rest) := by
  obtain ⟨mcc, mnc, country, network, packed⟩ := encode_eq_ok.mp encoded
  obtain ⟨mcc_small, mcc_eq⟩ := values_eq_ok.mp country
  obtain ⟨mnc_small, mnc_eq⟩ := values_eq_ok.mp network
  obtain ⟨first, second, third, rfl⟩ : ∃ first second third, octets = [first, second, third] := by
    cases packed <;> exact ⟨_, _, _, rfl⟩
  refine read_eq_ok.mpr ⟨first, second, third, rfl, ?_⟩
  rw [packed.ofOctets_eq mcc_small mnc_small, ← mcc_eq, ← mnc_eq]

def fillerPlace : Nat := 3

variable {first second third : UInt8}

theorem decimal_iff : Decimal fillerPlace [first, second, third] ↔
    (first.toNat % 16 ≤ 9 ∧ first.toNat / 16 ≤ 9 ∧ second.toNat % 16 ≤ 9) ∧
    (second.toNat / 16 ≤ 9 ∨ second.toNat / 16 = filler) ∧
    third.toNat % 16 ≤ 9 ∧ third.toNat / 16 ≤ 9 := by
  constructor
  · intro decimal
    have digit {i nibble : Nat} (found : (nibbles [first, second, third])[i]? = some nibble)
        (other : i ≠ fillerPlace) : nibble ≤ 9 :=
      (decimal i nibble found).resolve_right fun last => other last.1
    exact ⟨⟨digit (i := 0) rfl (by decide), digit (i := 1) rfl (by decide),
      digit (i := 2) rfl (by decide)⟩, (decimal 3 _ rfl).imp id And.right,
      digit (i := 4) rfl (by decide), digit (i := 5) rfl (by decide)⟩
  · rintro ⟨⟨a, b, c⟩, last, d, e⟩ i nibble found
    match i, found with
    | 0, rfl => exact .inl a
    | 1, rfl => exact .inl b
    | 2, rfl => exact .inl c
    | 3, rfl => exact last.imp id fun filled => ⟨rfl, filled⟩
    | 4, rfl => exact .inl d
    | 5, rfl => exact .inl e

theorem decimal_of_packed (packed : Packed mcc mnc [first, second, third])
    (mcc_small : ∀ digit ∈ mcc, digit ≤ 9) (mnc_small : ∀ digit ∈ mnc, digit ≤ 9) :
    Decimal fillerPlace [first, second, third] := by
  rw [decimal_iff]
  cases packed with
  | two a b c d e =>
      simp only [List.forall_mem_cons] at mcc_small mnc_small
      have ab := octet_nibbles a b (by omega) (by omega)
      have c_filled := octet_nibbles c filler (by omega) (by decide)
      have de := octet_nibbles d e (by omega) (by omega)
      exact ⟨by omega, .inr c_filled.2, by omega⟩
  | three a b c d e f =>
      simp only [List.forall_mem_cons] at mcc_small mnc_small
      have ab := octet_nibbles a b (by omega) (by omega)
      have cf := octet_nibbles c f (by omega) (by omega)
      have de := octet_nibbles d e (by omega) (by omega)
      exact ⟨by omega, .inl (by omega), by omega⟩

theorem packed_of_decimal (decimal : Decimal fillerPlace [first, second, third]) :
    ∃ mcc mnc, (∀ digit ∈ mcc, digit ≤ 9) ∧ (∀ digit ∈ mnc, digit ≤ 9) ∧
      Packed mcc mnc [first, second, third] := by
  obtain ⟨⟨a, b, c⟩, last, d, e⟩ := decimal_iff.mp decimal
  have packed_first := octet_of_nibbles first
  have packed_second := octet_of_nibbles second
  have packed_third := octet_of_nibbles third
  rcases last with digit | filled
  · have packed := Packed.three (first.toNat % 16) (first.toNat / 16) (second.toNat % 16)
      (third.toNat % 16) (third.toNat / 16) (second.toNat / 16)
    rw [packed_first, packed_second, packed_third] at packed
    exact ⟨_, _, by simp [a, b, c], by simp [d, e, digit], packed⟩
  · have packed := Packed.two (first.toNat % 16) (first.toNat / 16) (second.toNat % 16)
      (third.toNat % 16) (third.toNat / 16)
    rw [packed_first, ← filled, packed_second, packed_third] at packed
    exact ⟨_, _, by simp [a, b, c], by simp [d, e], packed⟩

theorem encode_ofOctets_iff : (ofOctets first second third).encode = .ok [first, second, third] ↔
    Decimal fillerPlace [first, second, third] := by
  constructor
  · intro encoded
    obtain ⟨mcc, mnc, country, network, packed⟩ := encode_eq_ok.mp encoded
    exact decimal_of_packed packed (values_eq_ok.mp country).1 (values_eq_ok.mp network).1
  · intro decimal
    obtain ⟨mcc, mnc, mcc_small, mnc_small, packed⟩ := packed_of_decimal decimal
    rw [packed.ofOctets_eq mcc_small mnc_small]
    exact encode_eq_ok.mpr ⟨mcc, mnc, values_eq_ok.mpr ⟨mcc_small, rfl⟩,
      values_eq_ok.mpr ⟨mnc_small, rfl⟩, packed⟩

theorem valid_ofOctets_iff : (ofOctets first second third).Valid ↔
    Decimal fillerPlace [first, second, third] := by
  constructor
  · rintro ⟨mcc_digits, mnc_digits, -, -⟩
    simp only [ofOctets, String.toList_ofList, List.forall_mem_cons] at mcc_digits mnc_digits
    have low (octet : UInt8) : octet.toNat % 16 < 16 := Nat.mod_lt _ (by decide)
    have high (octet : UInt8) : octet.toNat / 16 < 16 := by
      have bound := octet.toNat_lt
      omega
    obtain ⟨a, b, c, -⟩ := mcc_digits
    obtain ⟨d, e, last⟩ := mnc_digits
    rw [isDigit_character (low _)] at a c d
    rw [isDigit_character (high _)] at b e
    refine decimal_iff.mpr ⟨⟨a, b, c⟩, ?_, d, e⟩
    by_cases filled : second.toNat / 16 = filler
    · exact .inr filled
    · rw [if_neg filled, List.forall_mem_singleton, isDigit_character (high _)] at last
      exact .inl last
  · intro decimal
    exact exists_encode_iff.mp ⟨_, encode_ofOctets_iff.mpr decimal⟩

/-- Whether an identity is one, and is written as these octets, exactly if the octets are
decimal. -/
structure Reflects (plmn : Plmn) (octets : Octets) : Prop where
  valid_iff : plmn.Valid ↔ Decimal fillerPlace octets
  encode_iff : plmn.encode = .ok octets ↔ Decimal fillerPlace octets

theorem reflects_of_read {rest : Octets} (found : read octets = (.ok plmn, rest)) :
    plmn.Reflects (octets.take 3) ∧ rest = octets.drop 3 := by
  obtain ⟨first, second, third, rfl, rfl⟩ := read_eq_ok.mp found
  exact ⟨⟨valid_ofOctets_iff, encode_ofOctets_iff⟩, rfl⟩

end TunnelControl.Plmn
