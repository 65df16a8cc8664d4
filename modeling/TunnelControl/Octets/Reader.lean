import TunnelControl.Error

/-!
A reader takes octets from the front of an octet string. It ends in a value or an error, and in
both cases with the octets it did not take: what was read before an error stays read.
-/

namespace TunnelControl

/-- Takes octets from the front; the second component is what it leaves. -/
def Reader (α : Type) : Type := Octets → Except Error α × Octets

namespace Reader

variable {α β : Type}

def value (read : Reader α) (octets : Octets) : Except Error α := (read octets).1

protected def pure (a : α) : Reader α := fun octets => (.ok a, octets)

protected def bind (read : Reader α) (next : α → Reader β) : Reader β := fun octets =>
  match read octets with
  | (.ok a, rest) => next a rest
  | (.error error, rest) => (.error error, rest)

instance : Monad Reader where
  pure := Reader.pure
  bind := Reader.bind

def need (n : Nat) : Reader Unit := fun octets =>
  if octets.fewerThan n then (.error (.tooShort n octets.length), octets) else (.ok (), octets)

def peek : Reader UInt8 := fun octets =>
  match octets with
  | [] => (.error .overrun, [])
  | octet :: rest => (.ok octet, octet :: rest)

def take (n : Nat) : Reader Octets := fun octets =>
  if octets.fewerThan n then (.error .overrun, octets) else (.ok (octets.take n), octets.drop n)

def remaining : Reader Octets := fun octets => (.ok octets, [])

def number (width : Nat) : Reader Nat := do return Octets.toNat (← take width)

def u8 : Reader UInt8 := do return UInt8.ofNat (← number 1)

def u16 : Reader UInt16 := do return UInt16.ofNat (← number 2)

def u24 : Reader UInt32 := do return UInt32.ofNat (← number 3)

def u32 : Reader UInt32 := do return UInt32.ofNat (← number 4)

def u40 : Reader UInt64 := do return UInt64.ofNat (← number 5)

def ipv4 : Reader Ipv4 := do return .ofOctets (← take 4)

def ipv6 : Reader Ipv6 := do return .ofOctets (← take 16)

def optional (present : Bool) (read : Reader α) : Reader (Option α) :=
  if present then some <$> read else pure none

def left : Reader Nat := fun octets => (.ok octets.length, octets)

def allWithin (read : Reader α) : (steps : Nat) → Octets → List α × Option Error
  | _, [] => ([], none)
  | 0, _ :: _ => ([], none)
  | steps + 1, octet :: octets =>
      match read (octet :: octets) with
      | (.error error, _) => ([], some error)
      | (.ok a, rest) =>
          let (more, stop) := allWithin read steps rest
          (a :: more, stop)

/-- What `read` finds, time after time, until no octet is left, and the error that ends this early.
There are as many steps as octets, which is enough for a `read` that takes some. -/
def all (read : Reader α) (octets : Octets) : List α × Option Error :=
  allWithin read octets.length octets

@[simp] theorem pure_apply (a : α) (octets : Octets) :
    (pure a : Reader α) octets = (.ok a, octets) := rfl

theorem bind_apply (read : Reader α) (next : α → Reader β) (octets : Octets) :
    (read >>= next) octets
      = match read octets with
        | (.ok a, rest) => next a rest
        | (.error error, rest) => (.error error, rest) := rfl

theorem bind_ok {read : Reader α} {octets rest : Octets} {a : α}
    (found : read octets = (.ok a, rest)) (next : α → Reader β) :
    (read >>= next) octets = next a rest := by
  rw [bind_apply, found]

theorem need_of_le {n : Nat} {octets : Octets} (enough : n ≤ octets.length) :
    need n octets = (.ok (), octets) := by
  simp [need, Nat.not_lt.mpr enough]

@[simp] theorem take_append (front rest : Octets) :
    take front.length (front ++ rest) = (.ok front, rest) := by
  simp [take]

theorem number_append (width n : Nat) (rest : Octets) :
    number width (Octets.ofNat width n ++ rest) = (.ok (n % Octets.weight width), rest) := by
  have taken := take_append (Octets.ofNat width n) rest
  rw [Octets.length_ofNat] at taken
  simp [number, bind_apply, taken, Octets.toNat_ofNat]

@[simp] theorem u8_cons (octet : UInt8) (rest : Octets) :
    u8 (octet :: rest) = (.ok octet, rest) := by
  have read := number_append 1 octet.toNat rest
  simp only [Octets.ofNat, Octets.weight, Nat.div_one, UInt8.ofNat_toNat, List.cons_append,
    List.nil_append] at read
  simp [u8, bind_apply, read]

@[simp] theorem u16_append (n : UInt16) (rest : Octets) :
    u16 (Octets.ofU16 n ++ rest) = (.ok n, rest) := by
  simp [u16, bind_apply, Octets.ofU16, Octets.weight, number_append]

@[simp] theorem u32_append (n : UInt32) (rest : Octets) :
    u32 (Octets.ofU32 n ++ rest) = (.ok n, rest) := by
  simp [u32, bind_apply, Octets.ofU32, Octets.weight, number_append]

theorem value_eq_ok {read : Reader α} {octets : Octets} {a : α} :
    read.value octets = .ok a ↔ ∃ rest, read octets = (.ok a, rest) := by
  simp [value, Prod.ext_iff]

theorem bind_eq_ok {read : Reader α} {next : α → Reader β} {octets rest : Octets} {b : β} :
    (read >>= next) octets = (.ok b, rest) ↔
      ∃ a middle, read octets = (.ok a, middle) ∧ next a middle = (.ok b, rest) := by
  rw [bind_apply]
  match found : read octets with
  | (.ok a, middle) =>
      constructor
      · exact fun after => ⟨a, middle, rfl, after⟩
      · rintro ⟨_, _, same, after⟩
        cases same
        exact after
  | (.error error, middle) => simp

theorem pure_eq_ok {a b : α} {octets rest : Octets} :
    (pure a : Reader α) octets = (.ok b, rest) ↔ a = b ∧ octets = rest := by
  simp

theorem need_eq_ok {n : Nat} {octets rest : Octets} {done : Unit} :
    need n octets = (.ok done, rest) ↔ n ≤ octets.length ∧ octets = rest := by
  by_cases few : octets.length < n
  · simp [need, few, Nat.not_le.mpr few]
  · simp [need, few, Nat.not_lt.mp few]

theorem peek_eq_ok {octet : UInt8} {octets rest : Octets} :
    peek octets = (.ok octet, rest) ↔ octets.head? = some octet ∧ octets = rest := by
  cases octets <;> simp [peek]

theorem left_eq_ok {n : Nat} {octets rest : Octets} :
    left octets = (.ok n, rest) ↔ octets.length = n ∧ octets = rest := by
  simp [left]

theorem take_eq_ok {n : Nat} {octets front rest : Octets} :
    take n octets = (.ok front, rest) ↔ front.length = n ∧ octets = front ++ rest := by
  constructor
  · intro taken
    by_cases enough : octets.length < n
    · simp [take, enough] at taken
    · have parts : octets.take n = front ∧ octets.drop n = rest := by
        simpa [take, enough] using taken
      rw [← parts.1, ← parts.2, List.take_append_drop, List.length_take]
      exact ⟨by omega, rfl⟩
  · rintro ⟨rfl, rfl⟩
    exact take_append front rest

theorem number_eq_ok {width n : Nat} {octets rest : Octets} :
    number width octets = (.ok n, rest) ↔
      n < Octets.weight width ∧ octets = Octets.ofNat width n ++ rest := by
  rw [number, bind_eq_ok]
  constructor
  · rintro ⟨front, _, taken, same⟩
    obtain ⟨rfl, rfl⟩ := take_eq_ok.mp taken
    obtain ⟨rfl, rfl⟩ := pure_eq_ok.mp same
    exact ⟨Octets.toNat_lt front, by rw [Octets.ofNat_toNat]⟩
  · rintro ⟨fits, rfl⟩
    refine ⟨_, _, take_eq_ok.mpr ⟨Octets.length_ofNat width n, rfl⟩, pure_eq_ok.mpr ⟨?_, rfl⟩⟩
    rw [Octets.toNat_ofNat, Nat.mod_eq_of_lt fits]

theorem u8_eq_ok {octet : UInt8} {octets rest : Octets} :
    u8 octets = (.ok octet, rest) ↔ octets = octet :: rest := by
  cases octets with
  | nil => simp [u8, number, bind_apply, take]
  | cons first more => simp

theorem number_as_eq_ok {width : Nat} {ofNat : Nat → α} {toNat : α → Nat}
    (kept : ∀ n, n < Octets.weight width → toNat (ofNat n) = n) (same : ∀ a, ofNat (toNat a) = a)
    {a : α} {octets rest : Octets} :
    (do return ofNat (← number width) : Reader α) octets = (.ok a, rest) ↔
      toNat a < Octets.weight width ∧ octets = Octets.ofNat width (toNat a) ++ rest := by
  constructor
  · intro found
    obtain ⟨number, _, read, same⟩ := bind_eq_ok.mp found
    obtain ⟨fits, rfl⟩ := number_eq_ok.mp read
    obtain ⟨rfl, rfl⟩ := pure_eq_ok.mp same
    rw [kept number fits]
    exact ⟨fits, rfl⟩
  · rintro ⟨fits, rfl⟩
    refine bind_eq_ok.mpr ⟨toNat a, rest, number_eq_ok.mpr ⟨fits, rfl⟩, ?_⟩
    exact pure_eq_ok.mpr ⟨same a, rfl⟩

theorem u16_eq_ok {n : UInt16} {octets rest : Octets} :
    u16 octets = (.ok n, rest) ↔ octets = Octets.ofU16 n ++ rest :=
  (number_as_eq_ok (fun _ fits => Nat.mod_eq_of_lt fits) fun _ => UInt16.ofNat_toNat).trans
    (and_iff_right n.toNat_lt)

theorem u24_eq_ok {n : UInt32} {octets rest : Octets} :
    u24 octets = (.ok n, rest) ↔ n.toNat < 0x1000000 ∧ octets = Octets.ofU24 n ++ rest :=
  number_as_eq_ok (fun _ fits => Nat.mod_eq_of_lt (Nat.lt_trans fits (by decide)))
    fun _ => UInt32.ofNat_toNat

theorem u32_eq_ok {n : UInt32} {octets rest : Octets} :
    u32 octets = (.ok n, rest) ↔ octets = Octets.ofU32 n ++ rest :=
  (number_as_eq_ok (fun _ fits => Nat.mod_eq_of_lt fits) fun _ => UInt32.ofNat_toNat).trans
    (and_iff_right n.toNat_lt)

theorem u40_eq_ok {n : UInt64} {octets rest : Octets} :
    u40 octets = (.ok n, rest) ↔ n.toNat < 0x10000000000 ∧ octets = Octets.ofU40 n ++ rest :=
  number_as_eq_ok (fun _ fits => Nat.mod_eq_of_lt (Nat.lt_trans fits (by decide)))
    fun _ => UInt64.ofNat_toNat

theorem take_as_eq_ok {width : Nat} {ofOctets : Octets → α} {toOctets : α → Octets}
    (length : ∀ a, (toOctets a).length = width) (same : ∀ a, ofOctets (toOctets a) = a)
    (back : ∀ {octets}, octets.length = width → toOctets (ofOctets octets) = octets)
    {a : α} {octets rest : Octets} :
    (do return ofOctets (← take width) : Reader α) octets = (.ok a, rest) ↔
      octets = toOctets a ++ rest := by
  constructor
  · intro found
    obtain ⟨front, _, taken, same⟩ := bind_eq_ok.mp found
    obtain ⟨wide, rfl⟩ := take_eq_ok.mp taken
    obtain ⟨rfl, rfl⟩ := pure_eq_ok.mp same
    rw [back wide]
  · rintro rfl
    refine bind_eq_ok.mpr ⟨toOctets a, rest, take_eq_ok.mpr ⟨length a, rfl⟩, ?_⟩
    exact pure_eq_ok.mpr ⟨same a, rfl⟩

theorem ipv4_eq_ok {address : Ipv4} {octets rest : Octets} :
    ipv4 octets = (.ok address, rest) ↔ octets = address.toOctets ++ rest :=
  take_as_eq_ok Ipv4.length_toOctets Ipv4.ofOctets_toOctets Ipv4.toOctets_ofOctets

theorem ipv6_eq_ok {address : Ipv6} {octets rest : Octets} :
    ipv6 octets = (.ok address, rest) ↔ octets = address.toOctets ++ rest :=
  take_as_eq_ok Ipv6.length_toOctets Ipv6.ofOctets_toOctets Ipv6.toOctets_ofOctets

theorem optional_eq_ok {present : Bool} {read : Reader α} {found : Option α}
    {octets rest : Octets} :
    optional present read octets = (.ok found, rest) ↔
      found.isSome = present ∧ found.elim (octets = rest) fun a => read octets = (.ok a, rest) := by
  cases present with
  | false => cases found <;> simp [optional]
  | true =>
      rw [optional, if_pos rfl]
      constructor
      · intro mapped
        obtain ⟨a, _, read, same⟩ := bind_eq_ok.mp mapped
        obtain ⟨rfl, rfl⟩ := pure_eq_ok.mp same
        exact ⟨rfl, read⟩
      · rintro ⟨some, read⟩
        cases found with
        | none => cases some
        | some a => exact bind_ok read _

theorem optional_eq_ok_of {read : Reader α} {write : α → Octets}
    (exact : ∀ {a octets rest}, read octets = (.ok a, rest) ↔ octets = write a ++ rest)
    {present : Bool} {part : Option α} {octets rest : Octets} :
    optional present read octets = (.ok part, rest) ↔
      part.isSome = present ∧ octets = part.elim [] write ++ rest := by
  rw [optional_eq_ok]
  cases part <;> simp [exact]

def Advances (read : Reader α) : Prop :=
  ∀ {octets a rest}, read octets = (.ok a, rest) → rest.length < octets.length

theorem allWithin_eq_all {read : Reader α} (advances : read.Advances) {steps : Nat}
    {octets : Octets} (enough : octets.length ≤ steps) :
    allWithin read steps octets = all read octets := by
  suffices general : ∀ bound steps octets, octets.length ≤ bound → octets.length ≤ steps →
      allWithin read steps octets = allWithin read bound octets from
    general octets.length steps octets (Nat.le_refl _) enough
  intro bound
  induction bound with
  | zero =>
      intro steps octets low _
      cases octets with
      | nil => cases steps <;> rfl
      | cons octet octets => simp at low
  | succ bound ih =>
      intro steps octets low enough
      cases octets with
      | nil => cases steps <;> rfl
      | cons octet octets =>
          obtain _ | steps := steps
          · simp at enough
          · unfold allWithin
            match found : read (octet :: octets) with
            | (.error error, rest) => rfl
            | (.ok a, rest) =>
                have less := advances found
                simp only [List.length_cons] at less low enough
                simp only [ih steps rest (by omega) (by omega)]

@[simp] theorem all_nil (read : Reader α) : all read [] = ([], none) := rfl

theorem all_cons {read : Reader α} (advances : read.Advances) (octet : UInt8) (octets : Octets) :
    all read (octet :: octets) =
      match read (octet :: octets) with
      | (.error error, _) => ([], some error)
      | (.ok a, rest) => (a :: (all read rest).1, (all read rest).2) := by
  rw [all, List.length_cons, allWithin]
  match found : read (octet :: octets) with
  | (.error error, rest) => rfl
  | (.ok a, rest) =>
      have less := advances found
      simp only [List.length_cons] at less
      simp only [allWithin_eq_all advances (Nat.le_of_lt_succ less)]

theorem all_eq_nil {read : Reader α} (advances : read.Advances) {octets : Octets} :
    all read octets = ([], none) ↔ octets = [] := by
  cases octets with
  | nil => simp
  | cons octet octets =>
      rw [all_cons advances]
      match read (octet :: octets) with
      | (.error error, rest) => simp
      | (.ok a, rest) => simp

theorem all_eq_cons {read : Reader α} (advances : read.Advances) {octets : Octets} {a : α}
    {as : List α} : all read octets = (a :: as, none) ↔
      ∃ rest, read octets = (.ok a, rest) ∧ all read rest = (as, none) := by
  cases octets with
  | nil =>
      constructor
      · rintro ⟨⟩
      · rintro ⟨rest, found, _⟩
        exact absurd (advances found) (Nat.not_lt_zero _)
  | cons octet octets =>
      rw [all_cons advances]
      match read (octet :: octets) with
      | (.error error, rest) => simp
      | (.ok first, rest) => simp [Prod.ext_iff, and_assoc]

end Reader

end TunnelControl
