import TunnelControl.Octets.Reader

/-!
A reader that asks for octets without looking needs some that are known to be there. How many it
takes is added up along the reader, and a check in front of it has to cover the sum.
-/

namespace TunnelControl.Reader

variable {α β : Type} {m n : Nat} {read : Reader α} {next : α → Reader β} {octets : Octets}

/-- Whether a reader takes `n` octets wherever as many are left, and finds in them what does not
depend on those that follow. -/
def Takes (n : Nat) (read : Reader α) : Prop :=
  ∀ front : Octets, front.length = n → ∃ a, ∀ rest, read (front ++ rest) = (.ok a, rest)

namespace Takes

theorem exists_eq_ok (takes : Takes n read) (enough : n ≤ octets.length) :
    ∃ a, read octets = (.ok a, octets.drop n) := by
  obtain ⟨a, found⟩ := takes (octets.take n) (List.length_take_of_le enough)
  refine ⟨a, ?_⟩
  rw [← found, List.take_append_drop]

theorem pure (a : α) : Takes 0 (pure a : Reader α) := by
  intro front none
  rw [List.length_eq_zero_iff.mp none]
  exact ⟨a, fun rest => rfl⟩

theorem bind (first : Takes m read) (second : ∀ a, Takes n (next a)) :
    Takes (m + n) (read >>= next) := by
  intro front length
  have parts := List.take_append_drop m front
  obtain ⟨a, found⟩ := first (front.take m) (by simp [length])
  obtain ⟨b, after⟩ := second a (front.drop m) (by simp [length])
  refine ⟨b, fun rest => ?_⟩
  rw [← parts, List.append_assoc, bind_ok (found _)]
  exact after rest

theorem need (covered : m ≤ n) {next : Unit → Reader β} (takes : Takes n (next ())) :
    Takes n (need m >>= next) := by
  intro front length
  obtain ⟨b, found⟩ := takes front length
  refine ⟨b, fun rest => ?_⟩
  have enough : m ≤ (front ++ rest).length := by
    rw [List.length_append]
    omega
  rw [bind_ok (need_of_le enough)]
  exact found rest

theorem take (n : Nat) : Takes n (take n) := by
  rintro front rfl
  exact ⟨front, take_append front⟩

theorem number (width : Nat) : Takes width (number width) :=
  (take width).bind fun _ => .pure _

theorem u8 : Takes 1 u8 := (number 1).bind fun _ => .pure _

theorem u16 : Takes 2 u16 := (number 2).bind fun _ => .pure _

theorem u24 : Takes 3 u24 := (number 3).bind fun _ => .pure _

theorem u32 : Takes 4 u32 := (number 4).bind fun _ => .pure _

theorem u40 : Takes 5 u40 := (number 5).bind fun _ => .pure _

theorem ipv4 : Takes 4 ipv4 := (take 4).bind fun _ => .pure _

theorem ipv6 : Takes 16 ipv6 := (take 16).bind fun _ => .pure _

theorem optional (takes : Takes n read) (present : Bool) :
    Takes (if present then n else 0) (optional present read) := by
  cases present with
  | false => exact .pure none
  | true => exact takes.bind fun a => .pure (some a)

end Takes

def Within (n : Nat) (read : Reader α) : Prop :=
  ∀ octets : Octets, n ≤ octets.length → (read octets).1 ≠ .error .overrun

/-- Whether a reader never runs out of octets. -/
def Guarded (read : Reader α) : Prop := ∀ octets : Octets, (read octets).1 ≠ .error .overrun

theorem Takes.within (takes : Takes n read) : Within n read := by
  intro octets enough
  obtain ⟨a, found⟩ := takes.exists_eq_ok enough
  rw [found]
  nofun

theorem Guarded.within (guarded : Guarded read) : Within n read := fun octets _ => guarded octets

theorem Guarded.error_ne {rest : Octets} {error : Error} (guarded : Guarded read)
    (found : read octets = (.error error, rest)) : error ≠ .overrun := by
  rintro rfl
  exact guarded octets (congrArg Prod.fst found)

theorem Within.mono (within : Within m read) (covered : m ≤ n) : Within n read :=
  fun octets enough => within octets (Nat.le_trans covered enough)

theorem Within.bind (first : Takes m read) (second : ∀ a, Within n (next a)) :
    Within (m + n) (read >>= next) := by
  intro octets enough
  obtain ⟨a, found⟩ := first.exists_eq_ok (Nat.le_of_add_right_le enough)
  rw [bind_ok found]
  -- the first reader takes just `m` of them, so that the others are left to the second one
  exact second a _ (by simp; omega)

theorem Guarded.pure (a : α) : Guarded (pure a : Reader α) := nofun

theorem Guarded.remaining : Guarded remaining := nofun

theorem Guarded.bind (first : Guarded read) (second : ∀ a, Guarded (next a)) :
    Guarded (read >>= next) := by
  intro octets
  rw [bind_apply]
  match found : read octets with
  | (.ok a, rest) => exact second a rest
  | (.error error, rest) => simpa using first.error_ne found

theorem Within.before (first : Takes n read) (second : ∀ a, Guarded (next a)) :
    Within n (read >>= next) :=
  @Within.bind _ _ n 0 _ _ first fun a => (second a).within

theorem Guarded.need {next : Unit → Reader β} (within : Within n (next ())) :
    Guarded (need n >>= next) := by
  -- a check that covers what is taken after it guards it
  intro octets
  by_cases enough : n ≤ octets.length
  · rw [bind_ok (need_of_le enough)]
    exact within octets enough
  · simp [bind_apply, Reader.need, Nat.lt_of_not_le enough]

theorem Guarded.optional (guarded : Guarded read) (present : Bool) :
    Guarded (optional present read) := by
  cases present with
  | false => exact .pure none
  | true => exact guarded.bind fun a => .pure (some a)

theorem Guarded.left {next : Nat → Reader β} (within : ∀ n, Within n (next n)) :
    Guarded (left >>= next) := fun octets => within octets.length octets (Nat.le_refl _)

theorem Within.sized {size : UInt8 → Nat} {next : UInt8 → UInt8 → Reader β}
    (within : ∀ first, Within (size first - 1) (next first first)) :
    Within 1 (peek >>= fun first => need (size first) >>= fun _ => u8 >>= next first) := by
  intro octets some
  cases octets with
  | nil => simp at some
  | cons first rest =>
      rw [bind_ok (show peek (first :: rest) = (.ok first, first :: rest) from rfl)]
      by_cases enough : size first ≤ (first :: rest).length
      · rw [bind_ok (need_of_le enough), bind_ok (u8_cons first rest)]
        exact within first rest (Nat.sub_le_of_le_add enough)
      · have few : rest.length + 1 < size first := Nat.lt_of_not_le enough
        simp [bind_apply, need, few]

theorem all_guarded (within : Within 1 read) (octets : Octets) :
    (all read octets).2 ≠ some .overrun := by
  -- reading time after time does not run out of octets if reading once does not where one is left
  suffices general : ∀ steps octets, (allWithin read steps octets).2 ≠ some .overrun from
    general octets.length octets
  intro steps
  induction steps with
  | zero => rintro (_ | _) <;> simp [allWithin]
  | succ steps ih =>
      rintro (_ | ⟨octet, octets⟩)
      · simp [allWithin]
      · have once := within (octet :: octets) (Nat.succ_le_succ (Nat.zero_le _))
        unfold allWithin
        cases found : read (octet :: octets) with
        | mk result rest =>
            cases result with
            -- nothing is asked of how many octets are left: if there are none, nothing is read
            | ok a => exact ih rest
            | error error =>
                rw [found] at once
                simpa using once

end TunnelControl.Reader

namespace TunnelControl

variable {α β : Type} {first : Except Error α} {next : α → Except Error β}

theorem bind_ne_overrun (start : first ≠ .error .overrun)
    (rest : ∀ a, next a ≠ .error .overrun) : (first >>= next) ≠ .error .overrun := by
  cases first with
  | ok a => exact rest a
  | error error => simpa [bind, Except.bind] using start

end TunnelControl
