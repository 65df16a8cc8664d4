import TunnelControl.Proofs.Session.Bearer
import TunnelControl.Session.Basic

namespace TunnelControl

namespace Table

variable {κ α : Type} {table : Table κ α} {key : κ} {value : α}

theorem length_keys (table : Table κ α) : table.keys.length = table.size := List.length_map _

variable [DecidableEq κ]

theorem mem_keys (stored : table.get? key = some value) : key ∈ table.keys :=
  List.mem_map.mpr ⟨_, get?_eq_some.mp stored, rfl⟩

theorem keys_erase (key : κ) (table : Table κ α) :
    (table.erase key).keys = table.keys.erase key := by
  rw [List.Nodup.erase_eq_filter (l := table.keys) table.distinct]
  unfold erase filter keys
  rw [List.filter_map]
  congr 1
  apply List.filter_congr
  intro entry _
  by_cases same : entry.1 = key <;> simp [same]

theorem size_pos (stored : table.get? key = some value) : 0 < table.size := by
  rw [← length_keys]
  exact List.length_pos_of_mem (mem_keys stored)

theorem size_erase (stored : table.get? key = some value) :
    (table.erase key).size + 1 = table.size := by
  have positive := size_pos stored
  have length := List.length_erase_of_mem (mem_keys stored)
  rw [← keys_erase, length_keys, length_keys] at length
  omega

end Table

namespace Bearers

variable {history : List (Bearers × Change)} {bearers after : Bearers} {bearer taken : Bearer}
  {name : String} {ebi : UInt8} {change : Change} {error : Error}

namespace Change

def attempt : Change → Bearers → Except Error (Bearer × Bearers)
  | add name bearer, bearers => .ok ({ bearer with name }, bearers.add name bearer)
  | update name mutate, bearers => bearers.update name mutate
  | remove name, bearers => bearers.remove name
  | removeEbi ebi, bearers => bearers.removeEbi ebi

inductive IsRemoval : Change → Prop where
  | remove (name : String) : IsRemoval (.remove name)
  | removeEbi (ebi : UInt8) : IsRemoval (.removeEbi ebi)

theorem apply_eq (change : Change) (bearers : Bearers) :
    change.apply bearers = bearers.orSame (change.attempt bearers) := by
  cases change <;> rfl

theorem apply_of_error (failed : change.attempt bearers = .error error) :
    change.apply bearers = bearers := by
  rw [apply_eq, failed]
  rfl

theorem apply_of_ok (done : change.attempt bearers = .ok (bearer, after)) :
    change.apply bearers = after := by
  rw [apply_eq, done]
  rfl

end Change

theorem removeEbi_of_named (named : bearers.nameOfEbi ebi = .ok name) :
    bearers.removeEbi ebi = bearers.remove name := by
  unfold removeEbi
  rw [named]
  rfl

inductive Refused (bearers : Bearers) : Change → Error → Prop where
  | update {name : String} {mutate : Bearer → Bearer} (missing : bearers.get? name = none) :
      Refused bearers (.update name mutate) (.notFound (.bearer name))
  | default : Refused bearers (.remove defaultName) .defaultBearer
  | remove {name : String} (other : name ≠ defaultName) (missing : bearers.get? name = none) :
      Refused bearers (.remove name) (.notFound (.bearer name))
  | nobody {ebi : UInt8} (nobody : ∀ name, ¬ Carries bearers name ebi) :
      Refused bearers (.removeEbi ebi) (.notFound (.bearerWithEbi ebi))
  | named {ebi : UInt8} {name : String} {error : Error}
      (named : bearers.nameOfEbi ebi = .ok name) (refused : Refused bearers (.remove name) error) :
      Refused bearers (.removeEbi ebi) error

theorem find_eq_error : bearers.find name = .error error ↔
    bearers.get? name = none ∧ error = .notFound (.bearer name) := by
  unfold find
  cases bearers.get? name <;> simp [eq_comm]

theorem findEbi_eq_error : bearers.findEbi ebi = .error error ↔
    (∀ name, ¬ Carries bearers name ebi) ∧ error = .notFound (.bearerWithEbi ebi) := by
  rw [← findEbi_eq_error_iff]
  unfold findEbi
  split <;> simp [eq_comm]

theorem nameOfEbi_eq_error : bearers.nameOfEbi ebi = .error error ↔
    (∀ name, ¬ Carries bearers name ebi) ∧ error = .notFound (.bearerWithEbi ebi) := by
  by_cases carried : Carries bearers defaultName ebi
  · rw [nameOfEbi_of_default carried]
    exact iff_of_false nofun fun missing => missing.1 defaultName carried
  · rw [nameOfEbi_of_other carried, ← findEbi_eq_error]
    cases bearers.findEbi ebi <;> simp [Except.map]

theorem update_eq_error {mutate : Bearer → Bearer} : bearers.update name mutate = .error error ↔
    Refused bearers (.update name mutate) error := by
  unfold update
  cases found : bearers.find name with
  | ok bearer =>
      have stored := find_eq_ok.mp found
      refine iff_of_false nofun ?_
      rintro ⟨missing⟩
      cases stored.symm.trans missing
  | error reason =>
      obtain ⟨missing, rfl⟩ := find_eq_error.mp found
      constructor
      · rintro ⟨⟩
        exact .update missing
      · rintro ⟨_⟩
        rfl

theorem remove_eq_error : bearers.remove name = .error error ↔
    Refused bearers (.remove name) error := by
  unfold remove
  by_cases same : name = defaultName
  · subst same
    rw [if_pos rfl]
    constructor
    · rintro ⟨⟩
      exact .default
    · rintro (_ | _ | ⟨other, _⟩)
      · rfl
      · exact absurd rfl other
  · rw [if_neg same]
    cases found : bearers.find name with
    | ok bearer =>
        have stored := find_eq_ok.mp found
        refine iff_of_false nofun ?_
        rintro (_ | _ | ⟨_, missing⟩)
        · exact same rfl
        · cases stored.symm.trans missing
    | error reason =>
        obtain ⟨missing, rfl⟩ := find_eq_error.mp found
        constructor
        · rintro ⟨⟩
          exact .remove same missing
        · rintro (_ | _ | _)
          · exact absurd rfl same
          · rfl

theorem removeEbi_eq_error : bearers.removeEbi ebi = .error error ↔
    Refused bearers (.removeEbi ebi) error := by
  cases named : bearers.nameOfEbi ebi with
  | ok name =>
      rw [removeEbi_of_named named, remove_eq_error]
      constructor
      · exact .named named
      · rintro (_ | _ | _ | nobody | ⟨own, refused⟩)
        · cases named.symm.trans (nameOfEbi_eq_error.mpr ⟨nobody, rfl⟩)
        · cases named.symm.trans own
          exact refused
  | error reason =>
      obtain ⟨nobody, rfl⟩ := nameOfEbi_eq_error.mp named
      have failed : bearers.removeEbi ebi = .error (.notFound (.bearerWithEbi ebi)) := by
        unfold removeEbi
        rw [named]
        rfl
      rw [failed]
      constructor
      · rintro ⟨⟩
        exact .nobody nobody
      · rintro (_ | _ | _ | _ | ⟨own, _⟩)
        · rfl
        · cases named.symm.trans own

theorem attempt_eq_error : change.attempt bearers = .error error ↔
    Refused bearers change error := by
  cases change with
  | add name bearer => exact iff_of_false nofun nofun
  | update name mutate => exact update_eq_error
  | remove name => exact remove_eq_error
  | removeEbi ebi => exact removeEbi_eq_error

def Based (bearers : Bearers) : Prop :=
  ∃ bearer, bearers.get? defaultName = some bearer ∧ bearers.default = bearer

theorem based_iff : Based bearers ↔ ∃ bearer, bearers.get? defaultName = some bearer :=
  exists_congr fun _ => and_iff_left_of_imp default_eq

theorem based_initial : Based initial := based_iff.mpr ⟨_, rfl⟩

theorem Based.of_perm (based : Based bearers) (order : after.entries.Perm bearers.entries) :
    Based after := by
  rw [based_iff] at *
  rwa [Table.get?_of_perm order]

theorem Based.insert (based : Based bearers) (name : String) (bearer : Bearer) :
    Based (bearers.insert name bearer) := by
  rw [based_iff] at *
  rw [Table.get?_insert]
  split
  · exact ⟨bearer, rfl⟩
  · exact based

theorem Based.erase (based : Based bearers) (other : name ≠ defaultName) :
    Based (bearers.erase name) := by
  rw [based_iff] at *
  rwa [Table.get?_erase, if_neg other.symm]

theorem Based.remove (based : Based bearers) (done : bearers.remove name = .ok (taken, after)) :
    Based after := by
  obtain ⟨other, _, rfl⟩ := remove_eq_ok.mp done
  exact based.erase other

theorem Based.attempt (based : Based bearers)
    (done : change.attempt bearers = .ok (bearer, after)) :
    Based after := by
  cases change with
  | add name bearer =>
      cases done
      exact based.insert name _
  | update name mutate =>
      obtain ⟨old, _, _, rfl⟩ := update_eq_ok.mp done
      exact based.insert name _
  | remove name => exact based.remove done
  | removeEbi ebi =>
      obtain ⟨name, _, removed⟩ := removeEbi_eq_ok.mp done
      exact based.remove removed

theorem Based.apply (based : Based bearers) (change : Change) : Based (change.apply bearers) := by
  cases ended : change.attempt bearers with
  | error error => rwa [Change.apply_of_error ended]
  | ok result =>
      rw [Change.apply_of_ok ended]
      exact based.attempt ended

theorem Run.based (run : Run history bearers) : Based bearers := by
  induction run with
  | start => exact based_initial
  | change _ change ih => exact ih.apply change
  | reorder _ order ih => exact ih.of_perm order

structure Lost (name : String) (taken : Bearer) (bearers after : Bearers) : Prop where
  other : name ≠ defaultName
  stored : bearers.get? name = some taken
  rest : ∀ kept, after.get? kept = if kept = name then none else bearers.get? kept
  size : after.size + 1 = bearers.size

theorem lost_of_remove (done : bearers.remove name = .ok (taken, after)) :
    Lost name taken bearers after := by
  obtain ⟨other, stored, rfl⟩ := remove_eq_ok.mp done
  exact ⟨other, stored, bearers.get?_erase name, Table.size_erase stored⟩

theorem lost_of_removal (removal : change.IsRemoval)
    (done : change.attempt bearers = .ok (taken, after)) :
    ∃ name, Lost name taken bearers after := by
  cases removal with
  | remove name => exact ⟨name, lost_of_remove done⟩
  | removeEbi ebi =>
      obtain ⟨name, _, removed⟩ := removeEbi_eq_ok.mp done
      exact ⟨name, lost_of_remove removed⟩

structure Kept (bearers : Bearers) : Prop where
  based : Based bearers
  counted : 1 ≤ bearers.size
  refused : ∀ (change : Change) (error : Error),
    change.attempt bearers = .error error ↔ Refused bearers change error
  unchanged : ∀ (change : Change) (error : Error),
    change.attempt bearers = .error error → change.apply bearers = bearers
  removal : ∀ change : Change, change.IsRemoval →
    (∃ error, change.attempt bearers = .error error) ∨
      ∃ name taken, change.attempt bearers = .ok (taken, change.apply bearers) ∧
        Lost name taken bearers (change.apply bearers)

/-- The default bearer of a session stays, whatever names and identities bearers are given, and
whatever updates make of them. -/
theorem default_kept (run : Run history bearers) : Kept bearers := by
  have based := run.based
  have ⟨bearer, stored, _⟩ := based
  constructor
  case based => exact based
  case counted => exact Table.size_pos stored
  case refused => exact fun change error => attempt_eq_error
  case unchanged => exact fun change error => Change.apply_of_error
  case removal =>
    intro change removal
    cases ended : change.attempt bearers with
    | error error => exact .inl ⟨error, rfl⟩
    | ok result =>
        obtain ⟨name, lost⟩ := lost_of_removal removal ended
        rw [Change.apply_of_ok ended]
        exact .inr ⟨name, result.1, rfl, lost⟩

theorem default_kept_posing :
    let session := Session.ofSubscriber Inhabited.default { imsi := "001010000000001" }
    let voice := Change.add "voice" { ebi := 6 }
    let posing := Change.update "voice" ({ · with name := defaultName })
    let bearers := posing.apply (voice.apply session.bearers)
    bearers.get? "voice" = some { name := defaultName, ebi := 6 } ∧
      (Change.removeEbi 6).attempt bearers = .error .defaultBearer ∧
      (Change.removeEbi 6).apply bearers = bearers ∧ Based bearers := by
  intro session voice posing bearers
  have run : Run [(voice.apply initial, posing), (initial, voice)] bearers :=
    .change (.change .start voice) posing
  have kept := default_kept run
  have named : bearers.nameOfEbi 6 = .ok defaultName := rfl
  have refused : (Change.removeEbi 6).attempt bearers = .error .defaultBearer :=
    (kept.refused _ _).mpr (.named named .default)
  exact ⟨rfl, refused, kept.unchanged _ _ refused, kept.based⟩

end Bearers

end TunnelControl
