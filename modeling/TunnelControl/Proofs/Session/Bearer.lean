import Mathlib.Data.List.Basic
import TunnelControl.Proofs.Result
import TunnelControl.Session.Bearer

namespace TunnelControl

theorem Table.get?_of_perm {κ α : Type} [DecidableEq κ] {table other : Table κ α}
    (order : other.entries.Perm table.entries) (key : κ) : other.get? key = table.get? key := by
  apply Option.ext
  intro value
  rw [get?_eq_some, get?_eq_some, order.mem_iff]

namespace Bearers

variable {bearers other : Bearers} {name : String} {bearer : Bearer} {ebi : UInt8}

/-! ## Searches by identity -/

def Carries (bearers : Bearers) (name : String) (ebi : UInt8) : Prop :=
  ∃ bearer, bearers.get? name = some bearer ∧ bearer.ebi = ebi

theorem mem_values_iff : bearer ∈ bearers.values ↔ ∃ name, bearers.get? name = some bearer := by
  simp [Table.values, Table.get?_eq_some]

theorem carried_of_findEbi (found : bearers.findEbi ebi = .ok bearer) :
    ∃ name, bearers.get? name = some bearer ∧ bearer.ebi = ebi := by
  unfold findEbi at found
  split at found
  · next first search =>
      cases found
      have member := List.mem_reverse.mp (List.mem_of_find?_eq_some search)
      obtain ⟨name, stored⟩ := mem_values_iff.mp member
      exact ⟨name, stored, by simpa using List.find?_some search⟩
  · cases found

theorem exists_findEbi_iff :
    (∃ bearer, bearers.findEbi ebi = .ok bearer) ↔ ∃ name, Carries bearers name ebi := by
  constructor
  · rintro ⟨bearer, found⟩
    obtain ⟨name, stored, carried⟩ := carried_of_findEbi found
    exact ⟨name, bearer, stored, carried⟩
  · rintro ⟨name, bearer, stored, carried⟩
    have some : (bearers.values.reverse.find? (·.ebi == ebi)).isSome = true :=
      List.find?_isSome.mpr
        ⟨bearer, List.mem_reverse.mpr (mem_values_iff.mpr ⟨name, stored⟩), by simpa using carried⟩
    obtain ⟨first, search⟩ := Option.isSome_iff_exists.mp some
    exact ⟨first, by rw [findEbi, search]⟩

theorem findEbi_eq_error_iff :
    bearers.findEbi ebi = .error (.notFound (.bearerWithEbi ebi)) ↔
      ∀ name, ¬ Carries bearers name ebi := by
  rw [← not_exists, ← exists_findEbi_iff]
  unfold findEbi
  split <;> simp

theorem findEbi_of_last {front : List (String × Bearer)}
    (entries : bearers.entries = front ++ [(name, bearer)]) (carried : bearer.ebi = ebi) :
    bearers.findEbi ebi = .ok bearer := by
  have search : bearers.values.reverse.find? (·.ebi == ebi) = some bearer := by
    simp [Table.values, entries, carried]
  rw [findEbi, search]

theorem any_iff_carries :
    (bearers.get? defaultName).any (·.ebi == ebi) = true ↔ Carries bearers defaultName ebi := by
  simp [Option.any_eq_true, Carries]

theorem nameOfEbi_of_default (carried : Carries bearers defaultName ebi) :
    bearers.nameOfEbi ebi = .ok defaultName := by
  rw [nameOfEbi, if_pos (any_iff_carries.mpr carried)]

theorem nameOfEbi_of_other (other : ¬ Carries bearers defaultName ebi) :
    bearers.nameOfEbi ebi = (bearers.findEbi ebi).map Bearer.name := by
  rw [nameOfEbi, if_neg fun carried => other (any_iff_carries.mp carried)]

/-! ## Changes -/

inductive Change where
  | add (name : String) (bearer : Bearer)
  | update (name : String) (mutate : Bearer → Bearer)
  | remove (name : String)
  | removeEbi (ebi : UInt8)

def orSame (bearers : Bearers) : Except Error (Bearer × Bearers) → Bearers
  | .ok (_, after) => after
  | .error _ => bearers

def Change.apply : Change → Bearers → Bearers
  | add name bearer, bearers => bearers.add name bearer
  | update name mutate, bearers => bearers.orSame (bearers.update name mutate)
  | remove name, bearers => bearers.orSame (bearers.remove name)
  | removeEbi ebi, bearers => bearers.orSame (bearers.removeEbi ebi)

def Renames (bearers : Bearers) (change : Change) : Prop :=
  ∃ name mutate bearer, change = .update name mutate ∧ bearers.get? name = some bearer ∧
    (mutate bearer).name ≠ bearer.name

def Named (bearers : Bearers) : Prop :=
  ∀ name bearer, bearers.get? name = some bearer → bearer.name = name

theorem find_eq_ok : bearers.find name = .ok bearer ↔ bearers.get? name = some bearer := by
  unfold find
  cases bearers.get? name <;> simp

theorem remove_eq_ok {after : Bearers} : bearers.remove name = .ok (bearer, after) ↔
    name ≠ defaultName ∧ bearers.get? name = some bearer ∧ after = bearers.erase name := by
  unfold remove
  split
  · next same => simp [same]
  · next differs =>
      show Except.bind _ (fun bearer => .ok _) = _ ↔ _
      rw [Except.bind_ok_eq_ok]
      simp only [find_eq_ok, Prod.mk.injEq]
      constructor
      · rintro ⟨_, stored, rfl, rfl⟩
        exact ⟨differs, stored, rfl⟩
      · rintro ⟨_, stored, rfl⟩
        exact ⟨bearer, stored, rfl, rfl⟩

theorem removeEbi_eq_ok {after : Bearers} : bearers.removeEbi ebi = .ok (bearer, after) ↔
    ∃ name, bearers.nameOfEbi ebi = .ok name ∧ bearers.remove name = .ok (bearer, after) :=
  Except.bind_eq_ok

theorem update_eq_ok {mutate : Bearer → Bearer} {after : Bearers} :
    bearers.update name mutate = .ok (bearer, after) ↔
      ∃ old, bearers.get? name = some old ∧ bearer = mutate old ∧
        after = bearers.insert name (mutate old) := by
  show Except.bind _ (fun bearer => .ok _) = _ ↔ _
  rw [Except.bind_ok_eq_ok]
  simp only [find_eq_ok, Prod.mk.injEq]

theorem named_initial : Named initial := by
  intro name bearer stored
  rw [initial, Table.get?_insert] at stored
  split at stored
  · next same =>
      cases stored
      exact same.symm
  · cases stored

theorem Named.of_perm (named : Named bearers) (order : other.entries.Perm bearers.entries) :
    Named other := by
  intro name bearer stored
  rw [Table.get?_of_perm order] at stored
  exact named name bearer stored

theorem Named.insert (named : Named bearers) (own : bearer.name = name) :
    Named (bearers.insert name bearer) := by
  intro other found stored
  rw [Table.get?_insert] at stored
  split at stored
  · next same =>
      cases stored
      exact own.trans same.symm
  · exact named other found stored

theorem Named.erase (named : Named bearers) (name : String) : Named (bearers.erase name) := by
  intro other found stored
  rw [Table.get?_erase] at stored
  split at stored
  · cases stored
  · exact named other found stored

theorem Named.orSame (named : Named bearers) {result : Except Error (Bearer × Bearers)}
    (each : ∀ bearer after, result = .ok (bearer, after) → Named after) :
    Named (bearers.orSame result) := by
  cases result with
  | error error => exact named
  | ok pair => exact each pair.1 pair.2 rfl

theorem Named.remove (named : Named bearers) {after : Bearers}
    (removed : bearers.remove name = .ok (bearer, after)) : Named after := by
  obtain ⟨_, _, rfl⟩ := remove_eq_ok.mp removed
  exact named.erase name

theorem named_apply_iff (named : Named bearers) (change : Change) :
    Named (change.apply bearers) ↔ ¬ Renames bearers change := by
  constructor
  · rintro after ⟨name, mutate, bearer, rfl, stored, renamed⟩
    have updated : bearers.update name mutate =
        .ok (mutate bearer, bearers.insert name (mutate bearer)) :=
      update_eq_ok.mpr ⟨bearer, stored, rfl, rfl⟩
    rw [Change.apply, updated] at after
    have own := after name (mutate bearer) (by rw [Bearers.orSame, Table.get?_insert, if_pos rfl])
    exact renamed (own.trans (named name bearer stored).symm)
  · intro kept
    cases change with
    | add name bearer => exact named.insert rfl
    | update name mutate =>
        refine named.orSame fun bearer after updated => ?_
        obtain ⟨old, stored, _, rfl⟩ := update_eq_ok.mp updated
        apply named.insert
        by_contra renamed
        have differs : (mutate old).name ≠ old.name := fun same =>
          renamed (same.trans (named name old stored))
        exact kept ⟨name, mutate, old, rfl, stored, differs⟩
    | remove name => exact named.orSame fun bearer after removed => named.remove removed
    | removeEbi ebi =>
        refine named.orSame fun bearer after removed => ?_
        obtain ⟨name, _, removed⟩ := removeEbi_eq_ok.mp removed
        exact named.remove removed

/-! ## Runs -/

/-- Changes one after the other, from the bearers of a new session on, each with the bearers before
it and the latest first. At any time the entries may come in another order. -/
inductive Run : List (Bearers × Change) → Bearers → Prop where
  | start : Run [] initial
  | change {history : List (Bearers × Change)} {bearers : Bearers} (run : Run history bearers)
      (change : Change) : Run ((bearers, change) :: history) (change.apply bearers)
  | reorder {history : List (Bearers × Change)} {bearers other : Bearers}
      (run : Run history bearers) (order : other.entries.Perm bearers.entries) : Run history other

variable {history : List (Bearers × Change)}

theorem Run.named_iff (run : Run history bearers) :
    (∀ visited ∈ bearers :: history.map Prod.fst, Named visited) ↔
      ∀ deed ∈ history, ¬ Renames deed.1 deed.2 := by
  induction run with
  | start => simp [named_initial]
  | @change history bearers run change ih =>
      rw [List.map_cons, List.forall_mem_cons, List.forall_mem_cons (l := history), ← ih]
      constructor
      · rintro ⟨after, earlier⟩
        exact ⟨(named_apply_iff (earlier bearers List.mem_cons_self) change).mp after, earlier⟩
      · rintro ⟨kept, earlier⟩
        exact ⟨(named_apply_iff (earlier bearers List.mem_cons_self) change).mpr kept, earlier⟩
  | @reorder history bearers other run order ih =>
      rw [List.forall_mem_cons] at ih ⊢
      rw [← ih]
      exact and_congr_left fun _ => ⟨fun named => named.of_perm order.symm,
        fun named => named.of_perm order⟩

/-! ## The two searches -/

structure Together (bearers : Bearers) (ebi : UInt8) : Prop where
  found : (∃ name, bearers.nameOfEbi ebi = .ok name) ↔
    ∃ bearer, bearers.findEbi ebi = .ok bearer
  missing : (bearers.nameOfEbi ebi = .error (.notFound (.bearerWithEbi ebi)) ∧
    bearers.findEbi ebi = .error (.notFound (.bearerWithEbi ebi))) ↔
    ∀ name, ¬ Carries bearers name ebi

/-- Whether the two searches find the same bearer, which is the default one where that has the
identity. -/
structure Agree (bearers : Bearers) (ebi : UInt8) : Prop extends Together bearers ebi where
  same : ∀ name bearer, bearers.nameOfEbi ebi = .ok name → bearers.findEbi ebi = .ok bearer →
    name = bearer.name
  preferred : Carries bearers defaultName ebi →
    bearers.nameOfEbi ebi = .ok defaultName ∧ bearers.findEbi ebi = .ok bearers.default

theorem together (bearers : Bearers) (ebi : UInt8) : Together bearers ebi := by
  by_cases carried : Carries bearers defaultName ebi
  · have name_eq := nameOfEbi_of_default carried
    refine ⟨?_, ?_⟩
    · rw [exists_findEbi_iff]
      exact ⟨fun _ => ⟨defaultName, carried⟩, fun _ => ⟨defaultName, name_eq⟩⟩
    · exact ⟨fun missing => absurd (name_eq.symm.trans missing.1) (by simp),
        fun none => absurd carried (none defaultName)⟩
  · have name_eq := nameOfEbi_of_other carried
    refine ⟨?_, ?_⟩
    · rw [name_eq]
      cases bearers.findEbi ebi <;> simp [Except.map]
    · rw [← findEbi_eq_error_iff, name_eq]
      exact ⟨And.right, fun missing => ⟨by rw [missing]; rfl, missing⟩⟩

theorem default_eq (stored : bearers.get? defaultName = some bearer) :
    bearers.default = bearer := by
  rw [default, stored, Option.getD_some]

theorem agree_iff (named : Named bearers) : Agree bearers ebi ↔
    (Carries bearers defaultName ebi → bearers.findEbi ebi = .ok bearers.default) := by
  refine ⟨fun agree carried => (agree.preferred carried).2, fun preferred =>
    ⟨together bearers ebi, fun name bearer name_found found => ?_,
      fun carried => ⟨nameOfEbi_of_default carried, preferred carried⟩⟩⟩
  by_cases carried : Carries bearers defaultName ebi
  · rw [nameOfEbi_of_default carried] at name_found
    rw [preferred carried] at found
    cases name_found
    cases found
    obtain ⟨bearer, stored, _⟩ := carried
    rw [default_eq stored]
    exact (named defaultName bearer stored).symm
  · rw [nameOfEbi_of_other carried, found] at name_found
    exact (Except.ok.inj name_found).symm

theorem carries_of_perm (order : other.entries.Perm bearers.entries) (name : String) :
    Carries other name ebi ↔ Carries bearers name ebi := by
  rw [Carries, Carries, Table.get?_of_perm order]

theorem exists_order_findEbi (stored : bearers.get? name = some bearer)
    (carried : bearer.ebi = ebi) : ∃ order : Bearers,
      order.entries.Perm bearers.entries ∧ order.findEbi ebi = .ok bearer := by
  have member := Table.get?_eq_some.mp stored
  have moved : (bearers.entries.erase (name, bearer) ++ [(name, bearer)]).Perm bearers.entries :=
    (List.perm_append_singleton _ _).trans (List.perm_cons_erase member).symm
  have distinct := (moved.map Prod.fst).nodup_iff.mpr bearers.distinct
  exact ⟨⟨_, distinct⟩, moved, findEbi_of_last rfl carried⟩

theorem agree_orders_iff (named : Named bearers) :
    (∀ order : Bearers, order.entries.Perm bearers.entries → Agree order ebi) ↔
      ¬ (Carries bearers defaultName ebi ∧
        ∃ name, name ≠ defaultName ∧ Carries bearers name ebi) := by
  constructor
  · rintro agree ⟨carried, name, differs, bearer, stored, own⟩
    -- Where the other bearer comes last, it is found in place of the default one.
    obtain ⟨order, moved, found⟩ := exists_order_findEbi stored own
    have preferred := (agree order moved).preferred ((carries_of_perm moved _).mpr carried)
    have named_order := named.of_perm moved
    obtain ⟨first, first_stored, _⟩ := (carries_of_perm moved _).mpr carried
    rw [default_eq first_stored] at preferred
    have same : bearer = first := Except.ok.inj (found.symm.trans preferred.2)
    have name_eq := named_order name bearer ((Table.get?_of_perm moved name).trans stored)
    exact differs (name_eq.symm.trans (same ▸ named_order defaultName first first_stored))
  · intro alone order moved
    refine (agree_iff (named.of_perm moved)).mpr fun carried => ?_
    -- Whichever bearer is found, only the default one has the identity.
    obtain ⟨bearer, found⟩ := exists_findEbi_iff.mpr ⟨_, carried⟩
    obtain ⟨name, stored, own⟩ := carried_of_findEbi found
    have default_name : name = defaultName := by
      by_contra differs
      exact alone ⟨(carries_of_perm moved _).mp carried, name, differs,
        (carries_of_perm moved _).mp ⟨bearer, stored, own⟩⟩
    rw [found, default_eq (default_name ▸ stored)]

/-- The searches find something together. Where no update renames a bearer, they agree unless
another bearer is found in place of the default one, and for every order of the entries unless the
default bearer shares the identity. -/
theorem searches_agree_iff (run : Run history bearers)
    (kept : ∀ deed ∈ history, ¬ Renames deed.1 deed.2) (ebi : UInt8) :
    Together bearers ebi ∧
    (Agree bearers ebi ↔
      (Carries bearers defaultName ebi → bearers.findEbi ebi = .ok bearers.default)) ∧
    ((∀ order : Bearers, order.entries.Perm bearers.entries → Agree order ebi) ↔
      ¬ (Carries bearers defaultName ebi ∧
        ∃ name, name ≠ defaultName ∧ Carries bearers name ebi)) := by
  have named : Named bearers := run.named_iff.mpr kept bearers List.mem_cons_self
  exact ⟨together bearers ebi, agree_iff named, agree_orders_iff named⟩

theorem searches_agree_iff_apart :
    let numbered := Change.update defaultName ({ · with ebi := 5 })
    let voice := Change.add "voice" { ebi := 6 }
    let bearers := voice.apply (numbered.apply initial)
    ∀ order : Bearers, order.entries.Perm bearers.entries → Agree order 5 := by
  intro numbered voice bearers
  have run : Run [(numbered.apply initial, voice), (initial, numbered)] bearers :=
    .change (.change .start numbered) voice
  refine (searches_agree_iff run ?_ 5).2.2.mpr ?_
  · rintro deed (_ | ⟨_, _ | ⟨_, ⟨⟩⟩⟩) ⟨name, mutate, bearer, same, _, renamed⟩
    · cases same
    · cases same
      exact renamed rfl
  · rintro ⟨_, name, differs, bearer, stored, own⟩
    rcases Table.get?_eq_some.mp stored with _ | ⟨_, _ | ⟨_, ⟨⟩⟩⟩
    · exact differs rfl
    · exact absurd own (by decide)

/-- A bearer for voice that shares the identity of the default bearer: the name that is found is
that of the default bearer, the bearer is the other one. -/
theorem searches_disagree_shared :
    let first := Change.add defaultName { ebi := 5 }
    let data := Change.add "data" { ebi := 6 }
    let voice := Change.add "voice" { ebi := 5 }
    let bearers := voice.apply (data.apply (first.apply initial))
    Run [(data.apply (first.apply initial), voice), (first.apply initial, data),
        (initial, first)] bearers ∧
      bearers.nameOfEbi 5 = .ok "default" ∧
      bearers.findEbi 5 = .ok { name := "voice", ebi := 5 } ∧ ¬ Agree bearers 5 := by
  intro first data voice bearers
  have name_eq : bearers.nameOfEbi 5 = .ok "default" := rfl
  have found : bearers.findEbi 5 = .ok { name := "voice", ebi := 5 } := rfl
  refine ⟨.change (.change (.change .start first) data) voice, name_eq, found, fun agree => ?_⟩
  exact absurd (agree.same _ _ name_eq found) (by decide)

/-! ## Removal by identity -/

def RemovesRight (bearers : Bearers) (ebi : UInt8) : Prop :=
  ∃ name bearer after, bearers.removeEbi ebi = .ok (bearer, after) ∧ bearer.ebi = ebi ∧
    bearers.get? name = some bearer ∧
    ∀ other, after.get? other = if other = name then none else bearers.get? other

theorem removesRight_iff (other : ¬ Carries bearers defaultName ebi) : RemovesRight bearers ebi ↔
    ∃ found, bearers.findEbi ebi = .ok found ∧ Carries bearers found.name ebi := by
  have name_eq := nameOfEbi_of_other other
  constructor
  · rintro ⟨_, bearer, after, removed, own, _, _⟩
    obtain ⟨name, named, removed⟩ := removeEbi_eq_ok.mp removed
    obtain ⟨_, stored, _⟩ := remove_eq_ok.mp removed
    rw [name_eq] at named
    cases search : bearers.findEbi ebi with
    | error error =>
        rw [search] at named
        cases named
    | ok found =>
        rw [search] at named
        cases named
        exact ⟨found, rfl, bearer, stored, own⟩
  · rintro ⟨found, search, holder, stored, own⟩
    have named : bearers.nameOfEbi ebi = .ok found.name := by
      rw [name_eq, search]
      rfl
    -- The default bearer has another identity, so the removal is not refused.
    have differs : found.name ≠ defaultName := fun same => other ⟨holder, same ▸ stored, own⟩
    have removed := remove_eq_ok.mpr ⟨differs, stored, rfl⟩
    exact ⟨found.name, holder, _, removeEbi_eq_ok.mpr ⟨_, named, removed⟩, own, stored,
      bearers.get?_erase found.name⟩

theorem Named.removesRight (named : Named bearers) (other : ¬ Carries bearers defaultName ebi)
    (carried : ∃ name, Carries bearers name ebi) : RemovesRight bearers ebi := by
  obtain ⟨found, search⟩ := exists_findEbi_iff.mpr carried
  obtain ⟨name, stored, own⟩ := carried_of_findEbi search
  refine (removesRight_iff other).mpr ⟨found, search, found, ?_, own⟩
  rw [named name found stored]
  exact stored

/-- In all that a run goes through bearers carry the names under which they are stored, and removal
by an identity takes out a bearer that has it, exactly if no update renames a bearer. At its end the
right one is removed exactly if the bearer that is found carries the name of one that has the
identity. -/
theorem removed_right_iff (run : Run history bearers) :
    ((∀ visited ∈ bearers :: history.map Prod.fst, Named visited ∧
        ∀ ebi, ¬ Carries visited defaultName ebi → (∃ name, Carries visited name ebi) →
          RemovesRight visited ebi) ↔
      ∀ deed ∈ history, ¬ Renames deed.1 deed.2) ∧
    ∀ ebi, ¬ Carries bearers defaultName ebi → (RemovesRight bearers ebi ↔
      ∃ found, bearers.findEbi ebi = .ok found ∧ Carries bearers found.name ebi) := by
  refine ⟨?_, fun ebi other => removesRight_iff other⟩
  rw [← run.named_iff]
  constructor
  · intro right visited member
    exact (right visited member).1
  · intro named visited member
    exact ⟨named visited member, fun ebi other carried =>
      (named visited member).removesRight other carried⟩

theorem removed_right_iff_charged :
    let voice := Change.add "voice" { ebi := 6 }
    let charged := Change.update "voice" ({ · with chargingId := 7 })
    RemovesRight (charged.apply (voice.apply initial)) 6 := by
  intro voice charged
  have run : Run [(voice.apply initial, charged), (initial, voice)]
      (charged.apply (voice.apply initial)) :=
    .change (.change .start voice) charged
  have right := (removed_right_iff run).1.mpr <| by
    rintro deed (_ | ⟨_, _ | ⟨_, ⟨⟩⟩⟩) ⟨name, mutate, bearer, same, _, renamed⟩
    · cases same
      exact renamed rfl
    · cases same
  refine (right _ List.mem_cons_self).2 6 ?_ ⟨"voice", _, rfl, rfl⟩
  rintro ⟨bearer, stored, own⟩
  cases stored
  exact absurd own (by decide)

/-- A bearer for voice that an update gives the name of the one for video: removal by its identity
takes out the other one. -/
theorem not_removed_right_renamed :
    let voice := Change.add "voice" { ebi := 6 }
    let video := Change.add "video" { ebi := 7 }
    let renamed := Change.update "voice" ({ · with name := "video" })
    let bearers := renamed.apply (video.apply (voice.apply initial))
    Run [(video.apply (voice.apply initial), renamed), (voice.apply initial, video),
        (initial, voice)] bearers ∧
      bearers.get? "voice" = some { name := "video", ebi := 6 } ∧ ¬ Named bearers ∧
      bearers.removeEbi 6 = .ok ({ name := "video", ebi := 7 }, bearers.erase "video") ∧
      ¬ RemovesRight bearers 6 := by
  intro voice video renamed bearers
  have stored : bearers.get? "voice" = some { name := "video", ebi := 6 } := rfl
  have removed : bearers.removeEbi 6 =
      .ok ({ name := "video", ebi := 7 }, bearers.erase "video") := rfl
  refine ⟨.change (.change (.change .start voice) video) renamed, stored, fun named => ?_, removed,
    ?_⟩
  · exact absurd (named _ _ stored) (by decide)
  · rintro ⟨_, bearer, after, again, own, _⟩
    rw [removed] at again
    cases again
    exact absurd own (by decide)

end Bearers

end TunnelControl
