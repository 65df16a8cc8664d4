import Mathlib.Data.List.Forall2

universe u v w

namespace Except

variable {ε : Type u} {α : Type v} {β : Type w} {f : α → Except ε β} {as : List α} {bs : List β}

theorem bind_eq_ok {γ : Type v} {result : Except ε γ} {next : γ → Except ε β} {b : β} :
    result.bind next = .ok b ↔ ∃ c, result = .ok c ∧ next c = .ok b := by
  cases result <;> simp [Except.bind]

theorem bind_ok_eq_ok {γ : Type v} {result : Except ε γ} {g : γ → β} {b : β} :
    (result.bind fun c => .ok (g c)) = .ok b ↔ ∃ c, result = .ok c ∧ b = g c := by
  simp only [bind_eq_ok, Except.ok.injEq, @eq_comm _ b]

theorem exists_bind_ok_iff {γ : Type v} {result : Except ε γ} {g : γ → β} :
    (∃ b, (result.bind fun c => .ok (g c)) = .ok b) ↔ ∃ c, result = .ok c := by
  simp only [bind_ok_eq_ok]
  exact ⟨fun ⟨_, c, found, _⟩ => ⟨c, found⟩, fun ⟨c, found⟩ => ⟨g c, c, found, rfl⟩⟩

theorem exists_bind_iff {γ : Type v} {result : Except ε γ} {next : γ → Except ε β} {P : Prop}
    (each : ∀ c, (∃ b, next c = .ok b) ↔ P) :
    (∃ b, result.bind next = .ok b) ↔ (∃ c, result = .ok c) ∧ P := by
  cases result with
  | error error => simp [Except.bind]
  | ok c => simpa [Except.bind] using each c

theorem mapM_cons (a : α) (as : List α) :
    (a :: as).mapM f = (f a).bind fun b => (as.mapM f).bind fun bs => .ok (b :: bs) :=
  List.mapM_cons

theorem mapM_eq_ok : as.mapM f = .ok bs ↔ List.Forall₂ (f · = .ok ·) as bs := by
  induction as generalizing bs with
  | nil =>
      rw [List.forall₂_nil_left_iff]
      exact ⟨fun done => (Except.ok.inj done).symm, fun none => none ▸ rfl⟩
  | cons a as ih =>
      rw [mapM_cons, List.forall₂_cons_left_iff]
      simp only [bind_eq_ok, ih, Except.ok.injEq]
      constructor
      · rintro ⟨b, first, others, rest, rfl⟩
        exact ⟨b, others, first, rest, rfl⟩
      · rintro ⟨b, others, first, rest, rfl⟩
        exact ⟨b, first, others, rest, rfl⟩

theorem exists_mapM_iff : (∃ bs, as.mapM f = .ok bs) ↔ ∀ a ∈ as, ∃ b, f a = .ok b := by
  simp only [mapM_eq_ok]
  induction as with
  | nil => simp
  | cons a as ih =>
      rw [List.forall_mem_cons, ← ih]
      constructor
      · rintro ⟨bs, done⟩
        obtain ⟨b, others, first, rest, rfl⟩ := List.forall₂_cons_left_iff.mp done
        exact ⟨⟨b, first⟩, others, rest⟩
      · rintro ⟨⟨b, first⟩, bs, rest⟩
        exact ⟨b :: bs, .cons first rest⟩

theorem exists_mem_of_mapM (done : as.mapM f = .ok bs) {a : α} (member : a ∈ as) :
    ∃ b ∈ bs, f a = .ok b := by
  obtain ⟨length, each⟩ := List.forall₂_iff_get.mp (mapM_eq_ok.mp done)
  obtain ⟨i, inside, rfl⟩ := List.mem_iff_getElem.mp member
  exact ⟨_, List.getElem_mem (length ▸ inside), each i inside (length ▸ inside)⟩

theorem exists_mem_of_mem_mapM (done : as.mapM f = .ok bs) {b : β} (member : b ∈ bs) :
    ∃ a ∈ as, f a = .ok b := by
  obtain ⟨length, each⟩ := List.forall₂_iff_get.mp (mapM_eq_ok.mp done)
  obtain ⟨i, inside, rfl⟩ := List.mem_iff_getElem.mp member
  exact ⟨_, List.getElem_mem (length ▸ inside), each i (length ▸ inside) inside⟩

theorem map_mapM {γ : Type*} {mark : β → γ} {own : α → γ}
    (same : ∀ {a b}, f a = .ok b → mark b = own a) (done : as.mapM f = .ok bs) :
    bs.map mark = as.map own := by
  have each : List.Forall₂ (fun b a => mark b = own a) bs as :=
    (mapM_eq_ok.mp done).flip.imp fun _ _ found => same found
  rw [← List.forall₂_eq_eq_eq, List.forall₂_map_left_iff, List.forall₂_map_right_iff]
  exact each

end Except
