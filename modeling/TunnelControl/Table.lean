namespace TunnelControl

structure Table (κ α : Type) where
  entries : List (κ × α)
  distinct : (entries.map Prod.fst).Nodup

namespace Table

variable {κ α : Type}

def empty : Table κ α := ⟨[], List.nodup_nil⟩

instance : Inhabited (Table κ α) := ⟨empty⟩

def keys (table : Table κ α) : List κ := table.entries.map Prod.fst

def values (table : Table κ α) : List α := table.entries.map Prod.snd

def size (table : Table κ α) : Nat := table.entries.length

def ascending [LE κ] [DecidableLE κ] (table : Table κ α) : List (κ × α) :=
  table.entries.mergeSort fun a b => a.1 ≤ b.1

def filter (keep : κ → α → Bool) (table : Table κ α) : Table κ α :=
  ⟨table.entries.filter fun entry => keep entry.1 entry.2,
    table.distinct.sublist (List.filter_sublist.map Prod.fst)⟩

variable [DecidableEq κ]

def get? (table : Table κ α) (key : κ) : Option α :=
  (table.entries.find? fun entry => entry.1 = key).map Prod.snd

def contains (table : Table κ α) (key : κ) : Bool := (table.get? key).isSome

def erase (key : κ) (table : Table κ α) : Table κ α := table.filter fun other _ => other ≠ key

def eraseEntry [DecidableEq α] (key : κ) (value : α) (table : Table κ α) : Table κ α :=
  table.filter fun other found => other ≠ key || found ≠ value

def put (key : κ) (value : α) : List (κ × α) → List (κ × α)
  | [] => [(key, value)]
  | entry :: rest => if entry.1 = key then (key, value) :: rest else entry :: put key value rest

theorem mem_keys_put {key other : κ} {value : α} {entries : List (κ × α)}
    (found : other ∈ (put key value entries).map Prod.fst) :
    other = key ∨ other ∈ entries.map Prod.fst := by
  induction entries with
  | nil => simpa [put] using found
  | cons entry rest ih =>
      unfold put at found
      split at found
      · rcases List.mem_cons.mp found with same | rest
        · exact .inl same
        · exact .inr (List.mem_cons_of_mem _ rest)
      · rcases List.mem_cons.mp found with same | rest
        · exact .inr (same ▸ List.mem_cons_self)
        · exact (ih rest).imp id (List.mem_cons_of_mem _)

theorem nodup_put (key : κ) (value : α) {entries : List (κ × α)}
    (distinct : (entries.map Prod.fst).Nodup) : ((put key value entries).map Prod.fst).Nodup := by
  induction entries with
  | nil => simp [put]
  | cons entry rest ih =>
      have ⟨fresh, distinct⟩ := List.nodup_cons.mp distinct
      unfold put
      split
      · next same => exact List.nodup_cons.mpr ⟨same ▸ fresh, distinct⟩
      · next other =>
          exact List.nodup_cons.mpr
            ⟨fun found => (mem_keys_put found).elim other fresh, ih distinct⟩

def insert (key : κ) (value : α) (table : Table κ α) : Table κ α :=
  ⟨put key value table.entries, nodup_put key value table.distinct⟩

/-- The table with a value for the key, which is left as it is if there is one already. -/
def insertNew (key : κ) (value : α) (table : Table κ α) : Table κ α :=
  if table.contains key then table else table.insert key value

def modify (key : κ) (change : α → α) (table : Table κ α) : Table κ α :=
  match table.get? key with
  | some value => table.insert key (change value)
  | none => table

def insertAll (entries : List (κ × α)) (table : Table κ α) : Table κ α :=
  entries.foldl (fun table entry => table.insert entry.1 entry.2) table

def ofList (entries : List (κ × α)) : Table κ α := insertAll entries empty

theorem get?_eq_some {table : Table κ α} {key : κ} {value : α} :
    table.get? key = some value ↔ (key, value) ∈ table.entries := by
  obtain ⟨entries, distinct⟩ := table
  simp only [get?]
  induction entries with
  | nil => simp
  | cons entry rest ih =>
      have ⟨fresh, distinct⟩ := List.nodup_cons.mp distinct
      by_cases same : entry.1 = key
      · constructor
        · intro found
          have value : entry.2 = value := by simpa [same] using found
          exact value ▸ same ▸ List.mem_cons_self
        · intro found
          rcases List.mem_cons.mp found with found | found
          · simp [← found]
          · exact absurd (List.mem_map.mpr ⟨_, found, same.symm⟩) fresh
      · rw [List.find?_cons_of_neg (by simpa using same), ih distinct]
        constructor
        · exact List.mem_cons_of_mem _
        · intro found
          rcases List.mem_cons.mp found with found | found
          · exact absurd (congrArg Prod.fst found).symm same
          · exact found

theorem get?_eq_none {table : Table κ α} {key : κ} :
    table.get? key = none ↔ key ∉ table.keys := by
  rw [Option.eq_none_iff_forall_ne_some]
  constructor
  · intro missing found
    obtain ⟨entry, member, same⟩ := List.mem_map.mp found
    exact missing entry.2 (get?_eq_some.mpr (same ▸ member))
  · intro missing value found
    exact missing (List.mem_map.mpr ⟨_, get?_eq_some.mp found, rfl⟩)

@[simp] theorem get?_empty (key : κ) : (empty : Table κ α).get? key = none := rfl

theorem find?_put (key other : κ) (value : α) (entries : List (κ × α)) :
    ((put key value entries).find? fun entry => entry.1 = other).map Prod.snd =
      if other = key then some value
      else (entries.find? fun entry => entry.1 = other).map Prod.snd := by
  induction entries with
  | nil => by_cases same : other = key <;> simp [put, same, eq_comm]
  | cons entry rest ih =>
      unfold put
      split <;> by_cases same : other = key <;> by_cases first : entry.1 = other <;> grind

@[simp] theorem get?_insert (table : Table κ α) (key other : κ) (value : α) :
    (table.insert key value).get? other = if other = key then some value else table.get? other :=
  find?_put key other value table.entries

theorem get?_filter (table : Table κ α) (keep : κ → α → Bool) (key : κ) :
    (table.filter keep).get? key = (table.get? key).filter (keep key) := by
  apply Option.ext
  intro value
  rw [get?_eq_some, Option.filter_eq_some_iff, get?_eq_some]
  simp [filter]

@[simp] theorem get?_erase (table : Table κ α) (key other : κ) :
    (table.erase key).get? other = if other = key then none else table.get? other := by
  rw [erase, get?_filter]
  by_cases same : other = key <;> cases table.get? other <;> simp [same, Option.filter]

@[simp] theorem get?_eraseEntry [DecidableEq α] (table : Table κ α) (key other : κ) (value : α) :
    (table.eraseEntry key value).get? other =
      if other = key ∧ table.get? key = some value then none else table.get? other := by
  rw [eraseEntry, get?_filter]
  by_cases same : other = key
  · subst same
    cases found : table.get? other with
    | none => simp
    | some held => by_cases equal : held = value <;> simp [equal, Option.filter]
  · cases table.get? other <;> simp [same, Option.filter]

@[simp] theorem get?_insertNew (table : Table κ α) (key other : κ) (value : α) :
    (table.insertNew key value).get? other =
      if other = key then some ((table.get? key).getD value) else table.get? other := by
  unfold insertNew contains
  cases found : table.get? key <;> by_cases same : other = key <;> simp [found, same]

@[simp] theorem get?_modify (table : Table κ α) (key other : κ) (change : α → α) :
    (table.modify key change).get? other =
      if other = key then (table.get? key).map change else table.get? other := by
  unfold modify
  split <;> rename_i found <;> by_cases same : other = key <;> simp [found, same]

end Table

end TunnelControl
