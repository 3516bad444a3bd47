import Mathlib.Data.List.AList

/-!
# Relational tables with a primary key

A table is an association list whose keys are distinct, so that a row cannot be
built under a key that is already taken.  The operations are the shapes a
single-row SQL statement can have once its `WHERE` clause fixes the primary key:
insert unless present, insert or change, change, delete.  Every operation comes
with a lookup lemma, and all later reasoning goes through those.
-/

universe u v

/-- A table of rows `ρ` under distinct keys `κ`. -/
abbrev KeyTable (κ : Type u) (ρ : Type v) :=
  AList fun _ : κ => ρ

namespace KeyTable

variable {κ : Type u} {ρ : Type v}

/-- The rows of a table together with their keys. -/
def rows (table : KeyTable κ ρ) : List (κ × ρ) :=
  table.entries.map fun entry => (entry.1, entry.2)

@[simp]
theorem rows_empty : rows (∅ : KeyTable κ ρ) = [] :=
  rfl

theorem map_fst_rows (table : KeyTable κ ρ) : table.rows.map Prod.fst = table.keys := by
  simp [rows, AList.keys, List.keys, Function.comp_def]

theorem nodup_map_fst_rows (table : KeyTable κ ρ) : (table.rows.map Prod.fst).Nodup := by
  rw [map_fst_rows]
  exact table.keys_nodup

section Lookup

variable [DecidableEq κ]

/-- Lookup after insertion, with both cases in one equation. -/
theorem lookup_insert_eq_ite (key other : κ) (row : ρ) (table : KeyTable κ ρ) :
    (table.insert key row).lookup other = if other = key then some row else table.lookup other := by
  by_cases same : other = key
  · subst same
    simp
  · rw [if_neg same, AList.lookup_insert_ne same]

theorem lookup_erase_eq_ite (key other : κ) (table : KeyTable κ ρ) :
    (table.erase key).lookup other = if other = key then none else table.lookup other := by
  by_cases same : other = key
  · subst same
    simp
  · rw [if_neg same, AList.lookup_erase_ne same]

theorem mem_iff_exists_lookup {key : κ} {table : KeyTable κ ρ} :
    key ∈ table ↔ ∃ row, table.lookup key = some row := by
  rw [← AList.lookup_isSome, Option.isSome_iff_exists]

theorem lookup_eq_some_iff_mem_rows {key : κ} {row : ρ} {table : KeyTable κ ρ} :
    table.lookup key = some row ↔ (key, row) ∈ table.rows := by
  rw [← Option.mem_def, AList.mem_lookup_iff]
  constructor
  · intro member
    exact List.mem_map.mpr ⟨⟨key, row⟩, member, rfl⟩
  · intro member
    rcases List.mem_map.mp member with ⟨⟨entryKey, entryRow⟩, entryMem, entry_eq⟩
    rcases Prod.mk.inj entry_eq with ⟨rfl, rfl⟩
    exact entryMem

/-- Some row of the table satisfies a test on its key and columns. -/
def any (test : κ → ρ → Bool) (table : KeyTable κ ρ) : Bool :=
  table.rows.any fun row => test row.1 row.2

theorem any_eq_true_iff {test : κ → ρ → Bool} {table : KeyTable κ ρ} :
    table.any test = true ↔ ∃ key row, table.lookup key = some row ∧ test key row = true := by
  simp only [any, List.any_eq_true, Prod.exists, lookup_eq_some_iff_mem_rows]

end Lookup

/-! ## Single-row statements -/

section Statements

variable [DecidableEq κ]

/-- `INSERT OR IGNORE`: a taken key leaves the table as it is. -/
def insertOrIgnore (key : κ) (row : ρ) (table : KeyTable κ ρ) : KeyTable κ ρ :=
  if key ∈ table then table else table.insert key row

/-- `UPDATE ... WHERE key = ?`: no effect when the key is absent. -/
def update (key : κ) (change : ρ → ρ) (table : KeyTable κ ρ) : KeyTable κ ρ :=
  match table.lookup key with
  | some row => table.insert key (change row)
  | none => table

/-- `INSERT ... ON CONFLICT(key) DO UPDATE`: insert `fresh`, or change the row
that holds the key. -/
def upsert (key : κ) (fresh : ρ) (change : ρ → ρ) (table : KeyTable κ ρ) : KeyTable κ ρ :=
  match table.lookup key with
  | some row => table.insert key (change row)
  | none => table.insert key fresh

/-- Upsert of a whole row: what the key held before does not matter. -/
def write (key : κ) (row : ρ) (table : KeyTable κ ρ) : KeyTable κ ρ :=
  table.upsert key row fun _ => row

@[simp]
theorem lookup_insertOrIgnore (key other : κ) (row : ρ) (table : KeyTable κ ρ) :
    (table.insertOrIgnore key row).lookup other =
      if other = key then some ((table.lookup key).getD row) else table.lookup other := by
  unfold insertOrIgnore
  by_cases present : key ∈ table
  · rcases mem_iff_exists_lookup.mp present with ⟨old, lookupOld⟩
    rw [if_pos present, lookupOld]
    by_cases same : other = key
    · subst same
      simp [lookupOld]
    · simp [same]
  · rw [if_neg present, lookup_insert_eq_ite, AList.lookup_eq_none.mpr present]
    rfl

@[simp]
theorem lookup_update (key other : κ) (change : ρ → ρ) (table : KeyTable κ ρ) :
    (table.update key change).lookup other =
      if other = key then (table.lookup key).map change else table.lookup other := by
  unfold update
  cases found : table.lookup key with
  | some row => simp [lookup_insert_eq_ite]
  | none =>
      by_cases same : other = key
      · subst same
        simp [found]
      · simp [same]

@[simp]
theorem lookup_upsert (key other : κ) (fresh : ρ) (change : ρ → ρ) (table : KeyTable κ ρ) :
    (table.upsert key fresh change).lookup other =
      if other = key then some ((table.lookup key).elim fresh change)
      else table.lookup other := by
  unfold upsert
  cases found : table.lookup key with
  | some row => simp [lookup_insert_eq_ite]
  | none => simp [lookup_insert_eq_ite]

@[simp]
theorem lookup_write (key other : κ) (row : ρ) (table : KeyTable κ ρ) :
    (table.write key row).lookup other = if other = key then some row else table.lookup other := by
  rw [write, lookup_upsert]
  cases table.lookup key <;> rfl

/-- `UPDATE` changes no key. -/
theorem mem_update {key other : κ} {change : ρ → ρ} {table : KeyTable κ ρ} :
    other ∈ table.update key change ↔ other ∈ table := by
  rw [mem_iff_exists_lookup, mem_iff_exists_lookup, lookup_update]
  by_cases same : other = key
  · subst same
    simp
  · simp [same]

theorem mem_upsert {key other : κ} {fresh : ρ} {change : ρ → ρ} {table : KeyTable κ ρ} :
    other ∈ table.upsert key fresh change ↔ other = key ∨ other ∈ table := by
  rw [mem_iff_exists_lookup, lookup_upsert]
  by_cases same : other = key
  · simp [same]
  · rw [if_neg same, ← mem_iff_exists_lookup]
    simp [same]

theorem mem_write {key other : κ} {row : ρ} {table : KeyTable κ ρ} :
    other ∈ table.write key row ↔ other = key ∨ other ∈ table :=
  mem_upsert

theorem mem_insertOrIgnore {key other : κ} {row : ρ} {table : KeyTable κ ρ} :
    other ∈ table.insertOrIgnore key row ↔ other = key ∨ other ∈ table := by
  rw [mem_iff_exists_lookup, lookup_insertOrIgnore]
  by_cases same : other = key
  · simp [same]
  · rw [if_neg same, ← mem_iff_exists_lookup]
    simp [same]

end Statements

end KeyTable
