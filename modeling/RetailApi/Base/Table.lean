import Mathlib.Algebra.Order.Ring.Int
import Mathlib.Data.List.AList
import Mathlib.Algebra.BigOperators.Group.List.Basic
import Mathlib.Algebra.Order.BigOperators.Group.List

/-! Keyed tables: at most one row a key, and sums over all rows. -/

/-- A table with one row a key. -/
abbrev Table (κ ρ : Type*) := AList (fun _ : κ => ρ)

namespace Table

open List AList

variable {κ ρ : Type*} [DecidableEq κ]

/-- The sum of an amount over all rows. -/
def sumBy (amount : κ → ρ → Int) (table : Table κ ρ) : Int :=
  (table.entries.map fun entry => amount entry.1 entry.2).sum

/-- The rows of a table, without their keys. -/
def rows (table : Table κ ρ) : List ρ :=
  table.entries.map (·.2)

/-- The entry that a row becomes. -/
def changed (change : κ → ρ → ρ) (entry : Sigma fun _ : κ => ρ) : Sigma fun _ : κ => ρ := ⟨entry.1, change entry.1 entry.2⟩

omit [DecidableEq κ] in
theorem keys_map_changed (change : κ → ρ → ρ) (entries : List (Sigma fun _ : κ => ρ)) :
    (entries.map (changed change)).keys = entries.keys := by
  induction entries with
  | nil => rfl
  | cons entry entries inner => simp only [map_cons, keys_cons, inner, changed]

/-- `UPDATE` of every row; `change` leaves a row outside the condition as it is. -/
def mapRows (change : κ → ρ → ρ) (table : Table κ ρ) : Table κ ρ where
  entries := table.entries.map (changed change)
  nodupKeys := by
    rw [NodupKeys, keys_map_changed]
    exact table.nodupKeys

theorem lookup_mapRows (change : κ → ρ → ρ) (table : Table κ ρ) (key : κ) :
    (table.mapRows change).lookup key = (table.lookup key).map (change key) := by
  cases found : table.lookup key with
  | none =>
    rw [lookup_eq_none] at found
    rw [Option.map_none, lookup_eq_none]
    change key ∉ (table.entries.map (changed change)).keys
    rw [keys_map_changed]
    exact found
  | some row =>
    rw [Option.map_some]
    exact mem_lookup_iff.mpr (mem_map_of_mem (mem_lookup_iff.mp found))

/-- `DELETE` of the rows that meet a condition. -/
def deleteWhere (condition : κ → ρ → Bool) (table : Table κ ρ) : Table κ ρ where
  entries := table.entries.filter fun entry => !condition entry.1 entry.2
  nodupKeys := NodupKeys.sublist filter_sublist table.nodupKeys

theorem lookup_deleteWhere (condition : κ → ρ → Bool) (table : Table κ ρ) (key : κ) :
    (table.deleteWhere condition).lookup key = (table.lookup key).filter fun row => !condition key row := by
  apply Option.ext
  intro row
  have left : (table.deleteWhere condition).lookup key = some row ↔ _ := mem_lookup_iff
  have right : table.lookup key = some row ↔ _ := mem_lookup_iff
  rw [left, Option.filter_eq_some_iff, right]
  exact mem_filter

@[simp] theorem lookup_insert_self (table : Table κ ρ) (key : κ) (row : ρ) :
    (table.insert key row).lookup key = some row :=
  lookup_insert table

theorem lookup_insert_if (table : Table κ ρ) (key other : κ) (row : ρ) :
    (table.insert key row).lookup other = if other = key then some row else table.lookup other := by
  split
  · next same => rw [same, lookup_insert_self]
  · next different => exact lookup_insert_ne different

variable {table : Table κ ρ} {key other : κ} {row found : ρ}

theorem of_lookup_insert (after : (table.insert key row).lookup other = some found) :
    other = key ∧ found = row ∨ other ≠ key ∧ table.lookup other = some found := by
  rw [lookup_insert_if] at after
  by_cases same : other = key
  · rw [if_pos same] at after
    exact .inl ⟨same, (Option.some.inj after).symm⟩
  · rw [if_neg same] at after
    exact .inr ⟨same, after⟩

theorem forall_insert {Holds : κ → ρ → Prop} (own : Holds key row)
    (kept : ∀ other found, table.lookup other = some found → Holds other found) :
    ∀ other found, (table.insert key row).lookup other = some found → Holds other found := by
  intro other found after
  rcases of_lookup_insert after with ⟨rfl, rfl⟩ | ⟨-, before⟩
  · exact own
  · exact kept other found before

theorem of_lookup_erase
    (after : (table.erase key).lookup other = some found) : other ≠ key ∧ table.lookup other = some found := by
  by_cases same : other = key
  · rw [same, lookup_erase] at after
    cases after
  · exact ⟨same, (lookup_erase_ne same).symm.trans after⟩

theorem sumBy_insert_fresh (fresh : table.lookup key = none) (amount : κ → ρ → Int) (row : ρ) :
    sumBy amount (table.insert key row) = sumBy amount table + amount key row := by
  have absent : key ∉ table := lookup_eq_none.mp fresh
  simp only [sumBy, entries_insert_of_notMem absent, map_cons, sum_cons]
  omega

theorem sumBy_insert_existing {old} (found : table.lookup key = some old) (amount : κ → ρ → Int) (row : ρ) :
    sumBy amount (table.insert key row) = sumBy amount table - amount key old + amount key row := by
  have listed : (⟨key, old⟩ : Sigma fun _ : κ => ρ) ∈ table.entries := mem_lookup_iff.mp found
  obtain ⟨stored, left, right, outside, split, erased⟩ :=
    exists_of_kerase (mem_keys_of_mem listed)
  have same : stored = old := by
    have looked : table.lookup key = some stored :=
      mem_lookup_iff.mpr (by rw [split]; simp)
    simpa [found] using looked.symm
  subst same
  simp only [sumBy, entries_insert, erased, map_cons, sum_cons, map_append, sum_append]
  rw [split]
  simp only [map_cons, sum_cons, map_append, sum_append]
  omega

theorem le_sumBy (amount : κ → ρ → Int) (found : table.lookup key = some row)
    (nonnegative : ∀ key row, table.lookup key = some row → 0 ≤ amount key row) : amount key row ≤ sumBy amount table := by
  apply single_le_sum
  · rw [forall_mem_map]
    intro entry listed
    exact nonnegative entry.1 entry.2 (mem_lookup_iff.mpr listed)
  · have listed : (⟨key, row⟩ : Sigma fun _ : κ => ρ) ∈ table.entries := mem_lookup_iff.mp found
    exact mem_map_of_mem (f := fun entry : Sigma fun _ : κ => ρ => amount entry.1 entry.2) listed

end Table

/-! New identifiers. A random draw never hits one that is taken. -/

namespace Fresh

/-- The identifier drawn, or one past all that are taken. -/
def pick (taken : List Nat) (drawn : Nat) : Nat := if drawn ∈ taken then taken.foldr max 0 + 1 else drawn

theorem le_foldr_max {taken : List Nat} {id} (member : id ∈ taken) : id ≤ taken.foldr max 0 := by
  induction taken with
  | nil => cases member
  | cons first taken inner =>
    rw [List.foldr_cons]
    cases member with
    | head => exact Nat.le_max_left _ _
    | tail _ later => exact Nat.le_trans (inner later) (Nat.le_max_right _ _)

theorem pick_not_mem (taken : List Nat) (drawn : Nat) : pick taken drawn ∉ taken := by
  unfold pick
  split
  · intro member
    have bound := le_foldr_max member
    omega
  · next free => exact free

theorem ne_pick {ρ : Type*} (id : ρ → Nat) {rows : List ρ} (drawn : Nat) {other} (member : other ∈ rows) :
    id other ≠ pick (rows.map id) drawn := by
  intro same
  apply pick_not_mem (rows.map id) drawn
  rw [← same]
  exact List.mem_map_of_mem member

end Fresh
