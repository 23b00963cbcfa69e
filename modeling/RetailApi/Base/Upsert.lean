import RetailApi.Base.Table

/-! `INSERT … ON CONFLICT DO UPDATE` on a table, and what it does to sums over the rows. -/

namespace Table

open Option

variable {κ ρ : Type*} [DecidableEq κ]

/-- The row under a key is changed; a missing one is first inserted as `start`. -/
def upsert (table : Table κ ρ) (key : κ) (start : ρ) (change : ρ → ρ) : Table κ ρ :=
  table.insert key (change ((table.lookup key).getD start))

theorem lookup_upsert (table : Table κ ρ) (key other : κ) (start : ρ) (change : ρ → ρ) :
    (upsert table key start change).lookup other =
      if other = key then some (change ((table.lookup key).getD start)) else table.lookup other :=
  lookup_insert_if ..

/-- What the row under a key amounts to, a missing one to nothing. -/
def amountAt (amount : κ → ρ → Int) (table : Table κ ρ) (key : κ) : Int :=
  (table.lookup key).elim 0 (amount key)

theorem sumBy_insert (amount : κ → ρ → Int) (table : Table κ ρ) (key : κ) (row : ρ) :
    sumBy amount (table.insert key row) = sumBy amount table - amountAt amount table key + amount key row := by
  rw [amountAt]
  cases found : table.lookup key with
  | none =>
    rw [sumBy_insert_fresh found, elim_none]
    omega
  | some old => rw [sumBy_insert_existing found, elim_some]

variable {amount other : κ → ρ → Int} {table : Table κ ρ}

theorem sumBy_upsert {key} {start} {change} {difference}
    (empty : amount key start = 0) (changed : ∀ row, amount key (change row) = amount key row + difference)
    (table : Table κ ρ) : sumBy amount (upsert table key start change) = sumBy amount table + difference := by
  rw [upsert, sumBy_insert, amountAt, changed]
  cases table.lookup key with
  | none =>
    rw [elim_none, getD_none, empty]
    omega
  | some old =>
    rw [elim_some, getD_some]
    omega

omit [DecidableEq κ] in
theorem sumBy_congr (same : ∀ entry ∈ table.entries, amount entry.1 entry.2 = other entry.1 entry.2) :
    sumBy amount table = sumBy other table := by
  rw [sumBy, sumBy]
  exact congrArg List.sum (List.map_congr_left same)

omit [DecidableEq κ] in
theorem sumBy_add (amount other : κ → ρ → Int) (table : Table κ ρ) :
    sumBy (fun key row => amount key row + other key row) table = sumBy amount table + sumBy other table :=
  List.sum_map_add

omit [DecidableEq κ] in
theorem sumBy_sub (amount other : κ → ρ → Int) (table : Table κ ρ) :
    sumBy (fun key row => amount key row - other key row) table = sumBy amount table - sumBy other table := by
  have parts := sumBy_add (fun key row => amount key row - other key row) other table
  simp only [sub_add_cancel] at parts
  exact eq_sub_of_add_eq parts.symm

omit [DecidableEq κ] in
theorem sumBy_eq_zero (none : ∀ entry ∈ table.entries, amount entry.1 entry.2 = 0) : sumBy amount table = 0 := by
  rw [sumBy]
  refine List.sum_eq_zero (List.forall_mem_map.mpr fun entry listed => ?_)
  exact none entry listed

theorem sumBy_single (amount : κ → ρ → Int) (table : Table κ ρ) (key : κ) :
    sumBy (fun other row => if other = key then amount other row else 0) table = amountAt amount table key := by
  induction table using AList.insertRec with
  | H0 => rfl
  | IH other row table absent inner =>
    have fresh : table.lookup other = none := AList.lookup_eq_none.mpr absent
    rw [sumBy_insert_fresh fresh, inner, amountAt, amountAt, lookup_insert_if]
    by_cases same : other = key
    · rw [if_pos same, if_pos same.symm, ← same, fresh, elim_none, elim_some, zero_add]
    · rw [if_neg same, if_neg (Ne.symm same), add_zero]

theorem sumBy_except {key} (same : ∀ different row, different ≠ key →
    amount different row = other different row) (table : Table κ ρ) :
    sumBy amount table - amountAt amount table key = sumBy other table - amountAt other table key := by
  rw [← sumBy_single, ← sumBy_single, ← sumBy_sub, ← sumBy_sub]
  refine sumBy_congr fun entry _ => ?_
  by_cases here : entry.1 = key
  · rw [if_pos here, if_pos here, sub_self, sub_self]
  · rw [if_neg here, if_neg here, same entry.1 entry.2 here]

end Table
