import Mathlib.Algebra.Order.BigOperators.Group.List
import RetailApi.Base.Keyed

/-! Tables as lists of rows in the order they were inserted, with a key column. -/

namespace Rows

open List

variable {ρ κ : Type*} [DecidableEq κ] {key : ρ → κ}

/-- `save` of a row that is there already. -/
def save (key : ρ → κ) (row : ρ) (rows : List ρ) : List ρ := rows.map fun other => if key other = key row then row else other

@[simp] theorem keys_save (row : ρ) (rows : List ρ) : (save key row rows).map key = rows.map key := by
  rw [save, map_map]
  apply map_congr_left
  intro other _
  by_cases same : key other = key row
  · simp [same]
  · simp [same]

variable {row other old : ρ} {rows : List ρ}

theorem mem_save (member : other ∈ save key row rows) : other = row ∨ other ∈ rows ∧ key other ≠ key row := by
  obtain ⟨stored, inside, rfl⟩ := mem_map.mp member
  by_cases same : key stored = key row
  · exact .inl (if_pos same)
  · rw [if_neg same]
    exact .inr ⟨inside, same⟩

theorem saved_mem (member : old ∈ rows) (same : key old = key row) : row ∈ save key row rows := by
  have made := mem_map_of_mem (f := fun other => if key other = key row then row else other) member
  rwa [if_pos same] at made

theorem kept_mem (member : other ∈ rows) (apart : key other ≠ key row) : other ∈ save key row rows := by
  have made := mem_map_of_mem (f := fun other => if key other = key row then row else other) member
  rwa [if_neg apart] at made

theorem forall_save {P : ρ → Prop} (each : ∀ other ∈ rows, P other) (saved : P row) : ∀ other ∈ save key row rows, P other := by
  intro other member
  rcases mem_save member with rfl | ⟨inside, _⟩
  · exact saved
  · exact each other inside

theorem save_last {last} (fresh : ∀ other ∈ rows, key other ≠ key row) (same : key last = key row) :
    save key row (rows ++ [last]) = rows ++ [row] := by
  have before : save key row rows = rows := by
    conv_rhs => rw [← map_id rows]
    apply map_congr_left
    intro other member
    exact if_neg (fresh other member)
  unfold save at before ⊢
  rw [map_append, before, map_singleton, if_pos same]

theorem sum_save (distinct : (rows.map key).Nodup) (member : old ∈ rows) (same : key row = key old) (amount : ρ → Int) :
    ((save key row rows).map amount).sum = (rows.map amount).sum - amount old + amount row :=
  Merge.sum_replace distinct member same amount

theorem total_save {γ : Type*} [DecidableEq γ] (distinct : (rows.map key).Nodup)
    (member : old ∈ rows) (same : key row = key old) (group : ρ → γ) (amount : ρ → Int) (wanted : γ) :
    Keyed.total group amount wanted (save key row rows) = Keyed.total group amount wanted rows -
      (if group old = wanted then amount old else 0) + if group row = wanted then amount row else 0 :=
  sum_save distinct member same _

theorem find_save (row : ρ) (rows : List ρ) (wanted : κ) :
    (save key row rows).find? (key · = wanted) =
      (rows.find? (key · = wanted)).map fun other => if key other = key row then row else other := by
  rw [save, find?_map]
  congr 2
  funext other
  by_cases same : key other = key row
  · simp [same]
  · simp [same]

omit [DecidableEq κ] in
theorem eq_of_key (distinct : (rows.map key).Nodup) {first second} (firstIn : first ∈ rows)
    (secondIn : second ∈ rows) (same : key first = key second) : first = second :=
  inj_on_of_nodup_map distinct firstIn secondIn same

theorem find_of_mem (distinct : (rows.map key).Nodup) (member : row ∈ rows) : rows.find? (key · = key row) = some row := by
  have some_ : (rows.find? (key · = key row)).isSome := by
    rw [find?_isSome]
    exact ⟨row, member, decide_eq_true rfl⟩
  obtain ⟨other, found⟩ := Option.isSome_iff_exists.mp some_
  rw [found, eq_of_key distinct (mem_of_find?_eq_some found) member (by simpa using find?_some found)]

omit [DecidableEq κ] in
theorem le_sum (amount : ρ → Int) (each : ∀ row ∈ rows, 0 ≤ amount row) (member : row ∈ rows) :
    amount row ≤ (rows.map amount).sum := by
  apply single_le_sum
  · rw [forall_mem_map]
    intro other inside
    exact each other inside
  · exact mem_map_of_mem member

omit [DecidableEq κ] in
theorem le_total {γ : Type*} [DecidableEq γ] (group : ρ → γ) {amount}
    (each : ∀ row ∈ rows, 0 ≤ amount row) (member : row ∈ rows) : amount row ≤ Keyed.total group amount (group row) rows := by
  have bound := le_sum (fun other => if group other = group row then amount other else 0) (fun other inside => ?_) member
  · rwa [if_pos rfl] at bound
  · have positive := each other inside
    split <;> omega

theorem filter_only {chosen} (distinct : rows.Nodup) (member : row ∈ rows)
    (is : chosen row = true) (only : ∀ other ∈ rows, chosen other = true → other = row) : rows.filter chosen = [row] := by
  apply perm_singleton.mp
  apply (perm_ext_iff_of_nodup (distinct.filter chosen) (nodup_singleton row)).mpr
  intro other
  rw [mem_filter, mem_singleton]
  constructor
  · rintro ⟨listed, also⟩
    exact only other listed also
  · rintro rfl
    exact ⟨member, is⟩

end Rows
