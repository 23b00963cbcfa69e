import RetailApi.Base.Merge

/-! What the lines of a list add up to under one key. -/

namespace Keyed

open List

variable {α κ : Type*} [DecidableEq κ] {key : α → κ} {amount : α → Int} {wanted : κ}

variable {lines : List α} {combine : α → α → α}

omit [DecidableEq κ] in
theorem nodup_append {line} (distinct : (lines.map key).Nodup)
    (fresh : ∀ other ∈ lines, key other ≠ key line) : ((lines ++ [line]).map key).Nodup := by
  rw [List.map_append, List.map_singleton, List.nodup_append]
  refine ⟨distinct, List.nodup_singleton _, fun first listed second single same => ?_⟩
  obtain ⟨other, inside, rfl⟩ := List.mem_map.mp listed
  exact fresh other inside (same.trans (List.mem_singleton.mp single))

/-- The sum of an amount over the lines with a key. -/
def total (key : α → κ) (amount : α → Int) (wanted : κ) (lines : List α) : Int :=
  (lines.map fun line => if key line = wanted then amount line else 0).sum

@[simp] theorem total_nil : total key amount wanted [] = 0 := rfl

@[simp] theorem total_cons (line : α) (lines : List α) : total key amount wanted (line :: lines) =
    (if key line = wanted then amount line else 0) + total key amount wanted lines := by
  simp [total]

@[simp] theorem total_append (first second : List α) : total key amount wanted (first ++ second) =
    total key amount wanted first + total key amount wanted second := by
  simp [total]

theorem total_map {β : Type*} (change : β → α) (lines : List β) :
    total key amount wanted (lines.map change) = total (key ∘ change) (amount ∘ change) wanted lines := by
  simp [total, Function.comp_def]

theorem total_neg (lines : List α) :
    total key (fun line => -amount line) wanted lines = -total key amount wanted lines := by
  induction lines with
  | nil => rfl
  | cons line lines inner =>
    rw [total_cons, total_cons, inner]
    split <;> omega

theorem total_nonneg (each : ∀ line ∈ lines, 0 ≤ amount line) : 0 ≤ total key amount wanted lines := by
  induction lines with
  | nil => exact le_rfl
  | cons line lines inner =>
    have first := each line (.head _)
    have rest := inner fun other member => each other (.tail _ member)
    rw [total_cons]
    split <;> omega

theorem total_of_absent (absent : ∀ line ∈ lines, key line ≠ wanted) : total key amount wanted lines = 0 := by
  induction lines with
  | nil => rfl
  | cons line lines inner =>
    rw [total_cons, if_neg (absent line (.head _)), inner fun other member => absent other (.tail _ member)]
    rfl

theorem absent_of_total_eq_zero (each : ∀ line ∈ lines, 0 < amount line)
    (zero : total key amount wanted lines = 0) : ∀ line ∈ lines, key line ≠ wanted := by
  induction lines with
  | nil => simp
  | cons line lines inner =>
    have first := each line (.head _)
    have rest : 0 ≤ total key amount wanted lines :=
      total_nonneg fun other member => (each other (.tail _ member)).le
    rw [total_cons] at zero
    have different : key line ≠ wanted := by
      intro same
      rw [if_pos same] at zero
      omega
    rw [if_neg different, zero_add] at zero
    intro other member
    rcases mem_cons.mp member with rfl | later
    · exact different
    · exact inner (fun item inside => each item (.tail _ inside)) zero other later

theorem total_filter_le (each : ∀ line ∈ lines, 0 ≤ amount line) {chosen wider}
    (implied : ∀ line ∈ lines, chosen line = true → wider line = true) :
    total key amount wanted (lines.filter chosen) ≤ total key amount wanted (lines.filter wider) := by
  induction lines with
  | nil => exact le_rfl
  | cons line lines inner =>
    have first := each line (.head _)
    have rest := inner (fun other member => each other (.tail _ member))
      fun other member => implied other (.tail _ member)
    have given := implied line (.head _)
    rw [filter_cons, filter_cons]
    by_cases taken : chosen line = true
    · rw [if_pos taken, if_pos (given taken), total_cons, total_cons]
      omega
    · rw [if_neg taken]
      split
      · rw [total_cons]
        split <;> omega
      · exact rest

theorem total_filter_congr {chosen other} (agree : ∀ line ∈ lines, key line = wanted → chosen line = other line) :
    total key amount wanted (lines.filter chosen) = total key amount wanted (lines.filter other) := by
  induction lines with
  | nil => rfl
  | cons line lines inner =>
    have rest := inner fun later member => agree later (.tail _ member)
    rw [filter_cons, filter_cons]
    by_cases own : key line = wanted
    · rw [agree line (.head _) own]
      split
      · rw [total_cons, total_cons, rest]
      · exact rest
    · split <;> split <;> simp [own, rest]

theorem total_filter_not (chosen : α → Bool) (lines : List α) : total key amount wanted lines =
    total key amount wanted (lines.filter chosen) + total key amount wanted (lines.filter fun line => !chosen line) := by
  induction lines with
  | nil => rfl
  | cons line lines inner =>
    rw [total_cons, inner]
    cases taken : chosen line with
    | true =>
      simp only [filter_cons, taken, Bool.not_true, Bool.false_eq_true, ↓reduceIte, total_cons]
      omega
    | false =>
      simp only [filter_cons, taken, Bool.not_false, Bool.false_eq_true, ↓reduceIte, total_cons]
      omega

theorem total_filter_mem {γ : Type*} [DecidableEq γ] (group : α → γ) {groups : List γ} (distinct : groups.Nodup)
    (lines : List α) : (groups.map fun wantedGroup =>
      total key amount wanted (lines.filter fun line => group line = wantedGroup)).sum =
      total key amount wanted (lines.filter fun line => group line ∈ groups) := by
  induction groups with
  | nil => simp
  | cons first rest inner =>
    obtain ⟨outside, distinct⟩ := nodup_cons.mp distinct
    rw [map_cons, sum_cons, inner distinct, total_filter_not (fun line => decide (group line = first))
      (lines.filter fun line => group line ∈ first :: rest), filter_filter, filter_filter]
    congr 2
    · apply filter_congr
      intro line _
      by_cases own : group line = first <;> simp [own]
    · apply filter_congr
      intro line _
      by_cases own : group line = first
      · simp [own, outside]
      · simp [own]

theorem total_of_nodup (distinct : (lines.map key).Nodup) {line} (member : line ∈ lines) :
    total key amount (key line) lines = amount line := by
  induction lines with
  | nil => cases member
  | cons first rest inner =>
    simp only [map_cons, nodup_cons] at distinct
    rcases mem_cons.mp member with rfl | later
    · have absent : ∀ other ∈ rest, key other ≠ key line :=
        fun other inside same => distinct.1 (same ▸ mem_map_of_mem inside)
      rw [total_cons, if_pos rfl, total_of_absent absent, add_zero]
    · have different : key first ≠ key line := fun same => distinct.1 (same ▸ mem_map_of_mem later)
      rw [total_cons, if_neg different, inner distinct.2 later, zero_add]

theorem sum_total {groups : List κ} (distinct : groups.Nodup) (known : ∀ line ∈ lines, key line ∈ groups) :
    (groups.map fun group => total key amount group lines).sum = (lines.map amount).sum := by
  induction lines with
  | nil => simp
  | cons line lines inner =>
    have own : (groups.map fun group => if key line = group then amount line else 0).sum = amount line := by
      have single : total id (fun _ => amount line) (key line) groups = amount line :=
        total_of_nodup (by simpa using distinct) (known line (.head _))
      simpa only [total, id, eq_comm] using single
    simp only [total_cons, sum_map_add, own, map_cons, sum_cons]
    rw [inner fun other member => known other (.tail _ member)]

theorem total_perm {first second} (perm : first.Perm second) :
    total key amount wanted first = total key amount wanted second :=
  (perm.map _).sum_eq

theorem total_insert {γ : Type*} [DecidableEq γ] {group : α → γ} (kept : ∀ first second, key (combine first second) = key first)
    (added : ∀ first second, group first = group second → amount (combine first second) = amount first + amount second)
    (agree : ∀ first second, group first = group second → key first = key second) (line : α) (lines : List α) :
    total key amount wanted (Merge.insert group combine line lines) =
      total key amount wanted lines + if key line = wanted then amount line else 0 := by
  refine Merge.sum_insert ?_ line lines
  intro first second same
  rw [kept, added first second same, agree first second same]
  split <;> omega

theorem total_foldl_insert {γ : Type*} [DecidableEq γ] {group : α → γ}
    (kept : ∀ first second, key (combine first second) = key first)
    (added : ∀ first second, group first = group second → amount (combine first second) = amount first + amount second)
    (agree : ∀ first second, group first = group second → key first = key second) (lines collected : List α) :
    total key amount wanted (lines.foldl (fun collected line => Merge.insert group combine line collected) collected) =
      total key amount wanted collected + total key amount wanted lines := by
  induction lines generalizing collected with
  | nil => simp
  | cons line lines inner =>
    rw [foldl_cons, inner, total_insert kept added agree, total_cons]
    omega

end Keyed
