import Mathlib.Algebra.Order.Ring.Int
import Mathlib.Algebra.BigOperators.Group.List.Basic
import Mathlib.Data.List.Sort

/-! Lines collected under a key, in the order the keys first appear: what a loop
over `Map.get` and `Map.set` builds. -/

namespace Merge

open List

variable {α κ : Type*} [DecidableEq κ]

/-- Combines `line` with the collected line of its key, or appends it. -/
def insert (key : α → κ) (combine : α → α → α) (line : α) : List α → List α
  | [] => [line]
  | first :: rest =>
    if key first = key line then combine first line :: rest else first :: insert key combine line rest

variable {key : α → κ} {combine : α → α → α}

theorem mem_keys_insert (kept : ∀ first second, key (combine first second) = key first) (line : α)
    (lines : List α) (wanted : κ) :
    wanted ∈ (insert key combine line lines).map key ↔ wanted = key line ∨ wanted ∈ lines.map key := by
  induction lines with
  | nil => simp [insert]
  | cons first rest inner =>
    simp only [insert]
    split
    · next same => simp [kept, ← same]
    · rw [map_cons, mem_cons, inner, map_cons, mem_cons]
      tauto

variable {lines collected : List α} {Holds : α → Prop}

theorem nodup_keys_insert (kept : ∀ first second, key (combine first second) = key first) (line : α)
    (distinct : (lines.map key).Nodup) : ((insert key combine line lines).map key).Nodup := by
  induction lines with
  | nil => simp [insert]
  | cons first rest inner =>
    simp only [map_cons, nodup_cons] at distinct
    simp only [insert]
    split
    · simpa [kept] using distinct
    · next other =>
      rw [map_cons, nodup_cons]
      refine ⟨fun member => ?_, inner distinct.2⟩
      rcases (mem_keys_insert kept line rest (key first)).mp member with same | listed
      · exact other same
      · exact distinct.1 listed

theorem sum_insert {amount : α → Int}
    (added : ∀ first second, key first = key second → amount (combine first second) = amount first + amount second)
    (line : α) (lines : List α) :
    ((insert key combine line lines).map amount).sum = (lines.map amount).sum + amount line := by
  induction lines with
  | nil => simp [insert]
  | cons first rest inner =>
    simp only [insert]
    split
    · next same =>
      simp only [map_cons, sum_cons, added first line same]
      omega
    · simp only [map_cons, sum_cons, inner]
      omega

theorem sum_replace (distinct : (lines.map key).Nodup) {old new} (member : old ∈ lines)
    (same : key new = key old) (amount : α → Int) :
    ((lines.map fun line => if key line = key new then new else line).map amount).sum =
      (lines.map amount).sum - amount old + amount new := by
  induction lines with
  | nil => cases member
  | cons line lines inner =>
    simp only [map_cons, nodup_cons] at distinct
    simp only [map_cons, sum_cons]
    rcases mem_cons.mp member with rfl | rest
    · have others : (lines.map fun line => if key line = key new then new else line) = lines := by
        conv_rhs => rw [← map_id lines]
        apply map_congr_left
        intro line inside
        have other : key line ≠ key new := by
          intro clash
          exact distinct.1 ((clash.trans same) ▸ mem_map_of_mem inside)
        rw [if_neg other, id]
      rw [if_pos same.symm, others]
      omega
    · have other : key line ≠ key new := by
        intro clash
        exact distinct.1 ((clash.trans same) ▸ mem_map_of_mem rest)
      rw [if_neg other, inner distinct.2 rest]
      omega

theorem insert_ne_nil (line : α) (lines : List α) : insert key combine line lines ≠ [] := by
  cases lines with
  | nil => simp [insert]
  | cons first rest =>
    simp only [insert]
    split <;> simp

theorem forall_insert (kept : ∀ first second, key first = key second → Holds first → Holds second → Holds (combine first second))
    {line} (given : Holds line) (each : ∀ other ∈ lines, Holds other) :
    ∀ other ∈ insert key combine line lines, Holds other := by
  induction lines with
  | nil => simpa [insert] using given
  | cons first rest inner =>
    have front := each first (.head _)
    have others : ∀ other ∈ rest, Holds other := fun other member => each other (.tail _ member)
    simp only [insert]
    split
    · next same =>
      intro other member
      rcases mem_cons.mp member with rfl | later
      · exact kept first line same front given
      · exact others other later
    · intro other member
      rcases mem_cons.mp member with rfl | later
      · exact front
      · exact inner others other later

theorem forall_foldl_insert (kept : ∀ first second, key first = key second → Holds first → Holds second → Holds (combine first second))
    (given : ∀ line ∈ lines, Holds line) (each : ∀ line ∈ collected, Holds line) :
    ∀ line ∈ lines.foldl (fun collected line => insert key combine line collected) collected, Holds line := by
  induction lines generalizing collected with
  | nil => exact each
  | cons line lines inner =>
    exact inner (fun other member => given other (.tail _ member)) (forall_insert kept (given line (.head _)) each)

theorem nodup_keys_foldl_insert (kept : ∀ first second, key (combine first second) = key first)
    (distinct : (collected.map key).Nodup) :
    ((lines.foldl (fun collected line => insert key combine line collected) collected).map key).Nodup := by
  induction lines generalizing collected with
  | nil => exact distinct
  | cons line lines inner => exact inner (nodup_keys_insert kept line distinct)

/-- The line inserted last is there as itself, or combined with one of its key. -/
theorem mem_insert (key : α → κ) (combine : α → α → α) (line : α) (lines : List α) : line ∈ insert key combine line lines ∨
    ∃ first, key first = key line ∧ combine first line ∈ insert key combine line lines := by
  induction lines with
  | nil => exact .inl (.head _)
  | cons first rest inner =>
    simp only [insert]
    split
    · next same => exact .inr ⟨first, same, .head _⟩
    · exact inner.imp (.tail _) fun ⟨other, same, member⟩ => ⟨other, same, .tail _ member⟩

theorem foldl_insert_eq_nil :
    lines.foldl (fun collected line => insert key combine line collected) collected = [] ↔ lines = [] ∧ collected = [] := by
  induction lines generalizing collected with
  | nil => simp
  | cons line lines inner =>
    rw [foldl_cons, inner]
    simp [insert_ne_nil]

end Merge
