import Mathlib.Algebra.Order.Ring.Int
import Mathlib.Algebra.BigOperators.Group.List.Basic

/-! Running totals: entries that each record the total after themselves. -/

namespace Chain

variable {α : Type*} {delta after : α → Int}

/-- From `start`, each entry's total is the previous one plus its delta, and the last total is `finish`. -/
def Linked (delta after : α → Int) : Int → List α → Int → Prop
  | start, [], finish => start = finish
  | start, entry :: entries, finish => after entry = start + delta entry ∧ Linked delta after (after entry) entries finish

instance decidableLinked (delta after : α → Int) :
    ∀ start entries finish, Decidable (Linked delta after start entries finish)
  | start, [], finish => inferInstanceAs (Decidable (start = finish))
  | _, entry :: entries, finish =>
    have := decidableLinked delta after (after entry) entries finish
    inferInstanceAs (Decidable (_ ∧ _))

theorem Linked.append {start middle finish first second} (left : Linked delta after start first middle)
    (right : Linked delta after middle second finish) : Linked delta after start (first ++ second) finish := by
  induction first generalizing start with
  | nil =>
    have same : start = middle := left
    exact same ▸ right
  | cons entry entries inner => exact ⟨left.1, inner left.2⟩

theorem Linked.total {start finish entries} (linked : Linked delta after start entries finish) :
    finish = start + (entries.map delta).sum := by
  induction entries generalizing start with
  | nil =>
    have same : start = finish := linked
    simp [same]
  | cons entry entries inner =>
    have rest := inner linked.2
    rw [linked.1] at rest
    rw [List.map_cons, List.sum_cons]
    omega

end Chain
