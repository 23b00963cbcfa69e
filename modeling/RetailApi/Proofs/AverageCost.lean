import Mathlib.Algebra.Order.Group.Abs
import RetailApi.Inventory.Domain

/-! The moving average over receipts and deductions: it stays within the costs that were paid, and each rounding within half. -/

namespace Inventory

open Transaction List

inductive Movement where
  | receipt (received : Int) (cost : Nat)
  | deduction (deducted : Int)
deriving DecidableEq

def emptyStock : WeightedAverageCostResult := ⟨0, 0, 0⟩

def Movement.apply (stock : WeightedAverageCostResult) : Movement → Except Failure WeightedAverageCostResult
  | .receipt received cost => computeWeightedAverageCostOnReceipt stock.newOnHandMilli stock.newAvgCostVnd received cost
  | .deduction deducted => computeValuationAfterDeduction stock.newOnHandMilli stock.newAvgCostVnd deducted

open Movement

def applyMovements (movements : List Movement) : Except Failure WeightedAverageCostResult :=
  movements.foldlM apply emptyStock

def Movement.quantity : Movement → Int
  | .receipt received _ => received
  | .deduction deducted => -deducted

def Movement.cost : Movement → Option Int
  | .receipt _ cost => some cost
  | .deduction _ => none

/-- The costs of the receipts. -/
def receiptCosts (movements : List Movement) : List Int := movements.filterMap cost

structure AverageKept (movements : List Movement) (stock : WeightedAverageCostResult) : Prop where
  onHand : stock.newOnHandMilli = (movements.map quantity).sum
  nonneg : 0 ≤ stock.newOnHandMilli
  lowest : movements ≠ [] → ∃ cost ∈ receiptCosts movements, cost ≤ stock.newAvgCostVnd
  highest : movements ≠ [] → ∃ cost ∈ receiptCosts movements, stock.newAvgCostVnd ≤ cost
  valuation : |1000 * stock.newValuationVnd - stock.newAvgCostVnd * stock.newOnHandMilli| ≤ 500
  empty : stock.newOnHandMilli = 0 → stock.newValuationVnd = 0

section Rounding

variable {weighted total bound : Int}

theorem halfUp_within (positive : 0 < total) : 2 * |(weighted + total / 2) / total * total - weighted| ≤ total := by
  have split := Int.emod_add_mul_ediv (weighted + total / 2) total
  have low := Int.emod_nonneg (weighted + total / 2) positive.ne'
  have high := Int.emod_lt_of_pos (weighted + total / 2) positive
  rw [Int.mul_comm] at split
  have within : |(weighted + total / 2) / total * total - weighted| ≤ total / 2 := by
    apply abs_le.mpr
    constructor <;> omega
  omega

theorem le_halfUp (positive : 0 < total) (below : bound * total ≤ weighted) : bound ≤ (weighted + total / 2) / total := by
  apply Int.le_ediv_of_mul_le positive
  omega

theorem halfUp_le (positive : 0 < total) (above : weighted ≤ bound * total) : (weighted + total / 2) / total ≤ bound := by
  apply Int.le_of_lt_add_one
  apply Int.ediv_lt_of_lt_mul positive
  rw [Int.add_mul, Int.one_mul]
  omega

theorem valueOf_within (onHand average : Int) : |1000 * valueOf onHand average - average * onHand| ≤ 500 := by
  rw [valueOf, Int.mul_comm average]
  apply abs_le.mpr
  constructor <;> omega

end Rounding

variable {stock after : WeightedAverageCostResult} {received : Int} {cost : Nat} {movements : List Movement} {movement : Movement}

theorem receipt_average (stepped : (receipt received cost).apply stock = .ok after) : after.newAvgCostVnd =
      (stock.newOnHandMilli * stock.newAvgCostVnd + received * cost + after.newOnHandMilli / 2) / after.newOnHandMilli := by
  simp only [apply, computeWeightedAverageCostOnReceipt, eq_ok] at stepped
  obtain ⟨added, checked, average, averaged, value, valued, rfl⟩ := stepped
  obtain ⟨rfl, -⟩ := checkQty_ok checked
  exact vndToNumber_ok averaged

theorem AverageKept.receipt (kept : AverageKept movements stock)
    (stepped : (receipt received cost).apply stock = .ok after) :
    AverageKept (movements ++ [.receipt received cost]) after := by
  obtain ⟨positive, total, value⟩ := computeWeightedAverageCostOnReceipt_ok stepped
  have average := receipt_average stepped
  have held := kept.nonneg
  have filled : 0 < after.newOnHandMilli := by omega
  have costs : receiptCosts (movements ++ [.receipt received cost]) = receiptCosts movements ++ [(cost : Int)] :=
    filterMap_append
  have scaled : ∀ {left right : Int}, (movements ≠ [] → left ≤ right) → stock.newOnHandMilli * left ≤ stock.newOnHandMilli * right := by
    intro left right old
    by_cases none : movements = []
    · have nothing : stock.newOnHandMilli = 0 := by rw [kept.onHand, none, map_nil, sum_nil]
      rw [nothing, Int.zero_mul, Int.zero_mul]
    · exact Int.mul_le_mul_of_nonneg_left (old none) held
  -- a bound for the old average and the new cost is one for the new average
  have lower : ∀ bound, (movements ≠ [] → bound ≤ stock.newAvgCostVnd) → bound ≤ (cost : Int) → bound ≤ after.newAvgCostVnd := by
    intro bound old new
    rw [average]
    apply le_halfUp filled
    have paid := Int.mul_le_mul_of_nonneg_left new positive.le
    have before := scaled old
    rw [total, Int.mul_add, Int.mul_comm bound, Int.mul_comm bound]
    omega
  have upper : ∀ bound, (movements ≠ [] → stock.newAvgCostVnd ≤ bound) → (cost : Int) ≤ bound → after.newAvgCostVnd ≤ bound := by
    intro bound old new
    rw [average]
    apply halfUp_le filled
    have paid := Int.mul_le_mul_of_nonneg_left new positive.le
    have before := scaled old
    rw [total, Int.mul_add, Int.mul_comm bound, Int.mul_comm bound]
    omega
  refine ⟨?_, filled.le, fun _ => ?_, fun _ => ?_, value ▸ valueOf_within _ _, fun none => absurd none filled.ne'⟩
  · rw [total, kept.onHand, map_append, sum_append, map_singleton, sum_singleton]
    rfl
  · by_cases none : movements = []
    · exact ⟨cost, by simp [costs], lower cost (absurd none) le_rfl⟩
    · obtain ⟨lowest, listed, below⟩ := kept.lowest none
      rcases Int.le_total lowest cost with first | second
      · exact ⟨lowest, by simp [costs, listed], lower lowest (fun _ => below) first⟩
      · exact ⟨cost, by simp [costs], lower cost (fun _ => second.trans below) le_rfl⟩
  · by_cases none : movements = []
    · exact ⟨cost, by simp [costs], upper cost (absurd none) le_rfl⟩
    · obtain ⟨highest, listed, above⟩ := kept.highest none
      rcases Int.le_total cost highest with first | second
      · exact ⟨highest, by simp [costs, listed], upper highest (fun _ => above) first⟩
      · exact ⟨cost, by simp [costs], upper cost (fun _ => above.trans second) le_rfl⟩

theorem AverageKept.deduction (kept : AverageKept movements stock) {deducted}
    (stepped : (deduction deducted).apply stock = .ok after) : AverageKept (movements ++ [.deduction deducted]) after := by
  obtain ⟨positive, enough, total, average, value⟩ := computeValuationAfterDeduction_ok stepped
  have some : movements ≠ [] := by
    rintro rfl
    have nothing := kept.onHand
    rw [map_nil, sum_nil] at nothing
    omega
  have costs : receiptCosts (movements ++ [.deduction deducted]) = receiptCosts movements := by
    rw [receiptCosts, filterMap_append]
    exact append_nil _
  refine ⟨?_, by omega, fun _ => ?_, fun _ => ?_, ?_, fun none => ?_⟩
  · rw [total, kept.onHand, map_append, sum_append, map_singleton, sum_singleton]
    rfl
  · rw [costs, average]
    exact kept.lowest some
  · rw [costs, average]
    exact kept.highest some
  · rw [value, average]
    exact valueOf_within _ _
  · rw [value, none, valueOf_zero]

theorem averageKept (ran : applyMovements movements = .ok stock) : AverageKept movements stock := by
  refine foldlM_links AverageKept ?_ ?_ ran
  · exact ⟨rfl, le_rfl, absurd rfl, absurd rfl, by decide, fun _ => rfl⟩
  · intro finished movement rest before after _ kept stepped
    cases movement with
    | receipt received cost => exact kept.receipt stepped
    | deduction deducted => exact kept.deduction stepped

/-- Every step of every sequence that goes through, each prefix being such a sequence. -/
theorem average_stays_within_paid {stock : WeightedAverageCostResult} (movements : List Movement)
    (executed : applyMovements movements = .ok stock) : AverageKept movements stock ∧
      ∀ received cost after, (receipt received cost).apply stock = .ok after →
        2 * |after.newAvgCostVnd * after.newOnHandMilli - (stock.newAvgCostVnd * stock.newOnHandMilli + cost * received)| ≤
          after.newOnHandMilli := by
  refine ⟨averageKept executed, fun received cost after stepped => ?_⟩
  obtain ⟨positive, total, -⟩ := computeWeightedAverageCostOnReceipt_ok stepped
  have held := (averageKept executed).nonneg
  rw [receipt_average stepped, Int.mul_comm stock.newAvgCostVnd, Int.mul_comm (cost : Int)]
  exact halfUp_within (by omega)

/-- The shelf runs empty, and is filled again at another cost. -/
theorem refilled_average_stays_within_paid :
    AverageKept [.receipt 1000 100, .receipt 2000 101, .deduction 3000, .receipt 500 7] ⟨500, 7, 4⟩ ∧
      ∀ received cost after, (receipt received cost).apply ⟨500, 7, 4⟩ = .ok after →
        2 * |after.newAvgCostVnd * after.newOnHandMilli - (7 * 500 + cost * received)| ≤ after.newOnHandMilli :=
  average_stays_within_paid _ rfl

end Inventory
