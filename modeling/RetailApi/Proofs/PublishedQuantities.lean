import RetailApi.Integration.InventorySync

/-! What a connection is offered of a stock whose quantities have fractions: the quantity on hand and the
reserved one are rounded each on its own, and the difference may gain a unit. -/

namespace Integration

open Int

/-- What `assertValidAllocationPolicy` accepts. -/
structure AllocationPolicy where
  safetyStockBuffer : Nat
  stockAllocationPercent : ℚ
  nonneg : 0 ≤ stockAllocationPercent
  most : stockAllocationPercent ≤ 100

variable {onHandQty reservedQty : ℚ} {policy : AllocationPolicy} {policies : List AllocationPolicy} {available : Int}

/-- The part of whole units a connection is offered. -/
def AllocationPolicy.share (policy : AllocationPolicy) (available : Int) : Int :=
  ⌊(max 0 (available - policy.safetyStockBuffer) : Int) * policy.stockAllocationPercent / 100⌋

def AllocationPolicy.published (policy : AllocationPolicy) (onHandQty reservedQty : ℚ) : Int :=
  calculateChannelPublishableQuantity onHandQty reservedQty policy.safetyStockBuffer policy.stockAllocationPercent

/-- No connection is offered more than its share of what can be sold, nor are several together. -/
structure NeverOversold (onHandQty reservedQty : ℚ) (policies : List AllocationPolicy) : Prop where
  shared : ∀ policy ∈ policies, policy.published onHandQty reservedQty = policy.share ⌊onHandQty - reservedQty⌋
  within : ∀ policy ∈ policies, 0 ≤ onHandQty - reservedQty →
    policy.published onHandQty reservedQty ≤ onHandQty - reservedQty
  together : (policies.map (·.stockAllocationPercent)).sum ≤ 100 → 0 ≤ onHandQty - reservedQty →
    ((policies.map (·.published onHandQty reservedQty)).sum : Int) ≤ onHandQty - reservedQty

/-- The unit gained by rounding apart is none, stays in the buffer, or completes no unit of the share. -/
def AllocationPolicy.KeepsUnit (policy : AllocationPolicy) (onHandQty reservedQty : ℚ) : Prop :=
  let left := ⌊onHandQty⌋ - ⌊reservedQty⌋ - policy.safetyStockBuffer
  fract reservedQty ≤ fract onHandQty ∨ left ≤ 0 ∨
    ∀ units : Int, 100 * units ≤ left * policy.stockAllocationPercent →
      100 * units ≤ (left - 1) * policy.stockAllocationPercent

open AllocationPolicy

theorem published_eq : policy.published onHandQty reservedQty = policy.share (⌊onHandQty⌋ - ⌊reservedQty⌋) := by
  have buffer : max 0 (max 0 (⌊onHandQty⌋ - ⌊reservedQty⌋) - (policy.safetyStockBuffer : Int)) =
      max 0 (⌊onHandQty⌋ - ⌊reservedQty⌋ - policy.safetyStockBuffer) := by omega
  simp only [published, calculateChannelPublishableQuantity, share, floor_natCast, natCast_nonneg,
    max_eq_right, buffer, policy.nonneg, min_eq_right policy.most]
  apply max_eq_right
  apply floor_nonneg.mpr
  have percent := policy.nonneg
  positivity

theorem floor_sub_eq (onHandQty reservedQty : ℚ) : ⌊onHandQty - reservedQty⌋ =
    if fract reservedQty ≤ fract onHandQty then ⌊onHandQty⌋ - ⌊reservedQty⌋
    else ⌊onHandQty⌋ - ⌊reservedQty⌋ - 1 := by
  have onHand := floor_add_fract onHandQty
  have reserved := floor_add_fract reservedQty
  have onHandLt := fract_lt_one onHandQty
  have reservedLt := fract_lt_one reservedQty
  have onHandNonneg := fract_nonneg onHandQty
  have reservedNonneg := fract_nonneg reservedQty
  apply floor_eq_iff.mpr
  split
  all_goals
    push_cast
    constructor <;> linarith

/-- What is shared of nothing gained: the last unit counts when it completes a unit of the share. -/
theorem share_pred_eq_iff : policy.share available = policy.share (available - 1) ↔
    available - policy.safetyStockBuffer ≤ 0 ∨
      ∀ units : Int, 100 * units ≤ (available - policy.safetyStockBuffer : Int) * policy.stockAllocationPercent →
        100 * units ≤ ((available - policy.safetyStockBuffer : Int) - 1) * policy.stockAllocationPercent := by
  have percent := policy.nonneg
  by_cases none : available - policy.safetyStockBuffer ≤ 0
  · have before : max 0 (available - policy.safetyStockBuffer : Int) = 0 := by omega
    have after : max 0 (available - 1 - policy.safetyStockBuffer : Int) = 0 := by omega
    simp only [share, before, after, none, true_or]
  have before : max 0 (available - policy.safetyStockBuffer : Int) = available - policy.safetyStockBuffer := by omega
  have after : max 0 (available - 1 - policy.safetyStockBuffer : Int) = available - policy.safetyStockBuffer - 1 := by omega
  simp only [share, before, after, none, false_or]
  generalize available - (policy.safetyStockBuffer : Int) = left
  have floor_le (whole : ℚ) (units : Int) : units ≤ ⌊whole / 100⌋ ↔ 100 * units ≤ whole := by
    rw [le_floor, le_div_iff₀ (by norm_num), mul_comm]
  constructor
  · intro same units fits
    have least := same ▸ (floor_le _ units).mpr fits
    have fitted := (floor_le _ units).mp least
    push_cast at fitted
    exact fitted
  · intro keeps
    apply le_antisymm
    · apply (floor_le _ _).mpr
      push_cast
      exact keeps _ ((floor_le _ _).mp le_rfl)
    · apply floor_le_floor
      push_cast
      linarith

theorem share_le (nonneg : 0 ≤ available) :
    (policy.share available : ℚ) ≤ available * policy.stockAllocationPercent / 100 := by
  apply (floor_le _).trans
  have left : ((max 0 (available - policy.safetyStockBuffer) : Int) : ℚ) ≤ available := by
    exact_mod_cast (by omega : max 0 (available - (policy.safetyStockBuffer : Int)) ≤ available)
  have scaled := mul_le_mul_of_nonneg_right left policy.nonneg
  linarith

theorem shares_le (nonneg : 0 ≤ available) (policies : List AllocationPolicy) :
    ((policies.map (·.share available)).sum : Int) ≤ (available * (policies.map (·.stockAllocationPercent)).sum / 100 : ℚ) := by
  induction policies with
  | nil => simp
  | cons policy rest ih =>
    have one := @share_le policy _ nonneg
    simp only [List.map_cons, List.sum_cons, Int.cast_add]
    linarith

theorem published_eq_share_iff : policy.published onHandQty reservedQty = policy.share ⌊onHandQty - reservedQty⌋ ↔
    policy.KeepsUnit onHandQty reservedQty := by
  rw [published_eq, floor_sub_eq]
  unfold KeepsUnit
  split
  next aligned => simp only [aligned, true_or]
  next apart =>
    simp only [apart, false_or]
    exact share_pred_eq_iff

/-- Rounding the two quantities apart may gain a unit, and nothing is oversold exactly where no connection is offered it. -/
theorem neverOversold_iff (onHandQty reservedQty : ℚ) (policies : List AllocationPolicy) :
    NeverOversold onHandQty reservedQty policies ↔ ∀ policy ∈ policies, policy.KeepsUnit onHandQty reservedQty := by
  constructor
  · intro sold policy member
    exact published_eq_share_iff.mp (sold.shared policy member)
  intro keeps
  have shared : ∀ policy ∈ policies, policy.published onHandQty reservedQty = policy.share ⌊onHandQty - reservedQty⌋ :=
    fun policy member => published_eq_share_iff.mpr (keeps policy member)
  have whole (nonneg : 0 ≤ onHandQty - reservedQty) : (0 : Int) ≤ ⌊onHandQty - reservedQty⌋ := floor_nonneg.mpr nonneg
  have floor := floor_le (onHandQty - reservedQty)
  refine ⟨shared, ?_, ?_⟩
  · intro policy member nonneg
    rw [shared policy member]
    have least := whole nonneg
    have part := @share_le policy _ least
    have most := mul_le_mul_of_nonneg_left policy.most (cast_nonneg (R := ℚ) least)
    linarith
  · intro percents nonneg
    rw [List.map_congr_left shared]
    have least := whole nonneg
    have parts := shares_le least policies
    have most := mul_le_mul_of_nonneg_left percents (cast_nonneg (R := ℚ) least)
    linarith

def AllocationPolicy.everything : AllocationPolicy := ⟨0, 100, by norm_num, by norm_num⟩

/-- Ten on hand and half a unit reserved: ten are offered. -/
theorem half_unit_oversold : ¬ NeverOversold 10 (1 / 2) [.everything] := by
  intro sold
  have within := sold.within .everything (by simp) (by norm_num)
  rw [published_eq] at within
  norm_num [share, everything] at within

end Integration
