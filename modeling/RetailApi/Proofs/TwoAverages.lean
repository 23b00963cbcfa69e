import RetailApi.Proofs.QuantityTexts
import RetailApi.Proofs.ReportDecimals

/-! The moving average of the reports beside inventory's: the reports round to a ten-thousandth first, and so lift an
average that is barely below a half. -/

namespace Insight

open Transaction JsString Inventory Decimal Int

/-- The average falls short of a half by no more than the first rounding adds. -/
def BarelyBelowHalf (onHand received : String) (avg cost : Nat) : Prop :=
  ∃ milli added, parseQtyToMilli onHand true false = .ok milli ∧ parseQtyToMilli received false false = .ok added ∧
    9999 * (milli + added) ≤ 20000 * ((milli * avg + added * cost) % (milli + added)) ∧
    2 * ((milli * avg + added * cost) % (milli + added)) < milli + added

section Reading

variable {letters : List Char} {text : String} {number : Nat} {milli : Int}

theorem parseScaledDecimal_of_read (read : readSigned 3 (trim text.toList) = some milli) :
    parseScaledDecimal text = 10 * milli := by
  have scaled : (parseScaledDecimal text : ℚ) = (10 * milli : Int) := by
    rw [parseScaledDecimal_of_value (value_of_read (by decide) read)]
    push_cast
    ring
  exact_mod_cast scaled

theorem parseScaledDecimal_qty {allowZero allowNegative : Bool} (parsed : parseQtyToMilli text allowZero allowNegative = .ok milli) :
    parseScaledDecimal text = 10 * milli := by
  simp only [parseQtyToMilli, eq_ok] at parsed
  obtain ⟨_, read, checked⟩ := parsed
  rw [(checkQty_ok checked).1]
  exact parseScaledDecimal_of_read read

theorem parseScaledDecimal_whole (cost : Nat) : parseScaledDecimal (toString (cost : Int)) = 10000 * cost := by
  have letters : (toString (cost : Int)).toList = print false 0 cost := by
    rw [show (toString (cost : Int)).toList = Nat.toDigits 10 cost from toList_toString cost]
    simp [print]
  have read := value_of_magnitude (magnitude_mono (magnitude_print 0 cost) (Nat.zero_le 4))
  rw [← letters] at read
  have scaled := parseScaledDecimal_of_value ((trim_of_value read).symm ▸ read)
  have whole : (parseScaledDecimal (toString (cost : Int)) : ℚ) = (10000 * cost : Int) := by
    rw [scaled]
    push_cast
    ring
  exact_mod_cast whole

theorem toString_of_nonneg {first second : Int} (nonneg : 0 ≤ first) (positive : 0 ≤ second)
    (same : toString first = toString second) : first = second := by
  obtain ⟨one, rfl⟩ := eq_ofNat_of_zero_le nonneg
  obtain ⟨other, rfl⟩ := eq_ofNat_of_zero_le positive
  exact congrArg ofNat (toString_injective same)

end Reading

section Rounding

variable {weighted total : Int}

theorem ediv_add_of_lt (positive : 0 < total) {added : Int} (least : 0 ≤ added) (most : added ≤ total) :
    (weighted + added) / total = weighted / total + if total ≤ weighted % total + added then 1 else 0 := by
  have whole := mul_ediv_add_emod weighted total
  have low := emod_nonneg weighted positive.ne'
  have high := emod_lt_of_pos weighted positive
  apply (ediv_eq_iff_of_pos positive).mpr
  split
  · rw [add_mul, mul_comm]
    omega
  · rw [add_zero, mul_comm]
    omega

theorem wholeMoney_of_nonneg {value : Int} (nonnegative : 0 ≤ value) : wholeMoney value = (value + 5000) / 10000 :=
  if_neg (not_lt.mpr nonnegative)

theorem average_of_reports (positive : 0 < total) (nonnegative : 0 ≤ weighted) : wholeMoney ((100000 * weighted + 5 * total) / (10 * total)) =
    weighted / total + if 9999 * total ≤ 20000 * (weighted % total) then 1 else 0 := by
  have whole := Int.mul_ediv_add_emod weighted total
  have low := Int.emod_nonneg weighted positive.ne'
  have high := Int.emod_lt_of_pos weighted positive
  have parts : 100000 * weighted + 5 * total = 100000 * (weighted % total) + 5 * total + 10 * total * (10000 * (weighted / total)) := by
    rw [Int.mul_assoc, Int.mul_left_comm total]
    omega
  rw [parts, Int.add_mul_ediv_left _ _ (by omega)]
  have least := Int.ediv_nonneg (a := 100000 * (weighted % total) + 5 * total) (b := 10 * total) (by omega) (by omega)
  have most : (100000 * (weighted % total) + 5 * total) / (10 * total) < 10001 := by
    apply Int.ediv_lt_of_lt_mul (by omega)
    omega
  have lifted : 5000 ≤ (100000 * (weighted % total) + 5 * total) / (10 * total) ↔ 9999 * total ≤ 20000 * (weighted % total) := by
    rw [Int.le_ediv_iff_mul_le (by omega)]
    omega
  have quotient := Int.ediv_nonneg nonnegative positive.le
  rw [wholeMoney_of_nonneg (by omega)]
  split <;> omega

end Rounding

theorem computeInventoryValuation_format {milli : Int} (nonnegative : 0 ≤ milli) (cost : Nat) :
    computeInventoryValuation (formatMilliToQty milli) (toString (cost : Int)) = toString (valueOf milli cost) := by
  have value : 0 ≤ milli * (cost : Int) := mul_nonneg nonnegative (by omega)
  have product : mulScaled (10 * milli) (10000 * cost) = 10 * (milli * cost) := by
    have whole : 10 * milli * (10000 * (cost : Int)) = 100000 * (milli * cost) := by
      rw [mul_assoc, mul_left_comm milli]
      omega
    rw [mulScaled, whole, wholeMoney_of_nonneg (by omega)]
    show (100000 * (milli * (cost : Int)) + 5000) / 10000 = 10 * (milli * cost)
    omega
  unfold computeInventoryValuation
  rw [parseScaledDecimal_of_read (readSigned_format nonnegative), parseScaledDecimal_whole, product]
  simp only [formatScaledDecimal, wholeMoney_of_nonneg (le_refl 0),
    wholeMoney_of_nonneg (mul_nonneg (show (0 : Int) ≤ 10 by omega) value), valueOf]
  split
  next empty =>
    have zero : milli = 0 := by
      have bound : 10 * milli ≤ 0 := empty
      omega
    simp [zero]
  next =>
    congr 1
    omega

variable {onHand received : String} {milli added : Int} {avg cost : Nat} {result : WeightedAverageCostResult}

theorem computeWeightedAverageCost_eq (held : parseQtyToMilli onHand true false = .ok milli)
    (arrived : parseQtyToMilli received false false = .ok added) :
    computeWeightedAverageCost onHand (toString (avg : Int)) received (toString (cost : Int)) =
      toString ((milli * avg + added * cost) / (milli + added) +
        if 9999 * (milli + added) ≤ 20000 * ((milli * avg + added * cost) % (milli + added)) then 1 else 0) := by
  have positive := parseQtyToMilli_pos arrived
  have nonnegative := parseQtyToMilli_nonneg held
  have some_ : ¬ 10 * added ≤ 0 := by omega
  unfold computeWeightedAverageCost
  simp only [parseScaledDecimal_qty held, parseScaledDecimal_qty arrived, parseScaledDecimal_whole, if_neg some_, formatScaledDecimal]
  have worth := add_nonneg (mul_nonneg nonnegative (natCast_nonneg avg)) (mul_nonneg positive.le (natCast_nonneg cost))
  rw [← average_of_reports (by omega) worth]
  have scaled (quantity : Int) (price : Nat) : 10 * quantity * (10000 * (price : Int)) = 100000 * (quantity * price) := by
    rw [mul_assoc, mul_left_comm quantity]
    omega
  split
  next empty =>
    have zero : milli = 0 := by
      have bound : 10 * milli ≤ 0 := empty
      omega
    subst zero
    rw [average_of_reports (by omega) worth, zero_mul, zero_add, zero_add, mul_ediv_cancel_left _ positive.ne',
      mul_emod_right, if_neg (by omega), wholeMoney_of_nonneg (by omega)]
    congr 1
    omega
  next =>
    have half : (10 * milli + 10 * added).tdiv 2 = (10 * milli + 10 * added) / 2 := tdiv_eq_ediv_of_nonneg (by omega)
    rw [scaled, scaled, half, tdiv_eq_ediv_of_nonneg (by omega)]
    congr 2
    congr 1 <;> omega

/-- On one receipt the reports come to inventory's average, and to inventory's value of what is then in stock. -/
structure AveragesAgree (onHand received : String) (avg cost : Nat) (result : WeightedAverageCostResult) : Prop where
  average : computeWeightedAverageCost onHand (toString (avg : Int)) received (toString (cost : Int)) =
    toString result.newAvgCostVnd
  value : computeInventoryValuation (formatMilliToQty result.newOnHandMilli) (toString result.newAvgCostVnd) =
    toString result.newValuationVnd

/-- The reports round the average twice, and so take one that is barely below a half up. -/
theorem averages_agree_iff (answered : averageCostOnReceipt onHand avg received cost = .ok result) :
    AveragesAgree onHand received avg cost result ↔ ¬ BarelyBelowHalf onHand received avg cost := by
  obtain ⟨milli, added, held, arrived, total, average, value⟩ := averageCostOnReceipt_ok answered
  have positive := parseQtyToMilli_pos arrived
  have nonnegative := parseQtyToMilli_nonneg held
  have worth := add_nonneg (mul_nonneg nonnegative (natCast_nonneg avg)) (mul_nonneg positive.le (natCast_nonneg cost))
  rw [ediv_add_of_lt (by omega) (by omega) (by omega)] at average
  have low := ediv_nonneg worth (by omega : 0 ≤ milli + added)
  obtain ⟨number, shape⟩ := eq_ofNat_of_zero_le (a := result.newAvgCostVnd) (by split at average <;> omega)
  have valued := computeInventoryValuation_format (by omega : 0 ≤ milli + added) number
  rw [← shape, ← total, ← value] at valued
  constructor
  · intro agreed ⟨_, _, same, sameAdded, near, below⟩
    cases held.symm.trans same
    cases arrived.symm.trans sameAdded
    have text := agreed.average
    rw [computeWeightedAverageCost_eq held arrived, average, if_pos near, if_neg (by omega)] at text
    have numbers := toString_of_nonneg (by omega) (by omega) text
    omega
  · intro clear
    refine ⟨?_, valued⟩
    rw [computeWeightedAverageCost_eq held arrived, average]
    have apart : 9999 * (milli + added) ≤ 20000 * ((milli * avg + added * cost) % (milli + added)) →
        milli + added ≤ 2 * ((milli * avg + added * cost) % (milli + added)) :=
      fun near => not_lt.mp fun below => clear ⟨milli, added, held, arrived, near, below⟩
    congr 2
    split <;> split <;> omega

theorem averages_agree_at_a_half : ∃ result, averageCostOnReceipt "1.000" 10 "1.0" 11 = .ok result ∧
    (AveragesAgree "1.000" "1.0" 10 11 result ↔ ¬ BarelyBelowHalf "1.000" "1.0" 10 11) := by
  obtain ⟨result, answered, _⟩ := evaluates (averageCostOnReceipt "1.000" 10 "1.0" 11) (fun _ => true) (by decide +kernel)
  exact ⟨result, answered, averages_agree_iff answered⟩

/-- The reports come to thirteen, inventory to twelve. -/
theorem averages_apart : ∃ result, averageCostOnReceipt "10.000" 12 "0.001" 5012 = .ok result ∧
    ¬ AveragesAgree "10.000" "0.001" 12 5012 result := by
  obtain ⟨result, answered, rounded⟩ := evaluates (averageCostOnReceipt "10.000" 12 "0.001" 5012)
    (fun result => computeWeightedAverageCost "10.000" "12" "0.001" "5012" ≠ toString result.newAvgCostVnd) (by decide +kernel)
  refine ⟨result, answered, fun agreed => ?_⟩
  simp only [decide_eq_true_eq] at rounded
  exact rounded agreed.average

end Insight
