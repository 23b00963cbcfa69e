import Mathlib.Algebra.Order.BigOperators.Group.List
import Mathlib.Algebra.Order.Group.Abs
import Mathlib.Algebra.Order.Ring.Int
import Mathlib.Data.Nat.Log

/-! JavaScript's whole numbers. A sum is the double nearest to the exact one, so it is
exact as far as the safe integers go; past them it may be rounded, and stays past them. -/

namespace JsNumber

open List Int

/-- `Number.MAX_SAFE_INTEGER` -/
def maxSafeInteger : Int := 2 ^ 53 - 1

/-- `Number.isSafeInteger` -/
def IsSafe (value : Int) : Prop := -maxSafeInteger ≤ value ∧ value ≤ maxSafeInteger

instance (value : Int) : Decidable (IsSafe value) := inferInstanceAs (Decidable (_ ∧ _))

/-- The distance between neighbouring doubles at a magnitude. -/
def unit (magnitude : Nat) : Nat := 2 ^ (magnitude.log2 - 52)

/-- The nearest multiple of the unit, ties to an even multiple. -/
def roundMagnitude (magnitude : Nat) : Nat :=
  let below := magnitude / unit magnitude
  let rest := magnitude % unit magnitude
  if 2 * rest < unit magnitude ∨ 2 * rest = unit magnitude ∧ below % 2 = 0 then below * unit magnitude
  else (below + 1) * unit magnitude

/-- The double nearest to an integer, for integers that are not too large to be one. -/
def round (value : Int) : Int := value.sign * roundMagnitude value.natAbs

/-- `first + second` -/
def add (first second : Int) : Int := round (first + second)

/-- `first - second` -/
def sub (first second : Int) : Int := round (first - second)

variable {magnitude : Nat} {value first second start : Int} {values : List Int}

theorem unit_of_small (small : magnitude < 2 ^ 53) : unit magnitude = 1 := by
  have digits : magnitude.log2 ≤ 52 := by
    by_cases zero : magnitude = 0
    · rw [zero]
      decide
    · exact Nat.lt_succ_iff.mp ((Nat.log2_lt zero).mpr small)
  rw [unit, Nat.sub_eq_zero_of_le digits, pow_zero]

theorem roundMagnitude_of_small (small : magnitude < 2 ^ 53) : roundMagnitude magnitude = magnitude := by
  simp [roundMagnitude, unit_of_small small, Nat.mod_one]

theorem le_below_unit (large : 2 ^ 53 ≤ magnitude) : 2 ^ 53 ≤ magnitude / unit magnitude * unit magnitude := by
  have nonzero : magnitude ≠ 0 := by omega
  have digits : 53 ≤ magnitude.log2 := (Nat.le_log2 nonzero).mpr large
  have split : 2 ^ magnitude.log2 = 2 ^ 52 * unit magnitude := by
    rw [unit, ← pow_add]
    congr 1
    omega
  have positive : 0 < unit magnitude := Nat.two_pow_pos _
  have most : 2 ^ 52 ≤ magnitude / unit magnitude := by
    rw [Nat.le_div_iff_mul_le positive, ← split]
    exact Nat.log2_self_le nonzero
  calc 2 ^ 53 ≤ 2 ^ magnitude.log2 := Nat.pow_le_pow_right (by omega) digits
    _ = 2 ^ 52 * unit magnitude := split
    _ ≤ magnitude / unit magnitude * unit magnitude := Nat.mul_le_mul_right _ most

theorem le_roundMagnitude (large : 2 ^ 53 ≤ magnitude) : 2 ^ 53 ≤ roundMagnitude magnitude := by
  have bound := le_below_unit large
  simp only [roundMagnitude]
  split
  · exact bound
  · exact bound.trans (Nat.mul_le_mul_right _ (Nat.le_succ _))

theorem round_of_safe (safe : IsSafe value) : round value = value := by
  have small : value.natAbs < 2 ^ 53 := by
    unfold IsSafe maxSafeInteger at safe
    omega
  rw [round, roundMagnitude_of_small small, sign_mul_natAbs]

theorem safe_of_round (rounded : IsSafe (round value)) : IsSafe value := by
  by_contra unsafe_
  have large : 2 ^ 53 ≤ value.natAbs := by
    unfold IsSafe maxSafeInteger at unsafe_
    omega
  have magnitude := le_roundMagnitude large
  unfold IsSafe round maxSafeInteger at rounded
  rcases lt_trichotomy value 0 with negative | zero | positive
  · rw [sign_eq_neg_one_of_neg negative] at rounded
    omega
  · rw [zero] at large
    omega
  · rw [sign_eq_one_of_pos positive] at rounded
    omega

theorem add_of_safe (safe : IsSafe (first + second)) : add first second = first + second :=
  round_of_safe safe

theorem add_exact (safe : IsSafe (add first second)) : add first second = first + second :=
  add_of_safe (safe_of_round safe)

theorem sub_of_safe (safe : IsSafe (first - second)) : sub first second = first - second :=
  round_of_safe safe

theorem add_large (large : maxSafeInteger < first + second) : maxSafeInteger < add first second := by
  unfold maxSafeInteger at large ⊢
  have magnitude : 2 ^ 53 ≤ roundMagnitude (first + second).natAbs := le_roundMagnitude (by omega)
  rw [add, round, sign_eq_one_of_pos (by omega)]
  omega

theorem foldl_add_large (each : ∀ value ∈ values, 0 ≤ value)
    (large : maxSafeInteger < start) : maxSafeInteger < values.foldl add start := by
  induction values generalizing start with
  | nil => exact large
  | cons value values inner =>
    have positive := each value (.head _)
    apply inner fun other member => each other (.tail _ member)
    apply add_large
    omega

theorem foldl_add_exact (each : ∀ value ∈ values, 0 ≤ value) (nonneg : 0 ≤ start)
    (small : values.foldl add start ≤ maxSafeInteger) : values.foldl add start = start + values.sum := by
  induction values generalizing start with
  | nil => exact (add_zero start).symm
  | cons value values inner =>
    have positive := each value (.head _)
    have rest : ∀ other ∈ values, 0 ≤ other := fun other member => each other (.tail _ member)
    rw [foldl_cons] at small ⊢
    by_cases large : maxSafeInteger < start + value
    · exact absurd small (not_le.mpr (foldl_add_large rest (add_large large)))
    · have exact_ : add start value = start + value := by
        apply add_of_safe
        unfold IsSafe maxSafeInteger at *
        omega
      rw [inner rest (by omega) small, sum_cons]
      omega

theorem foldl_add_of_magnitudes (small : |start| + (values.map (|·|)).sum ≤ maxSafeInteger) :
    values.foldl add start = start + values.sum := by
  induction values generalizing start with
  | nil => exact (add_zero start).symm
  | cons value values inner =>
    rw [map_cons, sum_cons] at small
    have rest : 0 ≤ (values.map (|·|)).sum := sum_nonneg (by simp)
    have triangle := abs_add_le start value
    have exact_ : add start value = start + value := by
      apply add_of_safe
      exact abs_le.mp (by omega)
    rw [foldl_cons, exact_, inner (by omega), sum_cons, add_assoc]

theorem foldl_add_of_sum (each : ∀ value ∈ values, 0 ≤ value) (nonneg : 0 ≤ start)
    (small : start + values.sum ≤ maxSafeInteger) : values.foldl add start = start + values.sum := by
  apply foldl_add_of_magnitudes
  have same : values.map (|·|) = values := by
    conv_rhs => rw [← map_id values]
    exact map_congr_left fun value member => abs_of_nonneg (each value member)
  rwa [same, abs_of_nonneg nonneg]

end JsNumber
