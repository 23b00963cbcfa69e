import Mathlib.Data.Int.Log
import Mathlib.Data.Rat.Floor
import Mathlib.Tactic.FieldSimp
import Mathlib.Tactic.Linarith

/-! JavaScript's fractions: what a quotient or a product of doubles is rounded to. Rounding
never crosses a double, so a comparison with one survives it. -/

namespace JsNumber

open Int

/-- A number as a program gets it: its value, when it is finite, and what `String` prints of it. -/
structure Number where
  value : Option ℚ
  text : String
deriving DecidableEq

/-- The distance between neighbouring doubles around a value. -/
def grid (value : ℚ) : ℚ := 2 ^ max (log 2 |value| - 52) (-1074)

/-- The nearest integer, ties to an even one. -/
def roundEven (value : ℚ) : Int :=
  let below := ⌊value⌋
  if value - below < 1 / 2 ∨ value - below = 1 / 2 ∧ below % 2 = 0 then below else below + 1

/-- The double nearest to a value. -/
def nearest (value : ℚ) : ℚ := roundEven (value / grid value) * grid value

/-- `Math.round` -/
def mathRound (value : ℚ) : Int := ⌊value + 1 / 2⌋

/-- `toFixed(2)` of a value that is not negative. -/
def toFixed2 (value : ℚ) : String :=
  let hundredths := (mathRound (value * 100)).natAbs
  let fraction := toString (hundredths % 100)
  toString (hundredths / 100) ++ "." ++ String.ofList (List.replicate (2 - fraction.length) '0') ++ fraction

theorem grid_pos (value : ℚ) : 0 < grid value := zpow_pos (by decide) _

theorem le_roundEven {value : ℚ} {bound : Int} (le : bound ≤ value) : bound ≤ roundEven value := by
  have below := le_floor.mpr le
  simp only [roundEven]
  split <;> omega

theorem roundEven_le {value : ℚ} {bound : Int} (le : value ≤ bound) : roundEven value ≤ bound := by
  have below : ⌊value⌋ ≤ bound := cast_le.mp ((floor_le value).trans le)
  simp only [roundEven]
  split
  · exact below
  · next far =>
    apply add_one_le_of_lt
    apply lt_of_le_of_ne below
    intro same
    apply far
    have exact_ : value - ⌊value⌋ ≤ 0 := by
      rw [same]
      exact sub_nonpos_of_le le
    exact .inl (exact_.trans_lt one_half_pos)

theorem grid_divides {value : ℚ} {places : Nat} (fine : places ≤ 52) (small : |value| < 2 ^ (53 - places)) (count : Int) :
    ∃ steps : Int, (count : ℚ) / 2 ^ places = steps * grid value := by
  have exponent : log 2 |value| ≤ 52 - places := by
    by_cases zero : value = 0
    · rw [zero, abs_zero, log_zero_right]
      omega
    · have bound : |value| < ((2 : ℕ) : ℚ) ^ ((53 - places : ℕ) : ℤ) := by
        rw [zpow_natCast]
        exact small
      have below := (lt_zpow_iff_log_lt Nat.one_lt_two (abs_pos.mpr zero)).mp bound
      omega
  have steps : (0 : ℤ) ≤ -places - max (log 2 |value| - 52) (-1074) := by omega
  obtain ⟨power, same⟩ := eq_ofNat_of_zero_le steps
  refine ⟨count * 2 ^ power, ?_⟩
  have split : (2 : ℚ) ^ power * grid value = (2 ^ places)⁻¹ := by
    rw [grid, ← zpow_natCast, ← zpow_add₀ (by decide), ← zpow_natCast (2 : ℚ) places, ← zpow_neg]
    congr 1
    omega
  push_cast
  rw [mul_assoc, split, div_eq_mul_inv]

theorem nearest_between {value : ℚ} {places : Nat} (fine : places ≤ 52) (small : |value| < 2 ^ (53 - places)) (count : Int) :
    ((count : ℚ) / 2 ^ places ≤ value → (count : ℚ) / 2 ^ places ≤ nearest value) ∧
      (value ≤ (count : ℚ) / 2 ^ places → nearest value ≤ (count : ℚ) / 2 ^ places) := by
  obtain ⟨steps, same⟩ := grid_divides fine small count
  have positive := grid_pos value
  rw [same, nearest]
  constructor
  · intro le
    apply mul_le_mul_of_nonneg_right _ positive.le
    exact_mod_cast le_roundEven ((le_div_iff₀ positive).mpr le)
  · intro le
    apply mul_le_mul_of_nonneg_right _ positive.le
    exact_mod_cast roundEven_le ((div_le_iff₀ positive).mpr le)

/-- The grid of `2 ^ -places` around a value is of doubles, so rounding stays in its cell. -/
theorem nearest_within {value : ℚ} {places : Nat} (fine : places ≤ 52) (small : |value| < 2 ^ (53 - places)) :
    |nearest value - value| ≤ 1 / 2 ^ places := by
  have positive : (0 : ℚ) < 2 ^ places := by positivity
  have below : (⌊value * 2 ^ places⌋ : ℚ) / 2 ^ places ≤ value := (div_le_iff₀ positive).mpr (floor_le _)
  have above : value ≤ ((⌊value * 2 ^ places⌋ + 1 : ℤ) : ℚ) / 2 ^ places := by
    rw [cast_add, cast_one]
    exact (le_div_iff₀ positive).mpr (lt_floor_add_one _).le
  have low := (nearest_between fine small _).1 below
  have high := (nearest_between fine small _).2 above
  rw [cast_add, cast_one, add_div] at above high
  rw [abs_le]
  constructor <;> linarith

theorem mathRound_nearest {value : ℚ} {whole : Int} (near : |value - whole| ≤ 1 / 4) (small : |value| < 2 ^ 51) :
    mathRound (nearest value) = whole := by
  obtain ⟨low, high⟩ := abs_le.mp near
  have below := (nearest_between (show 2 ≤ 52 by decide) small (4 * whole - 1)).1
  have above := (nearest_between (show 2 ≤ 52 by decide) small (4 * whole + 1)).2
  push_cast at below above
  rw [mathRound, floor_eq_iff]
  constructor
  · linarith [below (by linarith)]
  · linarith [above (by linarith)]

end JsNumber
