import Mathlib.Data.Rat.Floor
import Mathlib.Tactic.FieldSimp

/-! The number a decimal text stands for, apart from any program that reads or prints one. -/

namespace Decimal

open List Nat

/-- The digits before the point and those behind it. -/
def parts (letters : List Char) : List Char × List Char :=
  (letters.takeWhile (· ≠ '.'), (letters.dropWhile (· ≠ '.')).tail)

/-- Of a text without a sign that has at most `places` digits behind the point. -/
def magnitude (places : Nat) (letters : List Char) : Option ℚ :=
  let digits := (parts letters).1 ++ (parts letters).2
  if digits ≠ [] ∧ digits.all Char.isDigit = true ∧ (parts letters).2.length ≤ places then
    some (ofDigitChars 10 digits 0 / 10 ^ (parts letters).2.length)
  else none

def value (places : Nat) : List Char → Option ℚ
  | '-' :: rest => (magnitude places rest).map fun number => -number
  | '+' :: rest => magnitude places rest
  | letters => magnitude places letters

/-- `padStart(places, '0')` -/
def padded (places number : Nat) : List Char :=
  replicate (places - (toDigits 10 number).length) '0' ++ toDigits 10 number

/-- With `places` digits behind the point. -/
def print (negative : Bool) (places number : Nat) : List Char :=
  (if negative then ['-'] else []) ++ (toDigits 10 (number / 10 ^ places) ++
    if places = 0 then [] else '.' :: padded places (number % 10 ^ places))

/-- To the nearest whole number, half away from zero. -/
def roundHalfAway (number : ℚ) : ℤ := if number < 0 then -⌊-number + 1 / 2⌋ else ⌊number + 1 / 2⌋

variable {places number : Nat} {letters : List Char}

theorem roundHalfAway_intCast (number : Int) : roundHalfAway number = number := by
  have half : ⌊(1 / 2 : ℚ)⌋ = 0 := by norm_num [Int.floor_eq_iff]
  rw [roundHalfAway]
  split
  · rw [← Int.cast_neg, Int.floor_intCast_add, half, Int.add_zero, Int.neg_neg]
  · rw [Int.floor_intCast_add, half, Int.add_zero]

/-- Half of the divisor, itself rounded down, is added before the division. -/
theorem floor_add_half (dividend : Nat) {divisor : Nat} (positive : 0 < divisor) :
    ⌊(dividend : ℚ) / divisor + 1 / 2⌋ = ((dividend + divisor / 2) / divisor : Nat) := by
  have whole : (dividend : ℚ) / divisor + 1 / 2 = ((2 * dividend + divisor : Nat) : ℚ) / ((2 * divisor : Nat) : ℚ) := by
    push_cast
    field_simp
  rw [whole, Rat.floor_natCast_div_natCast, ← Int.natCast_ediv, ← Nat.div_div_eq_div_mul, Nat.mul_add_div (by decide)]

theorem roundHalfAway_div (dividend : Int) {divisor : Nat} (positive : 0 < divisor) : roundHalfAway (dividend / divisor) =
    (if dividend < 0 then -1 else 1) * ((dividend.natAbs + divisor / 2) / divisor : Nat) := by
  have sign : (dividend : ℚ) / divisor < 0 ↔ dividend < 0 := by
    rw [div_lt_iff₀ (cast_pos.mpr positive), zero_mul, Int.cast_lt_zero]
  rw [roundHalfAway]
  by_cases negative : dividend < 0
  · have magnitude : -((dividend : ℚ) / divisor) = (dividend.natAbs : ℚ) / divisor := by
      rw [← neg_div, cast_natAbs, abs_of_neg negative, Int.cast_neg]
    rw [if_pos (sign.mpr negative), if_pos negative, magnitude, floor_add_half _ positive, neg_one_mul]
  · have magnitude : (dividend : ℚ) = (dividend.natAbs : ℚ) := by
      rw [cast_natAbs, abs_of_nonneg (Int.not_lt.mp negative)]
    rw [if_neg (sign.not.mpr negative), if_neg negative, one_mul, ← floor_add_half _ positive, ← magnitude]

theorem magnitude_some_iff {number} : magnitude places letters = some number ↔
    (parts letters).1 ++ (parts letters).2 ≠ [] ∧ ((parts letters).1 ++ (parts letters).2).all Char.isDigit = true ∧
      (parts letters).2.length ≤ places ∧
      number = ofDigitChars 10 ((parts letters).1 ++ (parts letters).2) 0 / 10 ^ (parts letters).2.length := by
  simp only [magnitude, Option.ite_none_right_eq_some, Option.some.injEq, and_assoc]
  grind

theorem magnitude_mono {more} {number} (read : magnitude places letters = some number) (fewer : places ≤ more) :
    magnitude more letters = some number := by
  obtain ⟨filled, digits, short, value⟩ := magnitude_some_iff.mp read
  exact magnitude_some_iff.mpr ⟨filled, digits, short.trans fewer, value⟩

theorem mem_of_magnitude {number} (read : magnitude places letters = some number) :
    ∀ letter ∈ letters, letter = '.' ∨ letter.isDigit = true := by
  obtain ⟨-, digits, -⟩ := magnitude_some_iff.mp read
  intro letter member
  rw [← takeWhile_append_dropWhile (p := (· ≠ '.')) (l := letters), mem_append] at member
  rcases member with unit | rest
  · exact .inr (all_eq_true.mp digits letter (mem_append_left _ unit))
  · cases shape : letters.dropWhile (· ≠ '.') with
    | nil =>
      rw [shape] at rest
      cases rest
    | cons point fraction =>
      rw [shape] at rest
      rcases mem_cons.mp rest with rfl | digit
      · have front := head?_dropWhile_not (· ≠ '.') letters
        rw [shape] at front
        exact .inl (by simpa using front)
      · apply Or.inr
        apply all_eq_true.mp digits letter
        apply mem_append_right
        rw [parts, shape]
        exact digit

theorem toDigits_digit (number : Nat) : ∀ letter ∈ toDigits 10 number, letter.isDigit = true :=
  fun _ member => isDigit_of_mem_toDigits (by decide) (by decide) member

theorem length_padded (some_ : places ≠ 0) (small : number < 10 ^ places) : (padded places number).length = places := by
  have short := (length_toDigits_le_iff (b := 10) (by decide) (pos_of_ne_zero some_)).mpr small
  rw [padded, length_append, length_replicate]
  omega

theorem padded_digit : ∀ letter ∈ padded places number, letter.isDigit = true := by
  intro letter member
  rcases mem_append.mp member with zero | digit
  · rw [eq_of_mem_replicate zero]
    rfl
  · exact toDigits_digit number letter digit

theorem ofDigitChars_padded (some_ : places ≠ 0) (small : number < 10 ^ places) (front : Nat) :
    ofDigitChars 10 (padded places number) front = 10 ^ places * front + number := by
  rw [ofDigitChars_eq_ofDigitChars_zero, length_padded some_ small, padded, ofDigitChars_append,
    ofDigitChars_replicate_zero, mul_zero, ofDigitChars_ten_toDigits]

theorem parts_of_digits {units} (rest : List Char) (digits : ∀ letter ∈ units, letter.isDigit = true)
    (point : rest = [] ∨ rest.head? = some '.') : parts (units ++ rest) = (units, rest.tail) := by
  have plain : ∀ letter ∈ units, decide (letter ≠ '.') = true := by
    intro letter member
    have digit := digits letter member
    simp only [decide_eq_true_eq]
    rintro rfl
    cases digit
  rw [parts, takeWhile_append_of_pos plain, dropWhile_append_of_pos plain]
  rcases point with rfl | point
  · simp
  · cases rest with
    | nil => cases point
    | cons letter rest =>
      cases point
      simp

theorem magnitude_print (places number : Nat) : magnitude places (print false places number) = some ((number : ℚ) / 10 ^ places) := by
  by_cases none_ : places = 0
  · subst none_
    have shape := parts_of_digits [] (toDigits_digit number) (.inl rfl)
    rw [append_nil] at shape
    have digits := all_eq_true.mpr (toDigits_digit number)
    simp [magnitude, print, shape, digits, Nat.toDigits_ne_nil]
  · have shape := parts_of_digits ('.' :: padded places (number % 10 ^ places))
      (toDigits_digit (number / 10 ^ places)) (.inr rfl)
    have small : number % 10 ^ places < 10 ^ places := Nat.mod_lt _ (Nat.pow_pos (by decide))
    have digits : (Nat.toDigits 10 (number / 10 ^ places) ++ padded places (number % 10 ^ places)).all Char.isDigit = true := by
      rw [all_append, all_eq_true.mpr (toDigits_digit _), all_eq_true.mpr padded_digit, Bool.and_self]
    have length := length_padded none_ small
    simp only [magnitude, print, Bool.false_eq_true, if_false, nil_append, if_neg none_, shape, tail_cons]
    rw [if_pos ⟨by simp [Nat.toDigits_ne_nil], digits, length.le⟩, length, Nat.ofDigitChars_append,
      ofDigitChars_padded none_ small, Nat.ofDigitChars_ten_toDigits, Nat.div_add_mod]

theorem value_of_magnitude {number} (read : magnitude places letters = some number) : value places letters = some number := by
  have plain := mem_of_magnitude read
  unfold value
  split
  next => simpa using plain '-' mem_cons_self
  next => simpa using plain '+' mem_cons_self
  next => exact read

theorem value_print (negative : Bool) : value places (print negative places number) =
    some ((if negative then -1 else 1) * ((number : ℚ) / 10 ^ places)) := by
  cases negative with
  | true =>
    change (magnitude places (print false places number)).map (fun number => -number) = _
    rw [magnitude_print, Option.map_some, if_pos rfl, neg_one_mul]
  | false => rw [value_of_magnitude (magnitude_print places number), if_neg Bool.false_ne_true, one_mul]

end Decimal
