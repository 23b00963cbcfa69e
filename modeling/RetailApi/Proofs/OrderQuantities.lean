import RetailApi.Proofs.Quantities
import RetailApi.Sales.OrderRows

/-! Quantities on orders: what the service prints it reads back, and shares of money are
rounded to the nearest whole amount. -/

namespace Sales

open Transaction JsString Inventory

variable {millis : Int}

/-- `/^\d+(\.\d{1,places})?$/`, in units of the last place. -/
def readDecimal (places : Nat) (letters : List Char) : Option Nat := do
  let (whole, rest) := letters.span (· ≠ '.')
  guard (whole ≠ [] ∧ whole.all Char.isDigit = true)
  let fraction ← readFraction places rest
  return digitsValue whole * 10 ^ places + fraction

/-- A zero before another digit of the whole part. -/
def LeadingZero (letters : List Char) : Prop := ∃ rest, rest ≠ [] ∧ (letters.span (· ≠ '.')).1 = '0' :: rest

variable {places number : Nat} {letters : List Char}

theorem readWhole_some_iff : readWhole letters = some number ↔
    (letters ≠ [] ∧ letters.all Char.isDigit = true ∧ digitsValue letters = number) ∧
      ¬ ∃ rest, rest ≠ [] ∧ letters = '0' :: rest := by
  unfold readWhole
  split
  · simp
  · simp [digitsValue]
  next first rest other =>
    by_cases zero : first = '0'
    · subst zero
      have more : rest ≠ [] := other rfl
      simp [more]
    · simp [zero, and_assoc]

theorem readUnsigned_some_iff : readUnsigned places letters = some number ↔
    readDecimal places letters = some number ∧ ¬ LeadingZero letters := by
  simp only [readUnsigned, readDecimal, LeadingZero, guard, Option.bind_eq_bind, Option.bind_eq_some_iff,
    readWhole_some_iff, Option.pure_def]
  constructor
  · intro found
    obtain ⟨_, ⟨⟨filled, digits, value⟩, plain⟩, read⟩ := found
    exact ⟨⟨(), if_pos ⟨filled, digits⟩, value ▸ read⟩, plain⟩
  · intro found
    obtain ⟨⟨_, digits, read⟩, plain⟩ := found
    split at digits
    next whole => exact ⟨_, ⟨⟨whole.1, whole.2, rfl⟩, plain⟩, read⟩
    next => cases digits

theorem parseQtyMillis_pos {value} (parsed : parseQtyMillis value = .ok millis) : 0 < millis := by
  simp only [parseQtyMillis, eq_ok] at parsed
  obtain ⟨_, _, _, positive, rfl⟩ := parsed
  exact_mod_cast positive

theorem toList_formatQtyMillis (nonnegative : 0 ≤ millis) : (formatQtyMillis millis).toList =
      Nat.toDigits 10 (millis.natAbs / 1000) ++ '.' :: fractionDigits millis.natAbs :=
  toList_formatMilliToQty nonnegative

theorem readQty_format (millis : Nat) :
    readQty (Nat.toDigits 10 (millis / 1000) ++ '.' :: fractionDigits millis) = some millis :=
  (readUnsigned_some_iff.mp (readUnsigned_format millis)).1

theorem trim_formatQtyMillis (millis : Int) : trim (formatQtyMillis millis).toList = (formatQtyMillis millis).toList :=
  trim_formatMilliToQty millis

theorem trimmed_formatQtyMillis (millis : Int) : trimmed (formatQtyMillis millis) = formatQtyMillis millis := by
  rw [trimmed, trim_formatQtyMillis, String.ofList_toList]

theorem parseQtyMillis_format (positive : 0 < millis) : parseQtyMillis (formatQtyMillis millis) = .ok millis := by
  simp only [parseQtyMillis, trimmed_formatQtyMillis, eq_ok]
  refine ⟨millis.natAbs, ?_, (), by omega, by omega⟩
  rw [toList_formatQtyMillis positive.le]
  exact readQty_format millis.natAbs

theorem readQty_negative (letters : List Char) : readQty ('-' :: letters) = none := by
  have sign : ('-' :: letters).takeWhile (· ≠ '.') = '-' :: letters.takeWhile (· ≠ '.') := by simp
  simp only [readQty, List.span_eq_takeWhile_dropWhile, sign]
  rfl

theorem formatQtyMillis_negative (negative : millis < 0) : ∃ letters, (formatQtyMillis millis).toList = '-' :: letters := by
  simp [formatQtyMillis, negative]

theorem parseQtyMillis_format_ok {parsed} (accepted : parseQtyMillis (formatQtyMillis millis) = .ok parsed) :
    parsed = millis := by
  rcases Int.lt_trichotomy millis 0 with negative | rfl | positive
  · obtain ⟨letters, text⟩ := formatQtyMillis_negative negative
    simp [parseQtyMillis, trimmed_formatQtyMillis, text, readQty_negative] at accepted
  · have positive := parseQtyMillis_pos accepted
    simp only [parseQtyMillis, trimmed_formatQtyMillis, eq_ok] at accepted
    obtain ⟨number, read, _, _, rfl⟩ := accepted
    have zero : readQty (formatQtyMillis 0).toList = some 0 := by decide
    cases zero.symm.trans read
    rfl
  · rw [parseQtyMillis_format positive] at accepted
    cases accepted
    rfl

theorem digitsValue_of_zeros {letters} (zeros : ∀ letter ∈ letters, letter = '0') : digitsValue letters = 0 := by
  rw [List.eq_replicate_of_mem zeros, digitsValue_eq, Nat.ofDigitChars_replicate_zero, Nat.mul_zero]

theorem isPositiveNumber_format (nonnegative : 0 ≤ millis) : isPositiveNumber (formatQtyMillis millis) = decide (0 < millis) := by
  have text := toList_formatQtyMillis nonnegative
  have any : isPositiveNumber (formatQtyMillis millis) =
      (formatQtyMillis millis).toList.any fun letter => letter.isDigit && letter ≠ '0' := by
    unfold isPositiveNumber
    split
    · next rest same => exact absurd same (formatMilliToQty_signless nonnegative rest)
    · rfl
  by_cases zero : millis = 0
  · subst zero
    decide +kernel
  rw [any, decide_eq_true (by omega)]
  by_contra none
  simp only [Bool.not_eq_true, List.any_eq_false, Bool.and_eq_true, decide_eq_true_eq, not_and, not_not] at none
  have zeros : ∀ digits : List Char, digits.all Char.isDigit = true →
      (∀ letter ∈ digits, letter ∈ (formatQtyMillis millis).toList) → digitsValue digits = 0 := fun digits all inside =>
    digitsValue_of_zeros fun letter member => none letter (inside letter member) (List.all_eq_true.mp all letter member)
  have units := zeros _ (all_isDigit_toDigits (millis.natAbs / 1000)) fun letter member => by simp [text, member]
  have fraction := zeros _ (all_isDigit_fractionDigits millis.natAbs) fun letter member => by simp [text, member]
  have read := readFraction_fractionDigits millis.natAbs
  rw [digitsValue_eq, Nat.ofDigitChars_ten_toDigits] at units
  simp only [readFraction, fraction] at read
  split at read
  · simp only [Nat.zero_mul, Option.some.injEq] at read
    omega
  · cases read

theorem roundDivHalfUp_ok {numerator denominator rounded} (nonnegative : 0 ≤ numerator)
    (divided : roundDivHalfUp numerator denominator = .ok rounded) :
    0 < denominator ∧ rounded = (numerator + denominator / 2) / denominator ∧ 0 ≤ rounded := by
  simp only [roundDivHalfUp, eq_ok, if_pos nonnegative] at divided
  obtain ⟨_, positive, rfl⟩ := divided
  refine ⟨positive, rfl, Int.ediv_nonneg ?_ positive.le⟩
  omega

end Sales
