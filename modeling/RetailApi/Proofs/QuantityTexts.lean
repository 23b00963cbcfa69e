import Mathlib.Tactic.LinearCombination
import RetailApi.Base.Decimal
import RetailApi.Inventory.Reservations
import RetailApi.Proofs.OrderQuantities

/-! Quantities cross between the services as text: what is printed is read back, and what is read is the
number the text stands for. -/

namespace Inventory

open Transaction JsString Sales Decimal

variable {letters : List Char} {text : String} {number : Nat} {milli : Int}

theorem magnitude_of_read (read : readUnsigned 3 letters = some number) :
    magnitude 3 letters = some (number / 1000 : ℚ) := by
  obtain ⟨decimal, -⟩ := readUnsigned_some_iff.mp read
  simp only [readDecimal, guard, Option.bind_eq_bind, Option.bind_eq_some_iff, Option.pure_def,
    List.span_eq_takeWhile_dropWhile] at decimal
  obtain ⟨_, guarded, fraction, readRest, ⟨⟩⟩ := decimal
  rw [magnitude_some_iff, parts]
  generalize letters.takeWhile (· ≠ '.') = units at *
  generalize letters.dropWhile (· ≠ '.') = rest at *
  split at guarded
  case isFalse => cases guarded
  case isTrue whole =>
    unfold readFraction at readRest
    split at readRest
    next =>
      cases readRest
      simp [whole, ← digitsValue_eq]
    next digits =>
      split at readRest
      next shape =>
        cases readRest
        refine ⟨by simp [whole], by simp [whole, shape], shape.2.1, ?_⟩
        have scale : (10 : ℚ) ^ 3 = 10 ^ digits.length * 10 ^ (3 - digits.length) := by
          rw [← pow_add, Nat.add_sub_cancel' shape.2.1]
        simp only [List.tail_cons]
        rw [Nat.ofDigitChars_append, Nat.ofDigitChars_eq_ofDigitChars_zero, ← digitsValue_eq, ← digitsValue_eq]
        push_cast
        field_simp
        linear_combination -(digitsValue digits : ℚ) * scale
      next => cases readRest
    next => cases readRest

theorem value_of_read {places} (enough : 3 ≤ places) (read : readSigned 3 letters = some milli) :
    value places letters = some (milli / 1000 : ℚ) := by
  unfold readSigned at read
  split at read
  next rest =>
    obtain ⟨number, unsigned, rfl⟩ := Option.map_eq_some_iff.mp read
    change (magnitude places rest).map (fun number => -number) = _
    rw [magnitude_mono (magnitude_of_read unsigned) enough, Option.map_some, Int.cast_neg, Int.cast_natCast, neg_div]
  next =>
    obtain ⟨number, unsigned, rfl⟩ := Option.map_eq_some_iff.mp read
    rw [value_of_magnitude (magnitude_mono (magnitude_of_read unsigned) enough), Int.cast_natCast]

theorem readSigned_print (milli : Int) : readSigned 3 (trim (formatMilliToQty milli).toList) = some milli := by
  by_cases negative : milli < 0
  · have text : (formatMilliToQty milli).toList = '-' :: (Nat.toDigits 10 (milli.natAbs / 1000) ++ '.' :: fractionDigits milli.natAbs) := by
      simp [formatMilliToQty, negative, fractionDigits, Nat.toList_repr, ← String.length_toList]
    rw [trim_formatMilliToQty, text, readSigned, readUnsigned_format, Option.map_some]
    congr 1
    omega
  · exact readSigned_format (Int.not_lt.mp negative)

/-- Both read what the text stands for, up to the spaces around it. -/
theorem denotes (read : readSigned 3 (trim text.toList) = some milli) : ∃ number, value 3 (trim text.toList) = some number ∧
    value 3 (formatMilliToQty milli).toList = some number :=
  ⟨_, value_of_read le_rfl read, trim_formatMilliToQty milli ▸ value_of_read le_rfl (readSigned_print milli)⟩

theorem parseQtyMillis_of_read (read : readSigned 3 (trim text.toList) = some milli) (positive : 0 < milli) :
    parseQtyMillis text = .ok milli := by
  unfold readSigned at read
  split at read
  next =>
    obtain ⟨number, -, rfl⟩ := Option.map_eq_some_iff.mp read
    omega
  next =>
    obtain ⟨number, unsigned, rfl⟩ := Option.map_eq_some_iff.mp read
    simp only [parseQtyMillis, trimmed, String.toList_ofList, eq_ok]
    exact ⟨number, (readUnsigned_some_iff.mp unsigned).1, (), by omega, rfl⟩

/-- What is formatted reads back, and what is read formats to a text that reads the same. -/
theorem quantity_codecs :
    (∀ milli, parseQtyToMilli (formatMilliToQty milli) true true = .ok milli ∧
      parseDecimalToMilli (formatMilliToDecimal milli) = .ok milli ∧
      (0 < milli → parseQtyMillis (formatQtyMillis milli) = .ok milli) ∧
      formatMilliToDecimal milli = formatMilliToQty milli ∧ formatQtyMillis milli = formatMilliToQty milli) ∧
    ∀ text milli,
      (∀ allowZero allowNegative, parseQtyToMilli text allowZero allowNegative = .ok milli →
        (∃ number, value 3 (trim text.toList) = some number ∧
          value 3 (formatMilliToQty milli).toList = some number) ∧
        (0 < milli → parseQtyMillis text = .ok milli)) ∧
      (parseDecimalToMilli text = .ok milli →
        (∃ number, value 3 (trim text.toList) = some number ∧
          value 3 (formatMilliToDecimal milli).toList = some number) ∧
        (0 < milli → parseQtyMillis text = .ok milli)) := by
  refine ⟨fun milli => ⟨?_, ?_, parseQtyMillis_format, rfl, rfl⟩, fun text milli => ⟨?_, ?_⟩⟩
  · simp only [parseQtyToMilli, checkQty, eq_ok]
    exact ⟨milli, readSigned_print milli, (), .inl trivial, (), .inl trivial, rfl⟩
  · exact required_eq_ok.mpr (readSigned_print milli)
  · intro allowZero allowNegative accepted
    simp only [parseQtyToMilli, eq_ok] at accepted
    obtain ⟨parsed, read, checked⟩ := accepted
    cases (checkQty_ok checked).1
    exact ⟨denotes read, parseQtyMillis_of_read read⟩
  · intro accepted
    have read := required_eq_ok.mp accepted
    exact ⟨denotes read, parseQtyMillis_of_read read⟩

theorem quantity_codecs_padded : parseQtyMillis " 12.5 " = .ok 12500 :=
  ((quantity_codecs.2 " 12.5 " 12500).2 rfl).2 (by decide)

end Inventory
