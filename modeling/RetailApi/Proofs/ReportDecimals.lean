import Mathlib.Tactic.LinearCombination
import RetailApi.Insight.Valuation
import RetailApi.Proofs.Quantities

/-! The decimals of the reports: sums are exact, products and prints are rounded half away from zero. -/

namespace Insight

open JsString Inventory Decimal List Int

variable {letters : List Char} {text : String} {number : ℚ} {scaled : Scaled} {decimals : Nat}

theorem padded_places {digits} (short : digits.length ≤ 4) :
    digitsValue (((digits ++ replicate 5 '0').take 5).take 4) = digitsValue digits * 10 ^ (4 - digits.length) ∧
      digitsValue (((digits ++ replicate 5 '0').take 5).drop 4) = 0 := by
  match digits, short with
  | [], _ => decide
  | [_], _ => simp [digitsValue]; omega
  | [_, _], _ => simp [digitsValue]; omega
  | [_, _, _], _ => simp [digitsValue]
  | [_, _, _, _], _ => simp [digitsValue]

theorem readMagnitude_of_read (read : magnitude 4 letters = some number) : (readMagnitude letters : ℚ) = number * 10 ^ 4 := by
  obtain ⟨-, all, short, rfl⟩ := magnitude_some_iff.mp read
  have span : letters.span (· ≠ '.') = ((parts letters).1, letters.dropWhile (· ≠ '.')) :=
    span_eq_takeWhile_dropWhile _ _
  have tail : (letters.dropWhile (· ≠ '.')).tail = (parts letters).2 := rfl
  generalize parts letters = shape at *
  obtain ⟨units, digits⟩ := shape
  rw [all_append, Bool.and_eq_true] at all
  have kept {letters : List Char} (digits : letters.all Char.isDigit = true) : onlyDigits letters = letters :=
    filter_eq_self.mpr (all_eq_true.mp digits)
  have plain : digits.takeWhile (· ≠ '.') = digits :=
    takeWhile_eq_self_iff.mpr fun letter member => digit_not_point (all_eq_true.mp all.2 letter member)
  simp only [readMagnitude, span, tail, plain, kept all.1, kept all.2]
  rw [(padded_places short).1, (padded_places short).2, if_neg (by decide), Nat.ofDigitChars_append,
    Nat.ofDigitChars_eq_ofDigitChars_zero, ← digitsValue_eq, ← digitsValue_eq]
  have scale : (10 : ℚ) ^ 4 = 10 ^ digits.length * 10 ^ (4 - digits.length) := by
    rw [← pow_add, Nat.add_sub_cancel' short]
  push_cast
  field_simp
  linear_combination -(digitsValue digits : ℚ) * scale

theorem spaceless (read : magnitude decimals letters = some number) : ∀ letter ∈ letters, isSpace letter = false := by
  intro letter member
  rcases mem_of_magnitude read letter member with rfl | digit
  · decide
  · exact digit_not_space digit

theorem trim_of_value (read : value decimals letters = some number) : trim letters = letters := by
  apply trim_of_plain
  unfold value at read
  split at read
  next =>
    obtain ⟨_, unsigned, _⟩ := Option.map_eq_some_iff.mp read
    exact forall_mem_cons.mpr ⟨by decide, spaceless unsigned⟩
  next => exact forall_mem_cons.mpr ⟨by decide, spaceless read⟩
  next => exact spaceless read

theorem parseScaledDecimal_of_value (read : value 4 (trim text.toList) = some number) :
    (parseScaledDecimal text : ℚ) = number * 10 ^ 4 := by
  have filled : ¬(trim text.toList = [] ∨ trim text.toList = ['N', 'a', 'N']) := by
    rintro (empty | word)
    · rw [empty] at read
      cases read
    · rw [word] at read
      cases read
  simp only [parseScaledDecimal, if_neg filled]
  generalize trim text.toList = raw at *
  unfold value at read
  split at read
  next rest =>
    obtain ⟨number, unsigned, rfl⟩ := Option.map_eq_some_iff.mp read
    simp only [trim_of_plain (spaceless unsigned), cast_neg, cast_natCast, readMagnitude_of_read unsigned, neg_mul]
  next rest => simp only [trim_of_plain (spaceless read), cast_natCast, readMagnitude_of_read read]
  next signless plusless =>
    have plain : ((readMagnitude raw : Int) : ℚ) = number * 10 ^ 4 := by rw [cast_natCast, readMagnitude_of_read read]
    grind

namespace Decimals

/-- Sums and prints are made of the same letters as any number. -/
theorem toList_format (scaled : Scaled) (small : decimals ≤ 4) : ∃ rounded : Nat,
    (formatScaledDecimal scaled decimals).toList = print (decide (scaled < 0) && decide (0 < rounded)) decimals rounded ∧
      (if scaled < 0 then -1 else 1) * (rounded : Int) = roundHalfAway (scaled / 10 ^ 4 * 10 ^ decimals) := by
  have factor : (scaled : ℚ) / 10 ^ 4 * 10 ^ decimals = scaled / ((10 ^ (4 - decimals) : Nat) : ℚ) := by
    have scale : (10 : ℚ) ^ 4 = 10 ^ decimals * 10 ^ (4 - decimals) := by rw [← pow_add, Nat.add_sub_cancel' small]
    rw [scale]
    push_cast
    field_simp
  refine ⟨(scaled.natAbs + 10 ^ (4 - decimals) / 2) / 10 ^ (4 - decimals), ?_, ?_⟩
  · have split (rounded targetScale : Nat) : (0 < rounded / targetScale ∨ 0 < rounded % targetScale) ↔ 0 < rounded := by
      have whole := Nat.div_add_mod rounded targetScale
      rcases Nat.eq_zero_or_pos rounded with rfl | positive
      · simp
      · refine ⟨fun _ => positive, fun _ => ?_⟩
        by_contra none_
        simp only [not_or, Nat.not_lt, Nat.le_zero] at none_
        rw [none_.1, none_.2, Nat.mul_zero] at whole
        omega
    by_cases whole : decimals = 0
    · subst whole
      simp [formatScaledDecimal, print, Nat.toList_repr, apply_ite String.toList]
    · simp only [formatScaledDecimal, print, if_neg whole, split]
      simp [Nat.toList_repr, apply_ite String.toList]
  · rw [factor, roundHalfAway_div scaled (Nat.pow_pos (by decide))]

theorem value_format (small : decimals ≤ 4) : value decimals (formatScaledDecimal scaled decimals).toList =
    some ((roundHalfAway (scaled / 10 ^ 4 * 10 ^ decimals) : ℚ) / 10 ^ decimals) := by
  obtain ⟨rounded, text, same⟩ := toList_format scaled small
  rw [text, value_print, ← same]
  rcases Nat.eq_zero_or_pos rounded with rfl | positive
  · simp
  · simp only [positive, decide_true, Bool.and_true, decide_eq_true_eq, cast_mul, cast_natCast, mul_div_assoc]
    split
    · simp
    · simp

theorem value_format_exact (scaled : Scaled) : value 4 (formatScaledDecimal scaled 4).toList = some ((scaled : ℚ) / 10 ^ 4) := by
  rw [value_format Nat.le.refl, div_mul_cancel₀ _ (by norm_num), roundHalfAway_intCast]

theorem negative_of_sign (small : decimals ≤ 4) (sign : (formatScaledDecimal scaled decimals).toList.head? = some '-') :
    ∃ number < 0, value decimals (formatScaledDecimal scaled decimals).toList = some number := by
  obtain ⟨rounded, text, -⟩ := toList_format scaled small
  rw [text] at sign ⊢
  cases negative : decide (scaled < 0) && decide (0 < rounded) with
  | false =>
    rw [negative] at sign
    simpa using mem_of_magnitude (magnitude_print _ _) '-' (mem_of_head? sign)
  | true =>
    rw [value_print, if_pos rfl, neg_one_mul]
    rw [Bool.and_eq_true, decide_eq_true_eq, decide_eq_true_eq] at negative
    refine ⟨_, ?_, rfl⟩
    have positive : (0 : ℚ) < rounded := Nat.cast_pos.mpr negative.2
    exact neg_neg_of_pos (by positivity)

theorem mulScaled_eq (first second : Int) : mulScaled first second = roundHalfAway (first * second / 10 ^ 4) := by
  have scale : ((10 ^ 4 : Nat) : ℚ) = 10 ^ 4 := by norm_num
  rw [← cast_mul, ← scale, roundHalfAway_div (first * second) (by decide), mulScaled, wholeMoney]
  generalize first * second = product
  change (if product < 0 then -((-product + 5000) / 10000) else (product + 5000) / 10000) = _
  split
  · omega
  · omega

/-- Four decimals read back as they were; fewer are rounded half away from zero, as products are. -/
theorem report_decimals :
    (∀ scaled, parseScaledDecimal (formatScaledDecimal scaled 4) = scaled) ∧
    (∀ scaled : Scaled, ∀ decimals ≤ 4,
      value decimals (formatScaledDecimal scaled decimals).toList = some ((roundHalfAway (scaled / 10 ^ 4 * 10 ^ decimals) : ℚ) / 10 ^ decimals) ∧
      ((formatScaledDecimal scaled decimals).toList.head? = some '-' →
        ∃ number < 0, value decimals (formatScaledDecimal scaled decimals).toList = some number)) ∧
    ∀ a b first second, value 4 (trim a.toList) = some first → value 4 (trim b.toList) = some second →
      value 4 (addDecimals a b 4).toList = some (first + second) ∧
      value 4 (subDecimals a b 4).toList = some (first - second) ∧
      value 4 (mulDecimals a b 4).toList = some ((roundHalfAway (first * second * 10 ^ 4) : ℚ) / 10 ^ 4) := by
  refine ⟨?_, fun _ _ small => ⟨value_format small, negative_of_sign small⟩, ?_⟩
  · intro scaled
    have exact_ := value_format_exact scaled
    rw [← trim_of_value exact_] at exact_
    have read := parseScaledDecimal_of_value exact_
    rw [div_mul_cancel₀ _ (by norm_num)] at read
    exact_mod_cast read
  · intro a b first second readFirst readSecond
    have one := parseScaledDecimal_of_value readFirst
    have other := parseScaledDecimal_of_value readSecond
    refine ⟨?_, ?_, ?_⟩
    · rw [addDecimals, value_format_exact, cast_add, one, other]
      congr 1
      ring
    · rw [subDecimals, value_format_exact, cast_sub, one, other]
      congr 1
      ring
    · rw [mulDecimals, value_format_exact, mulScaled_eq, one, other]
      congr 4
      ring

theorem report_decimals_rounded : value 4 (mulDecimals "-1.5" "+0.0003" 4).toList =
    some ((roundHalfAway (-1.5 * 0.0003 * 10 ^ 4) : ℚ) / 10 ^ 4) :=
  (report_decimals.2.2 _ _ _ _ (by decide +kernel) (by decide +kernel)).2.2

end Decimals

end Insight
