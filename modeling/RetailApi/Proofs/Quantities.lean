import RetailApi.Base.JsText
import RetailApi.Inventory.Domain

/-! A quantity the service prints is read back as the same quantity. -/

namespace Inventory

open Transaction JsString List Nat

theorem digitsValue_eq (digits : List Char) : digitsValue digits = ofDigitChars 10 digits 0 := by
  simp only [digitsValue, ofDigitChars, mul_comm]

theorem toDigits_leading {number} (positive : 0 < number) (rest : List Char) : Nat.toDigits 10 number ≠ '0' :: rest := by
  induction number using Nat.strongRecOn generalizing rest with
  | _ number inner =>
    intro same
    by_cases small : number < 10
    · rw [Nat.toDigits_of_lt_base small, cons.injEq] at same
      have code := Nat.toNat_digitChar_of_lt_ten small
      rw [same.1] at code
      simp at code
      omega
    · rw [Nat.toDigits_of_base_le (by decide) (by omega)] at same
      cases front : Nat.toDigits 10 (number / 10) with
      | nil => exact Nat.toDigits_ne_nil front
      | cons letter letters =>
        rw [front, cons_append, cons.injEq] at same
        exact inner (number / 10) (by omega) (by omega) letters (same.1 ▸ front)

theorem digit_not_point {letter} (digit : letter.isDigit = true) : decide (letter ≠ '.') = true := by
  simp only [decide_eq_true_eq]
  rintro rfl
  simp at digit

theorem all_isDigit_toDigits (number : Nat) : (toDigits 10 number).all Char.isDigit = true :=
  all_eq_true.mpr fun _ member => isDigit_of_mem_toDigits (by decide) (by decide) member

theorem readWhole_toDigits (number : Nat) : readWhole (Nat.toDigits 10 number) = some number := by
  by_cases zero : number = 0
  · subst zero
    rfl
  have digits := all_isDigit_toDigits number
  have value : digitsValue (Nat.toDigits 10 number) = number := by
    rw [digitsValue_eq, Nat.ofDigitChars_ten_toDigits]
  have leading := toDigits_leading (Nat.pos_of_ne_zero zero)
  unfold readWhole
  split
  · next empty => exact absurd empty Nat.toDigits_ne_nil
  · next single => exact absurd single (leading [])
  · next first rest _ same =>
    rw [← same, value, if_pos ⟨fun wrong => leading rest (wrong ▸ same), digits⟩]

def fractionDigits (milli : Nat) : List Char :=
  replicate (3 - (toDigits 10 (milli % 1000)).length) '0' ++ toDigits 10 (milli % 1000)

theorem fractionDigits_length (milli : Nat) : (fractionDigits milli).length = 3 := by
  have short : (toDigits 10 (milli % 1000)).length ≤ 3 :=
    (length_toDigits_le_iff (by decide) (by decide)).mpr (by omega)
  rw [fractionDigits, length_append, length_replicate]
  omega

theorem all_isDigit_fractionDigits (milli : Nat) : (fractionDigits milli).all Char.isDigit = true := by
  rw [fractionDigits, all_append, all_isDigit_toDigits, Bool.and_true]
  simp

theorem readFraction_fractionDigits (milli : Nat) : readFraction 3 ('.' :: fractionDigits milli) = some (milli % 1000) := by
  have length := fractionDigits_length milli
  have filled : fractionDigits milli ≠ [] := by
    intro empty
    rw [empty] at length
    cases length
  have value : digitsValue (fractionDigits milli) = milli % 1000 := by
    rw [digitsValue_eq, fractionDigits, ofDigitChars_append, ofDigitChars_replicate_zero, mul_zero,
      ofDigitChars_ten_toDigits]
  rw [readFraction, if_pos ⟨filled, length.le, all_isDigit_fractionDigits milli⟩, value, length]
  simp

theorem toList_formatMilliToQty {milli} (nonnegative : 0 ≤ milli) : (formatMilliToQty milli).toList =
      toDigits 10 (milli.natAbs / 1000) ++ '.' :: fractionDigits milli.natAbs := by
  rw [formatMilliToQty, if_neg (by omega)]
  simp [fractionDigits, toList_repr, ← String.length_toList]

theorem readUnsigned_format (milli : Nat) :
    readUnsigned 3 (toDigits 10 (milli / 1000) ++ '.' :: fractionDigits milli) = some milli := by
  have whole : (toDigits 10 (milli / 1000) ++ '.' :: fractionDigits milli).span (· ≠ '.') =
      (toDigits 10 (milli / 1000), '.' :: fractionDigits milli) := by
    have plain : ∀ letter ∈ toDigits 10 (milli / 1000), decide (letter ≠ '.') = true :=
      fun letter member => digit_not_point (isDigit_of_mem_toDigits (by decide) (by decide) member)
    rw [span_eq_takeWhile_dropWhile, takeWhile_append_of_pos plain, dropWhile_append_of_pos plain]
    simp
  rw [readUnsigned, whole]
  simp only [readWhole_toDigits, readFraction_fractionDigits, Option.bind_eq_bind, Option.bind_some, Option.pure_def]
  congr 1
  omega

theorem mem_formatMilliToQty {milli letter} (member : letter ∈ (formatMilliToQty milli).toList) :
    letter = '-' ∨ letter = '.' ∨ letter.isDigit = true := by
  have digits : ∀ number, letter ∈ toDigits 10 number → letter.isDigit = true :=
    fun number inside => all_eq_true.mp (all_isDigit_toDigits number) letter inside
  have zeros : ∀ count, letter ∈ replicate count '0' → letter.isDigit = true := by
    intro count inside
    rw [eq_of_mem_replicate inside]
    rfl
  simp only [formatMilliToQty, String.toList_append, String.toList_ofList, mem_append, toString_eq_repr,
    toList_repr] at member
  rcases member with (((sign | whole) | point) | filled) | fraction
  · split at sign
    · exact .inl (by simpa using sign)
    · simp at sign
  · exact .inr (.inr (digits _ whole))
  · exact .inr (.inl (by simpa using point))
  · exact .inr (.inr (zeros _ filled))
  · exact .inr (.inr (digits _ fraction))

theorem trim_formatMilliToQty (milli : Int) : trim (formatMilliToQty milli).toList = (formatMilliToQty milli).toList := by
  apply trim_of_plain
  intro letter member
  rcases mem_formatMilliToQty member with rfl | rfl | digit
  · decide
  · decide
  · exact digit_not_space digit

theorem formatMilliToQty_signless {milli} (nonnegative : 0 ≤ milli) (letters : List Char) :
    (formatMilliToQty milli).toList ≠ '-' :: letters := by
  intro same
  obtain ⟨letter, rest, whole⟩ := exists_cons_of_ne_nil (toDigits_ne_nil (n := milli.natAbs / 1000) (b := 10))
  have digit := all_eq_true.mp (all_isDigit_toDigits (milli.natAbs / 1000)) letter (by simp [whole])
  rw [toList_formatMilliToQty nonnegative, whole, cons_append, cons.injEq] at same
  rw [same.1] at digit
  simp at digit

theorem readSigned_format {milli} (nonnegative : 0 ≤ milli) :
    readSigned 3 (trim (formatMilliToQty milli).toList) = some milli := by
  have read := readUnsigned_format milli.natAbs
  rw [← toList_formatMilliToQty nonnegative] at read
  rw [trim_formatMilliToQty]
  unfold readSigned
  split
  · next rest same => exact absurd same (formatMilliToQty_signless nonnegative rest)
  · rw [read, Option.map_some, Int.natAbs_of_nonneg nonnegative]

theorem parseQtyToMilli_format {milli} (positive : 0 < milli) :
    parseQtyToMilli (formatMilliToQty milli) false false = .ok milli := by
  simp only [parseQtyToMilli, checkQty, eq_ok]
  exact ⟨milli, readSigned_format positive.le, (), .inr positive.le, (), .inr positive.ne', rfl⟩

end Inventory
