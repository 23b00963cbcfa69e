import RetailApi.Proofs.OrderQuantities
import RetailApi.Sales.Quote

/-! A quantity in a unit as sales and as inventory bring it to the base unit: sales reads leading zeros and does not
ask whether rounding left anything. -/

namespace Sales

open Transaction JsString Inventory

/-- The base quantity of a line, as `priceLine` finds it. -/
def lineBaseQty (qty : String) (conversionFactor : Option String) : Except Failure Int := do
  let qtyMillis ← parseQtyMillis qty
  let factor ← parseConversionFactor (conversionFactor.getD "")
  return computeBaseQtyMillis qtyMillis factor

theorem priceLine_baseQty {catalogMap lineNo reqLine catalog line} (found : catalogMap reqLine.variantId = some catalog)
    (priced : priceLine catalogMap lineNo reqLine = .ok line) :
    lineBaseQty reqLine.qty (some catalog.conversionFactor) = .ok line.baseQtyMillis := by
  simp only [priceLine, eq_ok] at priced
  obtain ⟨_, same, _, _, _, _, _, _, millis, read, factor, readFactor, _, _, _, _, _, _, rfl⟩ := priced
  cases found.symm.trans same
  simp only [lineBaseQty, eq_ok]
  exact ⟨millis, read, factor, readFactor, rfl⟩

/-- The number a text writes, in thousandths. -/
def writtenQty (qty : String) : Option Nat := readDecimal 3 (trim qty.toList)

/-- The number a factor writes, in ten-thousandths; a factor left out is one. -/
def writtenFactor (conversionFactor : Option String) : Option Nat :=
  if conversionFactor.getD "" = "" then some 10000 else readDecimal 4 (trim (conversionFactor.getD "").toList)

/-- Neither text has a leading zero, and a half of the last place is reached. -/
def SameGrammar (qty : String) (conversionFactor : Option String) : Prop :=
  ∀ number ∈ writtenQty qty, ∀ factor ∈ writtenFactor conversionFactor, 0 < number * factor →
    ¬ LeadingZero (trim qty.toList) ∧ ¬ LeadingZero (trim (conversionFactor.getD "").toList) ∧ 5000 ≤ number * factor

variable {qty : String} {conversionFactor : Option String} {base : Int}

theorem parseQtyMillis_iff {millis} : parseQtyMillis qty = .ok millis ↔
    ∃ number : Nat, writtenQty qty = some number ∧ 0 < number ∧ number = millis := by
  have read (letters : List Char) : readQty letters = readDecimal 3 letters := rfl
  simp only [parseQtyMillis, eq_ok, writtenQty, read, trimmed, String.toList_ofList, exists_const]

theorem parseConversionFactor_iff {tenThousandths} : parseConversionFactor (conversionFactor.getD "") = .ok tenThousandths ↔
    ∃ factor : Nat, writtenFactor conversionFactor = some factor ∧ 0 < factor ∧ factor = tenThousandths := by
  have read (letters : List Char) : readFactor letters = readDecimal 4 letters := rfl
  unfold parseConversionFactor writtenFactor
  split
  · simp
  · simp only [eq_ok, read, trimmed, String.toList_ofList, exists_const]

/-- Inventory reads a sign as well, and then refuses what it makes negative. -/
theorem parseQtyToMilli_iff {millis} : parseQtyToMilli qty false false = .ok millis ↔
    ∃ number : Nat, (writtenQty qty = some number ∧ ¬ LeadingZero (trim qty.toList)) ∧ 0 < number ∧ number = millis := by
  simp only [parseQtyToMilli, checkQty, eq_ok, writtenQty, ← readUnsigned_some_iff, exists_const]
  generalize trim qty.toList = letters
  unfold readSigned
  split
  next rest =>
    have refused : readUnsigned 3 ('-' :: rest) = none := by
      cases read : readUnsigned 3 ('-' :: rest) with
      | none => rfl
      | some number =>
        simp [readUnsigned_some_iff, readDecimal, guard] at read
    simp only [refused, Option.map_eq_some_iff, reduceCtorEq, false_and, exists_false, iff_false]
    intro found
    obtain ⟨_, ⟨number, _, negated⟩, sign, zero, _⟩ := found
    simp only [false_or] at sign zero
    omega
  next =>
    simp only [Option.map_eq_some_iff, Bool.false_eq_true, false_or]
    constructor
    · intro found
      obtain ⟨_, ⟨number, read, same⟩, _, zero, rfl⟩ := found
      exact ⟨number, read, by omega, same⟩
    · intro found
      obtain ⟨number, read, positive, same⟩ := found
      exact ⟨millis, ⟨number, read, same⟩, by omega, by omega, rfl⟩

theorem parseConversionFactorToTenThousandths_iff {tenThousandths} :
    parseConversionFactorToTenThousandths conversionFactor = .ok tenThousandths ↔
    ∃ factor : Nat, (writtenFactor conversionFactor = some factor ∧ ¬ LeadingZero (trim (conversionFactor.getD "").toList)) ∧
      0 < factor ∧ factor = tenThousandths := by
  unfold parseConversionFactorToTenThousandths writtenFactor
  split
  · simp [trim, LeadingZero]
  · simp [trim, LeadingZero]
  next text filled =>
    simp only [eq_ok, exists_const, Option.getD_some, readUnsigned_some_iff]
    rw [if_neg]
    exact filled

/-- The pair is accepted by both or by neither, with one result, and that is positive. -/
structure ConvertsAlike (qty : String) (conversionFactor : Option String) : Prop where
  same : ∀ base, lineBaseQty qty conversionFactor = .ok base ↔ convertToBaseQtyMilli qty conversionFactor = .ok base
  positive : ∀ base, lineBaseQty qty conversionFactor = .ok base → 0 < base

theorem lineBaseQty_iff : lineBaseQty qty conversionFactor = .ok base ↔
    ∃ number factor : Nat, (writtenQty qty = some number ∧ 0 < number) ∧
      (writtenFactor conversionFactor = some factor ∧ 0 < factor) ∧ ((number * factor + 5000) / 10000 : Nat) = base := by
  simp only [lineBaseQty, eq_ok, parseQtyMillis_iff, parseConversionFactor_iff, computeBaseQtyMillis]
  constructor
  · intro ⟨_, ⟨number, written, positive, rfl⟩, _, ⟨factor, factorWritten, factorPositive, rfl⟩, made⟩
    exact ⟨number, factor, ⟨written, positive⟩, ⟨factorWritten, factorPositive⟩, by exact_mod_cast made⟩
  · intro ⟨number, factor, ⟨written, positive⟩, ⟨factorWritten, factorPositive⟩, made⟩
    exact ⟨_, ⟨number, written, positive, rfl⟩, _, ⟨factor, factorWritten, factorPositive, rfl⟩, by exact_mod_cast made⟩

theorem convertToBaseQtyMilli_iff : convertToBaseQtyMilli qty conversionFactor = .ok base ↔
    (lineBaseQty qty conversionFactor = .ok base ∧ 0 < base) ∧
      ¬ LeadingZero (trim qty.toList) ∧ ¬ LeadingZero (trim (conversionFactor.getD "").toList) := by
  simp only [convertToBaseQtyMilli, lineBaseQty, eq_ok, parseQtyToMilli_iff, parseQtyMillis_iff,
    parseConversionFactor_iff, parseConversionFactorToTenThousandths_iff, computeBaseQtyMillis]
  constructor
  · intro found
    obtain ⟨_, ⟨number, ⟨written, plain⟩, positive, rfl⟩, _, ⟨factor, ⟨factorWritten, factorPlain⟩, factorPositive, rfl⟩, _,
      left, made⟩ := found
    exact ⟨⟨⟨_, ⟨number, written, positive, rfl⟩, _, ⟨factor, factorWritten, factorPositive, rfl⟩, made⟩, made ▸ left⟩, plain,
      factorPlain⟩
  · intro found
    obtain ⟨⟨⟨_, ⟨number, written, positive, rfl⟩, _, ⟨factor, factorWritten, factorPositive, rfl⟩, made⟩, left⟩, plain,
      factorPlain⟩ := found
    exact ⟨_, ⟨number, ⟨written, plain⟩, positive, rfl⟩, _, ⟨factor, ⟨factorWritten, factorPlain⟩, factorPositive, rfl⟩, (),
      made ▸ left, made⟩

/-- The conversions compute alike. They part over what they read: a leading zero, or a line that comes to nothing. -/
theorem convertsAlike_iff (qty : String) (conversionFactor : Option String) :
    ConvertsAlike qty conversionFactor ↔ SameGrammar qty conversionFactor := by
  constructor
  · intro alike number written factor factorWritten positive
    have converted := lineBaseQty_iff.mpr ⟨number, factor, ⟨written, Nat.pos_of_mul_pos_right positive⟩,
      ⟨factorWritten, Nat.pos_of_mul_pos_left positive⟩, rfl⟩
    obtain ⟨⟨_, left⟩, plain, factorPlain⟩ := convertToBaseQtyMilli_iff.mp ((alike.same _).mp converted)
    exact ⟨plain, factorPlain, by omega⟩
  · intro grammar
    have agreed {base} (converted : lineBaseQty qty conversionFactor = .ok base) :
        convertToBaseQtyMilli qty conversionFactor = .ok base := by
      apply convertToBaseQtyMilli_iff.mpr
      obtain ⟨number, factor, ⟨written, positive⟩, ⟨factorWritten, factorPositive⟩, made⟩ := lineBaseQty_iff.mp converted
      have both := grammar number written factor factorWritten (Nat.mul_pos positive factorPositive)
      exact ⟨⟨converted, by omega⟩, both.1, both.2.1⟩
    refine ⟨fun base => ⟨agreed, fun accepted => (convertToBaseQtyMilli_iff.mp accepted).1.1⟩, ?_⟩
    intro base converted
    exact (convertToBaseQtyMilli_iff.mp (agreed converted)).1.2

/-- A thousandth of a unit that is a ten-thousandth of the base unit: sales prices it, inventory refuses it. -/
theorem rounded_to_nothing : ¬ ConvertsAlike "0.001" (some "0.0001") := by
  intro alike
  have converted : lineBaseQty "0.001" (some "0.0001") = .ok 0 :=
    lineBaseQty_iff.mpr ⟨1, 1, by decide +kernel, by decide +kernel, rfl⟩
  exact absurd (alike.positive 0 converted) (lt_irrefl 0)

end Sales
