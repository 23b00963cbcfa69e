import RetailApi.Base.JsString
import RetailApi.Base.Transaction

/-! The value rules of the inventory service: quantities in thousandths of a unit,
money in whole VND, moving-average cost, and the failures its operations report. -/

namespace Inventory

open Transaction JsString

/-- Identifiers as the `uuid` columns hold them. -/
abbrev Uuid := Nat

/-- A text a request carries where an identifier is expected. Two spellings of one
uuid (they differ in letter case) are different texts but the same `uuid` value;
spelling 0 is the lower-case one the database prints. -/
inductive Text where
  | uuid (id : Uuid) (spelling : Nat)
  | word (letters : String)
deriving DecidableEq

/-- `value::text` of a `uuid` column. -/
def Text.ofUuid (id : Uuid) : Text := .uuid id 0

def Text.print : Text → String
  | .uuid id _ => toString id
  | .word letters => letters

instance : ToString Text := ⟨Text.print⟩

/-- `localeCompare`: by identifier, letter case breaking ties, other texts last. -/
def Text.le : Text → Text → Bool
  | .uuid left leftSpelling, .uuid right rightSpelling =>
    left < right || left == right && leftSpelling ≤ rightSpelling
  | .uuid _ _, .word _ => true
  | .word _, .uuid _ _ => false
  | .word left, .word right => left ≤ right

inductive InventoryDomainErrorCode where
  | warehouseNotFound | warehouseInactive | warehouseNotInBranch | branchHasNoWarehouse
  | skuNotFound | skuNotSellable | insufficientStock | idempotencyConflict
  | invalidQuantity | invalidMoneyAmount | invalidUnitConversion
  | stockReceiptNotFound | stockReceiptAlreadyPosted | stockReceiptInvalidState
  | stockIssueNotFound | stockIssueAlreadyPosted | stockIssueInvalidState
  | transferNotFound | transferSameWarehouse | transferInvalidState | transferQuantityMismatch
  | transferDuplicateSku | transferQuarantineNotAllowed
  | stocktakeNotFound | stocktakeInvalidState | stocktakeStaleSnapshot | stocktakeBelowReserved
  | supplierNotFound | supplierInactive
  | purchaseOrderNotFound | purchaseOrderInvalidState | overReceiptNotAllowed | permissionDenied
  | branchNotFound | branchNotActive | warehouseBranchInvalid | warehouseBranchLocked | warehouseCodeConflict
  | warehouseIsDefault | warehouseHasPendingOperations

inductive WarehouseReservationErrorCode where
  | missingIdempotencyKey | idempotencyConflict | invalidQuantity | insufficientStock
  | reservationNotFound | invalidReservationState | branchRequired

inductive Failure where
  | domain (code : InventoryDomainErrorCode) (message : String) (httpStatus : Nat)
  | reservation (code : WarehouseReservationErrorCode) (message : String) (httpStatus : Nat)
  /-- A constraint or a cast of the database refuses the statement. -/
  | database (constraint : String)
  | undefinedRow
  /-- A bare `Error`. -/
  | plain (message : String)

/-- `$n::uuid`: the cast forgets the spelling. -/
def Text.toUuid : Text → Except Failure Uuid
  | .uuid id _ => .ok id
  | .word _ => .error (.database "invalid input syntax for type uuid")

@[simp] theorem Text.toUuid_ofUuid (id : Uuid) : (Text.ofUuid id).toUuid = .ok id := rfl

def digitsValue (digits : List Char) : Nat :=
  digits.foldl (fun value digit => value * 10 + (digit.toNat - '0'.toNat)) 0

/-- `(0|[1-9]\d*)` -/
def readWhole (letters : List Char) : Option Nat :=
  match letters with
  | [] => none
  | ['0'] => some 0
  | first :: rest =>
    if first ≠ '0' ∧ (first :: rest).all Char.isDigit then some (digitsValue (first :: rest)) else none

/-- `(?:\.(\d{1,places}))?`, padded with zeros to `places` digits. -/
def readFraction (places : Nat) (letters : List Char) : Option Nat :=
  match letters with
  | [] => some 0
  | '.' :: digits =>
    if digits ≠ [] ∧ digits.length ≤ places ∧ digits.all Char.isDigit then
      some (digitsValue digits * 10 ^ (places - digits.length))
    else none
  | _ => none

def readUnsigned (places : Nat) (letters : List Char) : Option Nat := do
  let (whole, rest) := letters.span (· ≠ '.')
  let units ← readWhole whole
  let fraction ← readFraction places rest
  return units * 10 ^ places + fraction

def readSigned (places : Nat) (letters : List Char) : Option Int :=
  match letters with
  | '-' :: rest => (readUnsigned places rest).map fun value : Nat => -(value : Int)
  | _ => (readUnsigned places letters).map fun value : Nat => (value : Int)

def formatMilliToQty (milli : Int) : String :=
  let fraction := toString (milli.natAbs % 1000)
  (if milli < 0 then "-" else "") ++ toString (milli.natAbs / 1000) ++ "."
    ++ String.ofList (List.replicate (3 - fraction.length) '0') ++ fraction

/-- The sign checks of `parseQtyToMilli`. -/
def checkQty (value : String) (milli : Int) (allowZero allowNegative : Bool) : Except Failure Int := do
  ensure (allowNegative = true ∨ 0 ≤ milli)
    (.domain .invalidQuantity s!"Quantity \"{value}\" cannot be negative" 400)
  ensure (allowZero = true ∨ milli ≠ 0)
    (.domain .invalidQuantity s!"Quantity \"{value}\" must be strictly greater than zero" 400)
  return milli

def parseQtyToMilli (value : String) (allowZero allowNegative : Bool) : Except Failure Int := do
  let milli ← required (readSigned 3 (trim value.toList))
    (.domain .invalidQuantity s!"Invalid decimal quantity \"{value}\" (expected NUMERIC(18,3))" 400)
  checkQty value milli allowZero allowNegative

variable {value : String} {milli onHand avg : Int} {result : WeightedAverageCostResult}

theorem checkQty_ok {parsed} {allowZero allowNegative : Bool}
    (accepted : checkQty value milli allowZero allowNegative = .ok parsed) :
    parsed = milli ∧ (allowNegative = false → 0 ≤ milli) ∧ (allowZero = false → milli ≠ 0) := by
  simp only [checkQty, eq_ok] at accepted
  obtain ⟨_, sign, _, zero, rfl⟩ := accepted
  refine ⟨rfl, fun refused => ?_, fun refused => ?_⟩
  · simpa [refused] using sign
  · simpa [refused] using zero

theorem parseQtyToMilli_nonneg {allowZero : Bool} (accepted : parseQtyToMilli value allowZero false = .ok milli) : 0 ≤ milli := by
  simp only [parseQtyToMilli, eq_ok] at accepted
  obtain ⟨parsed, _, checked⟩ := accepted
  obtain ⟨rfl, sign, _⟩ := checkQty_ok checked
  exact sign rfl

theorem parseQtyToMilli_pos (accepted : parseQtyToMilli value false false = .ok milli) : 0 < milli := by
  simp only [parseQtyToMilli, eq_ok] at accepted
  obtain ⟨parsed, _, checked⟩ := accepted
  obtain ⟨rfl, sign, zero⟩ := checkQty_ok checked
  have nonnegative := sign rfl
  have nonzero := zero rfl
  omega

/-- `Number.MAX_SAFE_INTEGER` -/
def maxSafeInteger : Int := 2 ^ 53 - 1

def parseMoneyToVnd (value : Int) : Except Failure Int := do
  ensure (0 ≤ value ∧ value ≤ maxSafeInteger)
    (.domain .invalidMoneyAmount s!"Invalid money amount \"{value}\" (expected non-negative integer VND)" 400)
  return value

def vndToNumber (vnd : Int) : Except Failure Int := do
  ensure (-maxSafeInteger ≤ vnd ∧ vnd ≤ maxSafeInteger)
    (.domain .invalidMoneyAmount s!"Money amount {vnd} exceeds the safe integer range" 400)
  return vnd

def parseConversionFactorToTenThousandths (value : Option String) : Except Failure Int :=
  match value with
  | none | some "" => .ok 10000
  | some text => do
    let factor ← required (readUnsigned 4 (trim text.toList))
      (.domain .invalidUnitConversion
        s!"Invalid unit conversion factor \"{text}\" (expected positive NUMERIC(18,4))" 400)
    ensure (0 < factor)
      (.domain .invalidUnitConversion s!"Unit conversion factor \"{text}\" must be greater than zero" 400)
    return factor

def convertToBaseQtyMilli (qtyInput : String) (conversionFactor : Option String) : Except Failure Int := do
  let rawMilli ← parseQtyToMilli qtyInput false false
  let factor ← parseConversionFactorToTenThousandths conversionFactor
  let converted := (rawMilli * factor + 5000) / 10000
  ensure (0 < converted)
    (.domain .invalidUnitConversion "Converted base quantity must be strictly positive" 400)
  return converted

/-- `round_half_up(qty * cost)` in whole VND. No operand is ever negative, so `BigInt`
division is Lean's. -/
def valueOf (qtyMilli costVnd : Int) : Int := (qtyMilli * costVnd + 500) / 1000

structure WeightedAverageCostResult where
  newOnHandMilli : Int
  newAvgCostVnd : Int
  newValuationVnd : Int

def computeWeightedAverageCostOnReceipt (currentOnHand currentAvgUnitCost receivedBase receivedUnitCost : Int) :
    Except Failure WeightedAverageCostResult := do
  let addQtyMilli ← checkQty (formatMilliToQty receivedBase) receivedBase false false
  let newOnHandMilli := currentOnHand + addQtyMilli
  let totalWeighted := currentOnHand * currentAvgUnitCost + addQtyMilli * receivedUnitCost
  let newAvgCostVnd ← vndToNumber ((totalWeighted + newOnHandMilli / 2) / newOnHandMilli)
  let newValuationVnd ← vndToNumber (valueOf newOnHandMilli newAvgCostVnd)
  return { newOnHandMilli, newAvgCostVnd, newValuationVnd }

/-- The average cost stays on outbound movements; an empty shelf is worth nothing. -/
def computeValuationAfterDeduction (currentOnHand currentAvgUnitCost deductedBase : Int) :
    Except Failure WeightedAverageCostResult := do
  let deductMilli ← checkQty (formatMilliToQty deductedBase) deductedBase false false
  ensure (deductMilli ≤ currentOnHand) (.domain .insufficientStock
    s!"Cannot deduct {formatMilliToQty deductMilli} from on-hand {formatMilliToQty currentOnHand}" 409)
  let newOnHandMilli := currentOnHand - deductMilli
  let newValuationVnd := if newOnHandMilli = 0 then 0 else valueOf newOnHandMilli currentAvgUnitCost
  let newAvgCostVnd ← vndToNumber currentAvgUnitCost
  let newValuationVnd ← vndToNumber newValuationVnd
  return { newOnHandMilli, newAvgCostVnd, newValuationVnd }

@[simp] theorem valueOf_zero (costVnd : Int) : valueOf 0 costVnd = 0 := by
  simp [valueOf]

theorem vndToNumber_ok {vnd number} (converted : vndToNumber vnd = .ok number) : number = vnd := by
  simp only [vndToNumber, eq_ok] at converted
  obtain ⟨_, _, rfl⟩ := converted
  rfl

theorem computeWeightedAverageCostOnReceipt_ok {received cost}
    (computed : computeWeightedAverageCostOnReceipt onHand avg received cost = .ok result) :
    0 < received ∧ result.newOnHandMilli = onHand + received ∧
      result.newValuationVnd = valueOf result.newOnHandMilli result.newAvgCostVnd := by
  simp only [computeWeightedAverageCostOnReceipt, eq_ok] at computed
  obtain ⟨added, checked, average, averaged, value, valued, rfl⟩ := computed
  obtain ⟨rfl, sign, zero⟩ := checkQty_ok checked
  have nonnegative := sign rfl
  have nonzero := zero rfl
  exact ⟨by omega, rfl, vndToNumber_ok valued⟩

theorem computeValuationAfterDeduction_ok {deducted}
    (computed : computeValuationAfterDeduction onHand avg deducted = .ok result) :
    0 < deducted ∧ deducted ≤ onHand ∧ result.newOnHandMilli = onHand - deducted ∧ result.newAvgCostVnd = avg ∧
      result.newValuationVnd = valueOf result.newOnHandMilli avg := by
  simp only [computeValuationAfterDeduction, eq_ok] at computed
  obtain ⟨taken, checked, _, enough, average, averaged, value, valued, rfl⟩ := computed
  obtain ⟨rfl, sign, zero⟩ := checkQty_ok checked
  have nonnegative := sign rfl
  have nonzero := zero rfl
  refine ⟨by omega, enough, rfl, vndToNumber_ok averaged, ?_⟩
  rw [vndToNumber_ok valued]
  split
  · next empty => rw [empty, valueOf_zero]
  · rfl

/-- `computeWeightedAverageCostOnReceipt` of a balance as it is stored. -/
def averageCostOnReceipt (currentOnHandQty : String) (currentAvgUnitCost : Int) (receivedBaseQty : String)
    (receivedUnitCost : Int) : Except Failure WeightedAverageCostResult := do
  let oldQtyMilli ← parseQtyToMilli currentOnHandQty true false
  let oldAvgVnd ← parseMoneyToVnd currentAvgUnitCost
  let addQtyMilli ← parseQtyToMilli receivedBaseQty false false
  let addCostVnd ← parseMoneyToVnd receivedUnitCost
  computeWeightedAverageCostOnReceipt oldQtyMilli oldAvgVnd addQtyMilli addCostVnd

theorem averageCostOnReceipt_ok {onHand received : String} {avg cost : Int} {result}
    (answered : averageCostOnReceipt onHand avg received cost = .ok result) :
    ∃ milli added, parseQtyToMilli onHand true false = .ok milli ∧ parseQtyToMilli received false false = .ok added ∧
      result.newOnHandMilli = milli + added ∧
      result.newAvgCostVnd = (milli * avg + added * cost + (milli + added) / 2) / (milli + added) ∧
      result.newValuationVnd = valueOf result.newOnHandMilli result.newAvgCostVnd := by
  simp only [averageCostOnReceipt, parseMoneyToVnd, computeWeightedAverageCostOnReceipt, eq_ok] at answered
  obtain ⟨milli, held, _, ⟨_, _, rfl⟩, added, arrived, _, ⟨_, _, rfl⟩, _, checked, _, averaged, _, valued, rfl⟩ := answered
  obtain ⟨rfl, -⟩ := checkQty_ok checked
  exact ⟨milli, _, held, arrived, rfl, vndToNumber_ok averaged, vndToNumber_ok valued⟩

end Inventory
