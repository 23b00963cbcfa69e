import RetailApi.Base.JsString
import RetailApi.Base.Table
import RetailApi.Base.Transaction

/-! The cash rules of the sales service: amounts in whole VND, the entries of a drawer,
what a drawer should hold, and what a variance calls for when it is closed. -/

namespace Sales

open Transaction

abbrev Uuid := Nat

inductive SalesDomainErrorCode where
  | validationError | resourceVersionConflict
  | shiftNotFound | shiftNotOpen | shiftClosed | shiftAlreadyClosed | shiftAlreadyOpen
  | shiftHasPendingTransactions | shiftHasOpenDrafts | openingFloatNoteRequired
  | cashSettingsInvalid | unknownBranch | registerNotFound | countRequired | varianceReasonRequired
  | approvalRequired | approverIsCounter
  | idempotencyConflict | shiftRequired | orderNotFound | orderInvalidState | orderAlreadyCompleted
  | orderAlreadyCancelled | insufficientStock | stockReservationUnknown | stockReservationFailed | stockCommitPending
  | loyaltyHoldFailed | creditServiceUnavailable | creditAuthorizationFailed | paymentAmountMismatch
  | paymentReferenceRequired | couponInvalid | couponUsageLimitExceeded | invalidDiscount | discountApprovalRequired
  | productNotSellable | priceChanged | priceNotConfigured
  | returnNotFound | returnNotEligible | returnQuantityExceeded | returnWarehouseUnresolved
  | refundAmountExceeded | refundAlreadyRequested
  | fulfillmentNotFound | fulfillmentInvalidState | paymentExceedsDue
deriving DecidableEq

inductive Failure where
  | domain (code : SalesDomainErrorCode) (message : String) (httpStatus : Nat)
  | notFound (code : SalesDomainErrorCode) (message : String)
  | database (constraint : String)
  /-- An `Error` that is no domain error, such as `toMoney` of a missing value. -/
  | thrown (message : String)

/-- `Number.MAX_SAFE_INTEGER` -/
def maxSafeInteger : Int := 2 ^ 53 - 1

def isSafeInteger (value : Int) : Prop := -maxSafeInteger ≤ value ∧ value ≤ maxSafeInteger

instance (value : Int) : Decidable (isSafeInteger value) := inferInstanceAs (Decidable (_ ∧ _))

def parseVndAmount (value : Int) (allowZero : Bool := true) : Except Failure Int := do
  let bound := if allowZero then "non-negative" else "positive"
  ensure (isSafeInteger value) (.domain .validationError
    s!"Invalid VND monetary amount (a whole number is required): {value}" 422)
  ensure (0 ≤ value ∧ (allowZero = true ∨ value ≠ 0)) (.domain .validationError
    s!"Monetary amount must be {bound}: {value}" 422)
  return value

def vndNumber (amount : Int) : Except Failure Int := do
  ensure (isSafeInteger amount) (.domain .validationError s!"Monetary amount out of range: {amount}" 422)
  return amount

/-- A column read back: what is no safe integer fails loudly. -/
def toMoney (value : Option Int) : Except Failure Int := do
  let amount ← required value (.thrown "Money value is not a safe integer: null")
  ensure (isSafeInteger amount) (.thrown s!"Money value is not a safe integer: {amount}")
  return amount

inductive CashEntryKind where
  | cashSale | cashRefund | payIn | payOut | cashShortage | cashOverage | reversal
deriving DecidableEq

/-- The entries written when a shift closes: they close the gap and never open it. -/
def CashEntryKind.isClosing : CashEntryKind → Bool
  | .cashShortage | .cashOverage => true
  | _ => false

inductive VarianceReason where
  | miscountedChange | unrecordedSale | refundNotRecorded | theftSuspected | other
deriving DecidableEq

inductive CashResponsibility where
  | none | cashierDeduction | storeLoss

/-- What put an entry into the drawer; unique in the tenant. The printed keys differ in their first word. -/
inductive SourceKey where
  | sale (orderId : Uuid)
  | tender (tenderId : Uuid)
  | refund (refundRequestId : Uuid)
  | cash (shiftId : Uuid) (key : String)
  | cashUnkeyed (id : Uuid)
  | close (shiftId : Uuid)
deriving DecidableEq

structure CashEntry where
  id : Uuid
  shiftId : Uuid
  branchId : Uuid
  kind : CashEntryKind
  amount : Int
  reason : Option String
  orderId : Option Uuid
  returnId : Option Uuid
  tenderId : Option Uuid
  staffId : Uuid
  sourceKey : SourceKey
deriving DecidableEq

/-- `CHK_pos_shift_cash_entry_sign` and `CHK_pos_shift_cash_entry_reason` -/
def CashEntry.Legal (entry : CashEntry) : Prop :=
  (match entry.kind with
    | .cashSale | .payIn | .cashOverage => 0 < entry.amount
    | .cashRefund | .payOut | .cashShortage => entry.amount < 0
    | .reversal => entry.amount ≠ 0) ∧
  (entry.kind ∈ [.payIn, .payOut, .cashRefund, .cashShortage, .reversal] → entry.reason ≠ none)

instance (entry : CashEntry) : Decidable entry.Legal := by
  unfold CashEntry.Legal
  cases entry.kind <;> infer_instance

def expectedCashFromEntries (openingCash : Int) (entries : List CashEntry) : Except Failure Int := do
  let opening ← parseVndAmount openingCash
  let expected ← entries.foldlM (fun expected entry =>
    if entry.kind.isClosing then .ok expected
    else do
      ensure (isSafeInteger entry.amount)
        (.domain .validationError s!"Invalid cash entry amount: {entry.amount}" 422)
      return expected + entry.amount) opening
  vndNumber expected

def countedTotalFromDenominations (counts : List (Int × Int)) (allowed : List Int) : Except Failure Int := do
  let total ← counts.foldlM (fun total count => do
    ensure (count.1 ∈ allowed)
      (.domain .validationError s!"Denomination {count.1} is not one of the store's notes" 400)
    ensure (0 ≤ count.2)
      (.domain .validationError s!"Count of {count.1} must be a whole number of notes (0 or more)" 400)
    return total + count.1 * count.2) (0 : Int)
  vndNumber total

structure CashSettings where
  toleranceVnd : Int := 10000
  approvalAboveVnd : Int := 10000
  responsibility : CashResponsibility := .none
  maxOpenHours : Int := 16
  maxOpeningFloatVnd : Int := 5000000
  denominations : List Int := [500000, 200000, 100000, 50000, 20000, 10000, 5000, 2000, 1000]

def validateCashSettings (settings : CashSettings) : Except Failure Unit := do
  for (name, amount) in [("toleranceVnd", settings.toleranceVnd), ("approvalAboveVnd", settings.approvalAboveVnd),
      ("maxOpeningFloatVnd", settings.maxOpeningFloatVnd)] do
    ensure (isSafeInteger amount ∧ 0 ≤ amount)
      (.domain .cashSettingsInvalid s!"{name} must be a whole number of VND (0 or more)" 400)
  ensure (settings.toleranceVnd ≤ settings.approvalAboveVnd)
    (.domain .cashSettingsInvalid "toleranceVnd must not be above approvalAboveVnd" 400)
  ensure (1 ≤ settings.maxOpenHours)
    (.domain .cashSettingsInvalid "maxOpenHours must be a whole number of hours (1 or more)" 400)
  ensure (settings.denominations ≠ [] ∧ (∀ note ∈ settings.denominations, isSafeInteger note ∧ 0 < note) ∧
      settings.denominations.Nodup)
    (.domain .cashSettingsInvalid "denominations must be a non-empty list of unique positive whole VND notes" 400)

inductive CloseDecision where
  | withinTolerance | reasonRequired | approvalRequired
deriving DecidableEq

def decideShiftClose (settings : CashSettings) (variance : Int) : CloseDecision :=
  if (variance.natAbs : Int) ≤ settings.toleranceVnd then .withinTolerance
  else if (variance.natAbs : Int) ≤ settings.approvalAboveVnd then .reasonRequired
  else .approvalRequired

theorem parseVndAmount_ok {value amount} {allowZero : Bool}
    (parsed : parseVndAmount value allowZero = .ok amount) : amount = value ∧ 0 ≤ value := by
  simp only [parseVndAmount, eq_ok] at parsed
  obtain ⟨_, _, _, legal, rfl⟩ := parsed
  exact ⟨rfl, legal.1⟩

theorem vndNumber_ok {value amount} (converted : vndNumber value = .ok amount) : amount = value := by
  simp only [vndNumber, eq_ok] at converted
  obtain ⟨_, _, rfl⟩ := converted
  rfl

theorem validateCashSettings_ok {settings passed}
    (validated : validateCashSettings settings = .ok passed) : settings.toleranceVnd ≤ settings.approvalAboveVnd := by
  simp only [validateCashSettings, eq_ok] at validated
  obtain ⟨_, _, _, ordered, _⟩ := validated
  exact ordered

theorem decideShiftClose_within {settings variance}
    (valid : validateCashSettings settings = .ok ()) (decided : decideShiftClose settings variance ≠ .approvalRequired) :
    (variance.natAbs : Int) ≤ settings.approvalAboveVnd := by
  unfold decideShiftClose at decided
  split at decided
  · next tolerated => exact tolerated.trans (validateCashSettings_ok valid)
  split at decided
  · next reasoned => exact reasoned
  · exact absurd rfl decided

end Sales
