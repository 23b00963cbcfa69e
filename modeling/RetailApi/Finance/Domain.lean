import RetailApi.Base.JsNumber
import RetailApi.Base.JsString
import RetailApi.Base.Transaction

/-! The rules of the finance service: whole amounts of VND, the chart of accounts, balanced journals, credit, and how a payment
is spread over open documents. Identifiers are uuids, in the one spelling the database prints. -/

namespace Finance

open Transaction JsString JsNumber

abbrev Uuid := Nat

inductive FinanceDomainErrorCode where
  | financialAccountNotFound | financialAccountInactive
  | cashAccountNotFound | cashAccountInactive | cashAccountCodeConflict
  | cashbookCategoryNotFound | cashbookEntryNotFound | cashbookEntryAlreadyPosted | cashbookEntryInvalidState
  | journalNotBalanced | journalNotFound | journalAlreadyPosted | postingAlreadyReversed
  | receivableNotFound | receivableInvalidState | paymentAllocationExceeded
  | customerCreditLimitExceeded | creditAuthorizationNotFound | creditAuthorizationInvalidState
  | payableNotFound | payableInvalidState | supplierPaymentExceeded
  | settlementNotFound | settlementAmountMismatch | settlementReconciliationRequired
  | refundNotFound | refundNotEligible | refundAmountExceeded | refundOutcomeUnknown | refundInvalidState
  | codReceivableNotFound | codSettlementNotFound | codSettlementDuplicate | codSettlementMismatch
  | shiftReconciliationNotFound | adjustmentNotFound | adjustmentInvalidState | makerCheckerViolation
  | idempotencyConflict | resourceVersionConflict | tenantAccessDenied | permissionDenied | validationError
deriving DecidableEq

inductive Failure where
  | domain (code : FinanceDomainErrorCode) (message : String) (httpStatus : Nat := 422)
  /-- An `Error` that is no domain error, such as `toMoney` of a number that is not safe. -/
  | thrown (message : String)
  | database (constraint : String)

def defaultCustomerCreditLimitVnd : Int := 2000000

structure ParseMoneyOptions where
  allowZero : Bool := false
  allowNegative : Bool := false
  field : String := "amount"

/-- Validates money: a whole number of VND that is a safe integer. -/
def parseVnd (raw : Option Int) (options : ParseMoneyOptions := {}) : Except Failure Int := do
  let value ← required raw (.domain .validationError s!"{options.field} is required")
  ensure (IsSafe value) (.domain .validationError
    s!"{options.field} must be a whole number of VND (received \"{value}\")")
  ensure (0 ≤ value ∨ options.allowNegative = true) (.domain .validationError s!"{options.field} cannot be negative")
  ensure (value ≠ 0 ∨ options.allowZero = true) (.domain .validationError
    s!"{options.field} must be greater than zero")
  return value

@[simp] theorem parseVnd_eq_ok {raw options parsed} : parseVnd raw options = .ok parsed ↔
      raw = some parsed ∧ IsSafe parsed ∧ (0 ≤ parsed ∨ options.allowNegative = true) ∧
        (parsed ≠ 0 ∨ options.allowZero = true) := by
  simp only [parseVnd, eq_ok]
  constructor
  · rintro ⟨value, given, _, safe, _, sign, _, zero, rfl⟩
    exact ⟨given, safe, sign, zero⟩
  · rintro ⟨given, safe, sign, zero⟩
    exact ⟨parsed, given, (), safe, (), sign, (), zero, rfl⟩

/-- A money column read back: what is no safe integer fails loudly. -/
def toMoney (stored : Int) : Except Failure Int := do
  ensure (IsSafe stored) (.thrown s!"Money value is not a safe integer: {stored}")
  return stored

@[simp] theorem toMoney_eq_ok {stored read} : toMoney stored = .ok read ↔ IsSafe stored ∧ stored = read := by
  simp [toMoney]

/-- `code` of a document: the next number of its sequence, in six digits. -/
def documentCode (series : String) (number : Nat) : String :=
  let digits := toString number
  series ++ String.ofList (List.replicate (6 - digits.length) '0') ++ digits

/-- `(header ?? body ?? fallback).trim().toLowerCase()` -/
def cleanKey (header body : Option String) (fallback : String) : String :=
  toLowerCase (trimmed ((header <|> body).getD fallback))

namespace GlAccountCodes

def cashOnHand : String := "1110"
def cashAtBank : String := "1120"
def accountsReceivable : String := "1310"
def codCarrierReceivable : String := "1315"
def paymentClearing : String := "1388"
def inventoryPurchaseClearing : String := "1560"
def customerPrepayment : String := "3315"
def accountsPayable : String := "3310"
def salesRevenueClearing : String := "5110"
def salesReturnRefund : String := "5210"
def carrierFeeExpense : String := "6410"
def operatingExpense : String := "6420"
def otherIncome : String := "7110"
def cashVariance : String := "8110"

end GlAccountCodes

open GlAccountCodes

/-- The codes of `DEFAULT_FINANCE_ACCOUNTS`. -/
def defaultFinanceAccounts : List String :=
  [cashOnHand, cashAtBank, accountsReceivable, codCarrierReceivable, paymentClearing, inventoryPurchaseClearing,
    customerPrepayment, accountsPayable, salesRevenueClearing, salesReturnRefund, carrierFeeExpense, operatingExpense,
    otherIncome, cashVariance]

inductive Direction where
  | receipt | expense
deriving DecidableEq

instance : ToString Direction where
  toString
    | .receipt => "RECEIPT" | .expense => "EXPENSE"

structure CashbookCategorySpec where
  code : String
  direction : Direction
  glAccountCode : String

def defaultCashbookCategories : List CashbookCategorySpec :=
  [⟨"SALES_RECEIPT", .receipt, salesRevenueClearing⟩, ⟨"DEBT_COLLECTION", .receipt, accountsReceivable⟩,
    ⟨"COD_SETTLEMENT_RECEIPT", .receipt, codCarrierReceivable⟩, ⟨"OTHER_RECEIPT", .receipt, otherIncome⟩,
    ⟨"SUPPLIER_PAYMENT", .expense, accountsPayable⟩, ⟨"CUSTOMER_REFUND", .expense, salesReturnRefund⟩,
    ⟨"OPERATING_EXPENSE", .expense, operatingExpense⟩]

structure JournalLineInput where
  accountCode : String
  debitAmount : Option Int := none
  creditAmount : Option Int := none

structure ValidatedJournalLine where
  accountCode : String
  debitAmount : Int
  creditAmount : Int
  oneSided : 0 < debitAmount ∧ creditAmount = 0 ∨ debitAmount = 0 ∧ 0 < creditAmount
deriving DecidableEq

def debits (lines : List ValidatedJournalLine) : Int := (lines.map (·.debitAmount)).sum

def credits (lines : List ValidatedJournalLine) : Int := (lines.map (·.creditAmount)).sum

structure ValidatedJournal where
  lines : List ValidatedJournalLine
  balanced : 0 < debits lines ∧ debits lines = credits lines

def validateJournalLine (line : JournalLineInput × Nat) : Except Failure ValidatedJournalLine := do
  let accountCode := toUpperCase (trimmed line.1.accountCode)
  ensure (accountCode ≠ "") (.domain .validationError s!"Journal line {line.2 + 1} is missing accountCode")
  let debitAmount ← parseVnd (line.1.debitAmount.getD 0) { allowZero := true, field := s!"lines[{line.2}].debitAmount" }
  let creditAmount ← parseVnd (line.1.creditAmount.getD 0) { allowZero := true, field := s!"lines[{line.2}].creditAmount" }
  if oneSided : 0 < debitAmount ∧ creditAmount = 0 ∨ debitAmount = 0 ∧ 0 < creditAmount then
    return { accountCode, debitAmount, creditAmount, oneSided }
  else throw (.domain .journalNotBalanced
    s!"Journal line {line.2 + 1} ({accountCode}) must have either a positive debit or a positive credit, not both or zero")

def validateBalancedJournalLines (lines : List JournalLineInput) : Except Failure ValidatedJournal := do
  ensure (2 ≤ lines.length) (.domain .journalNotBalanced "A financial journal must contain at least 2 posting lines")
  let lines ← lines.zipIdx.mapM validateJournalLine
  if balanced : 0 < debits lines ∧ debits lines = credits lines then
    return { lines, balanced }
  else throw (.domain .journalNotBalanced
    s!"Journal is not balanced: totalDebit ({debits lines}) != totalCredit ({credits lines})")

structure CreditAuthorizationEvaluationInput where
  creditLimit : Int
  postedDebt : Int
  heldCredit : Int
  requestedAmount : Int
  overrideApprovedBy : Option String

structure CreditAuthorizationEvaluationResult where
  availableCreditBefore : Int
  heldCreditAfter : Int
  availableCreditAfter : Int
  isOverride : Bool

def availableCredit (limit posted held : Int) : Int := if add posted held < limit then limit - posted - held else 0

/-- `Boolean(approver && approver.trim().length > 0)` -/
def isOverride (approver : Option String) : Bool := approver.any fun name => trimmed name ≠ ""

def evaluateCreditAuthorization (input : CreditAuthorizationEvaluationInput) :
    Except Failure CreditAuthorizationEvaluationResult := do
  let limit ← parseVnd input.creditLimit { allowZero := true, field := "creditLimit" }
  let posted ← parseVnd input.postedDebt { allowZero := true, field := "postedDebt" }
  let held ← parseVnd input.heldCredit { allowZero := true, field := "heldCredit" }
  let requested ← parseVnd input.requestedAmount { field := "requestedAmount" }
  let available := availableCredit limit posted held
  ensure (requested ≤ available ∨ isOverride input.overrideApprovedBy = true) (.domain .customerCreditLimitExceeded
    (s!"Requested credit ({requested} VND) exceeds available credit ({available} VND; limit={limit}, " ++
      s!"postedDebt={posted}, heldCredit={held})") 409)
  return {
    availableCreditBefore := available, heldCreditAfter := add held requested
    availableCreditAfter := availableCredit limit posted (add held requested)
    isOverride := isOverride input.overrideApprovedBy }

structure OpenObligationSnapshot where
  id : Uuid
  code : String
  originalAmount : Int
  paidAmount : Int
  adjustedAmount : Int
  outstandingAmount : Int
deriving DecidableEq

structure RequestedAllocationLine where
  documentId : Uuid
  amount : Int
deriving DecidableEq

inductive PaidStatus where
  | partiallyPaid | paid
deriving DecidableEq

structure CalculatedAllocationLine where
  documentId : Uuid
  code : String
  allocatedAmount : Int
  paidAmountAfter : Int
  outstandingBefore : Int
  outstandingAfter : Int
  statusAfter : PaidStatus
deriving DecidableEq

structure CalculatedPaymentAllocationResult where
  paymentAmount : Int
  totalAllocated : Int
  overpaymentAmount : Int
  allocations : List CalculatedAllocationLine

inductive OverpaymentPolicy where
  | reject | prepayment
deriving DecidableEq

inductive ObligationKind where
  | receivable | payable
deriving DecidableEq

instance : ToString ObligationKind where
  toString
    | .receivable => "receivable" | .payable => "payable"

def ObligationKind.exceeded : ObligationKind → FinanceDomainErrorCode
  | .receivable => .paymentAllocationExceeded
  | .payable => .supplierPaymentExceeded

def ObligationKind.notFound : ObligationKind → FinanceDomainErrorCode
  | .receivable => .receivableNotFound
  | .payable => .payableNotFound

def allocationLine (doc : OpenObligationSnapshot) (paid outstanding allocated : Int) : CalculatedAllocationLine where
  documentId := doc.id
  code := doc.code
  allocatedAmount := allocated
  paidAmountAfter := add paid allocated
  outstandingBefore := outstanding
  outstandingAfter := outstanding - allocated
  statusAfter := if outstanding - allocated = 0 then .paid else .partiallyPaid

/-- One explicit allocation, after the lines `done` before it. -/
def allocateExplicit (kind : ObligationKind) (openDocuments : List OpenObligationSnapshot)
    (done : List CalculatedAllocationLine) (request : RequestedAllocationLine) :
    Except Failure (List CalculatedAllocationLine) := do
  ensure (∀ line ∈ done, line.documentId ≠ request.documentId) (.domain .validationError
    s!"Duplicate allocation target document {request.documentId}")
  let doc ← required (openDocuments.find? (·.id = request.documentId))
    (.domain kind.notFound s!"Open {kind} {request.documentId} not found" 404)
  let allocated ← parseVnd request.amount { field := s!"allocation[{request.documentId}]" }
  let outstanding ← parseVnd doc.outstandingAmount { allowZero := true, field := "outstandingAmount" }
  let paid ← parseVnd doc.paidAmount { allowZero := true, field := "paidAmount" }
  ensure (allocated ≤ outstanding) (.domain kind.exceeded
    s!"Allocation ({allocated}) exceeds outstanding balance ({outstanding}) on {doc.code}" 409)
  return done ++ [allocationLine doc paid outstanding allocated]

/-- First in, first out over the documents in the order given. -/
def allocateFifo (remaining : Int) : List OpenObligationSnapshot → Except Failure (List CalculatedAllocationLine)
  | [] => .ok []
  | doc :: docs =>
    if remaining ≤ 0 then .ok []
    else do
      let outstanding ← parseVnd doc.outstandingAmount { allowZero := true, field := "outstandingAmount" }
      if outstanding ≤ 0 then allocateFifo remaining docs
      else do
        let paid ← parseVnd doc.paidAmount { allowZero := true, field := "paidAmount" }
        let allocated := if remaining ≤ outstanding then remaining else outstanding
        let rest ← allocateFifo (remaining - allocated) docs
        return allocationLine doc paid outstanding allocated :: rest

/-- The allocations asked for, or first in, first out when none are. -/
def allocate (kind : ObligationKind) (openDocuments : List OpenObligationSnapshot) (payment : Int)
    (explicitAllocations : List RequestedAllocationLine) : Except Failure (List CalculatedAllocationLine) :=
  if explicitAllocations = [] then allocateFifo payment openDocuments
  else explicitAllocations.foldlM (allocateExplicit kind openDocuments) []

def calculateDocumentAllocations (paymentAmount : Int) (openDocuments : List OpenObligationSnapshot)
    (explicitAllocations : List RequestedAllocationLine) (overpaymentPolicy : OverpaymentPolicy) (kind : ObligationKind) :
    Except Failure CalculatedPaymentAllocationResult := do
  let payment ← parseVnd paymentAmount { field := "paymentAmount" }
  let allocations ← allocate kind openDocuments payment explicitAllocations
  let total := (allocations.map (·.allocatedAmount)).foldl add 0
  ensure (total ≤ payment) (.domain kind.exceeded
    s!"Total allocations ({total}) exceed confirmed payment amount ({payment})" 409)
  let overpayment := payment - total
  ensure (overpayment ≤ 0 ∨ overpaymentPolicy = .prepayment) (.domain kind.exceeded
    s!"Payment amount ({payment}) exceeds total allocated outstanding balance ({total}) by {overpayment}" 409)
  return { paymentAmount := payment, totalAllocated := total, overpaymentAmount := overpayment, allocations }

structure RefundEligibilityInput where
  originalPaidAmount : Int
  alreadyRefundedAmount : Int
  requestedRefundAmount : Int

structure RefundEligibilityResult where
  originalPaidAmount : Int
  alreadyRefundedAmount : Int
  remainingRefundableBefore : Int
  requestedRefundAmount : Int
  remainingRefundableAfter : Int

def validateRefundAllocation (input : RefundEligibilityInput) : Except Failure RefundEligibilityResult := do
  let paid ← parseVnd input.originalPaidAmount { field := "originalPaidAmount" }
  let refunded ← parseVnd input.alreadyRefundedAmount { allowZero := true, field := "alreadyRefundedAmount" }
  let requested ← parseVnd input.requestedRefundAmount { field := "requestedRefundAmount" }
  let remaining := if refunded < paid then paid - refunded else 0
  ensure (requested ≤ remaining) (.domain .refundAmountExceeded
    s!"Requested refund ({requested}) exceeds remaining refundable amount ({remaining})" 409)
  return {
    originalPaidAmount := paid, alreadyRefundedAmount := refunded, remainingRefundableBefore := remaining
    requestedRefundAmount := requested, remainingRefundableAfter := remaining - requested }

structure CodSettlementLineEvaluationInput where
  expectedGrossCod : Int
  reportedGrossCod : Int
  carrierFee : Int
  reportedNetPayout : Int

inductive CodLineEvaluation where
  | matched | discrepancy
deriving DecidableEq

structure CodSettlementLineEvaluationResult where
  expectedGrossCod : Int
  reportedGrossCod : Int
  carrierFee : Int
  expectedNetPayout : Int
  reportedNetPayout : Int
  discrepancyAmount : Int
  status : CodLineEvaluation
  discrepancyReason : Option String

/-- Why a line of a carrier's statement is not what was expected. -/
def discrepancyReasons (expectedGross reportedGross fee reportedNet discrepancy : Int) : List String :=
  let reasons :=
    (if reportedGross ≠ expectedGross then [s!"Reported COD ({reportedGross}) != expected COD ({expectedGross})"] else []) ++
    (if reportedGross - fee ≠ reportedNet then
      [s!"Carrier statement math mismatch: reportedGross ({reportedGross}) - fee ({fee}) != netPayout ({reportedNet})"] else [])
  if discrepancy ≠ 0 ∧ reasons = [] then [s!"Net payout discrepancy of {discrepancy} VND"] else reasons

def evaluateCodSettlementLine (input : CodSettlementLineEvaluationInput) :
    Except Failure CodSettlementLineEvaluationResult := do
  let expectedGross ← parseVnd input.expectedGrossCod { field := "expectedGrossCod" }
  let reportedGross ← parseVnd input.reportedGrossCod { allowZero := true, field := "reportedGrossCod" }
  let fee ← parseVnd input.carrierFee { allowZero := true, field := "carrierFee" }
  let reportedNet ← parseVnd input.reportedNetPayout
    { allowZero := true, allowNegative := true, field := "reportedNetPayout" }
  let expectedNet := expectedGross - fee
  let discrepancy := sub reportedNet expectedNet
  let reasons := discrepancyReasons expectedGross reportedGross fee reportedNet discrepancy
  return {
    expectedGrossCod := expectedGross, reportedGrossCod := reportedGross, carrierFee := fee
    expectedNetPayout := expectedNet, reportedNetPayout := reportedNet, discrepancyAmount := discrepancy
    status := if reasons = [] then .matched else .discrepancy
    discrepancyReason := if reasons = [] then none else some ("; ".intercalate reasons) }

structure ShiftCashEvaluationInput where
  openingCash : Int
  confirmedCashSales : Int
  confirmedCashRefunds : Int
  otherCashReceipts : Option Int := none
  otherCashExpenses : Option Int := none
  actualCountedCash : Int

inductive ShiftReconciliationStatus where
  | reconciled | varianceDetected
deriving DecidableEq

structure ShiftCashEvaluationResult where
  openingCash : Int
  confirmedCashSales : Int
  confirmedCashRefunds : Int
  otherCashReceipts : Int
  otherCashExpenses : Int
  expectedClosingCash : Int
  actualCountedCash : Int
  varianceAmount : Int
  status : ShiftReconciliationStatus

def evaluateShiftCashReconciliation (input : ShiftCashEvaluationInput) : Except Failure ShiftCashEvaluationResult := do
  let opening ← parseVnd input.openingCash { allowZero := true, field := "openingCash" }
  let sales ← parseVnd input.confirmedCashSales { allowZero := true, field := "confirmedCashSales" }
  let refunds ← parseVnd input.confirmedCashRefunds { allowZero := true, field := "confirmedCashRefunds" }
  let otherIn ← parseVnd (input.otherCashReceipts.getD 0) { allowZero := true, field := "otherCashReceipts" }
  let otherOut ← parseVnd (input.otherCashExpenses.getD 0) { allowZero := true, field := "otherCashExpenses" }
  let actual ← parseVnd input.actualCountedCash { allowZero := true, field := "actualCountedCash" }
  let expected := sub (add (sub (add opening sales) refunds) otherIn) otherOut
  let variance := sub actual expected
  return {
    openingCash := opening, confirmedCashSales := sales, confirmedCashRefunds := refunds, otherCashReceipts := otherIn
    otherCashExpenses := otherOut, expectedClosingCash := expected, actualCountedCash := actual
    varianceAmount := variance, status := if variance = 0 then .reconciled else .varianceDetected }

end Finance
