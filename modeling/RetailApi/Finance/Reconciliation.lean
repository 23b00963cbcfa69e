import RetailApi.Finance.Debts
import RetailApi.Finance.Settlements

/-! Reconciliation: the cash counted at the end of a shift against what was expected. -/

namespace Finance

open Transaction JsString JsNumber GlAccountCodes

structure ReconcileShiftCashDto where
  shiftId : Uuid
  shiftCode : Option String := none
  branchId : Uuid
  cashAccountId : Option Uuid := none
  openingCash : Int
  confirmedCashSales : Int
  confirmedCashRefunds : Option Int := none
  otherCashReceipts : Option Int := none
  otherCashExpenses : Option Int := none
  actualCountedCash : Int

def ReconcileShiftCashDto.evaluation (dto : ReconcileShiftCashDto) : ShiftCashEvaluationInput where
  openingCash := dto.openingCash
  confirmedCashSales := dto.confirmedCashSales
  confirmedCashRefunds := dto.confirmedCashRefunds.getD 0
  otherCashReceipts := dto.otherCashReceipts
  otherCashExpenses := dto.otherCashExpenses
  actualCountedCash := dto.actualCountedCash

def varianceDirection (variance : Int) : Direction := if variance < 0 then .expense else .receipt

def varianceJournal (shiftId reconId : Uuid) (cashGl : String) (variance : Int) : PostJournalInTxInput where
  journalType := "SHIFT_CASH_VARIANCE"
  sourceType := "SHIFT_CASH_RECONCILIATION"
  sourceId := toString reconId
  idempotencyKey := some s!"shift-jnl:{shiftId}"
  lines := match varianceDirection variance with
    | .expense => [{ accountCode := cashVariance, debitAmount := some (-variance) },
        { accountCode := cashGl, creditAmount := some (-variance) }]
    | .receipt => [{ accountCode := cashGl, debitAmount := some variance },
        { accountCode := otherIncome, creditAmount := some variance }]

def varianceVoucher (dto : ReconcileShiftCashDto) (shiftCode : String) (reconId : Uuid) (variance : Int)
    (journalId accountId : Uuid) : VoucherInput where
  direction := varianceDirection variance
  cashAccountId := accountId
  categoryCode := some (match varianceDirection variance with
    | .expense => "OPERATING_EXPENSE"
    | .receipt => "OTHER_RECEIPT")
  amount := match varianceDirection variance with
    | .expense => -variance
    | .receipt => variance
  branchId := some dto.branchId
  sourceType := some "SHIFT_CASH_RECONCILIATION"
  sourceId := some (toString reconId)
  description := some (match varianceDirection variance with
    | .expense => s!"Shift {shiftCode} cash shortage adjustment"
    | .receipt => s!"Shift {shiftCode} cash overage adjustment")
  autoPost := true
  idempotencyKey := some s!"shift-cb:{dto.shiftId}"
  skipJournalIfLinked := some journalId

def varianceIssue (result : ShiftCashEvaluationResult) (shiftCode : String) (reconId : Uuid) : IssueInput where
  issueType := match varianceDirection result.varianceAmount with
    | .expense => "SHIFT_CASH_SHORTAGE"
    | .receipt => "SHIFT_CASH_OVERAGE"
  sourceType := "SHIFT_CASH_RECONCILIATION"
  sourceId := toString reconId
  expectedAmount := result.expectedClosingCash
  actualAmount := result.actualCountedCash
  differenceAmount := result.varianceAmount
  description := s!"POS shift {shiftCode} recorded variance of {result.varianceAmount}"

def ShiftCashEvaluationResult.reconciliation (result : ShiftCashEvaluationResult) (dto : ReconcileShiftCashDto) (id : Uuid)
    (shiftCode : String) (cashAccountId varianceJournalId issueId : Option Uuid) : ShiftCashReconciliationEntity where
  id := id
  shiftId := dto.shiftId
  shiftCode := shiftCode
  branchId := dto.branchId
  cashAccountId := cashAccountId
  openingCash := result.openingCash
  confirmedCashSales := result.confirmedCashSales
  confirmedCashRefunds := result.confirmedCashRefunds
  otherCashReceipts := result.otherCashReceipts
  otherCashExpenses := result.otherCashExpenses
  expectedClosingCash := result.expectedClosingCash
  actualCountedCash := result.actualCountedCash
  varianceAmount := result.varianceAmount
  status := result.status
  varianceJournalId := varianceJournalId
  reconciliationIssueId := issueId

structure ShiftReconciliationResponse where
  reconciliation : ShiftCashReconciliationEntity
  replayed : Bool

/-- A row of `shift_cash_reconciliations` read back: the cash that was expected is the sum that need not be safe. -/
def readShiftReconciliation (found : Option ShiftCashReconciliationEntity) :
    Except Failure (Option ShiftCashReconciliationEntity) :=
  match found with
  | none => .ok none
  | some row => do
    let _ ← toMoney row.expectedClosingCash
    return some row

namespace ReconciliationDb

def shiftCode (db : ReconciliationDb) (dto : ReconcileShiftCashDto) : ReconciliationDb × String :=
  match dto.shiftCode with
  | some code => (db, code)
  | none => ({ db with reconciliationsIssued := db.reconciliationsIssued + 1 },
      documentCode "REC" (db.reconciliationsIssued + 1))

end ReconciliationDb

def bookVariance (db : FinanceDb) (draws : Draws) (dto : ReconcileShiftCashDto) (shiftCode : String) (reconId : Uuid)
    (account : Option CashAccountEntity) (result : ShiftCashEvaluationResult) :
    Except Failure (FinanceDb × Option Uuid × Option Uuid) :=
  if result.varianceAmount = 0 then .ok (db, none, none)
  else do
    let cashGl := (account.map (·.glAccountCode)).getD cashOnHand
    let (ledger, posted) ← postJournalInTx db.ledger draws.journal
      (varianceJournal dto.shiftId reconId cashGl result.varianceAmount)
    let (db, _) ← linkedVoucher { db with ledger } draws account
      (varianceVoucher dto shiftCode reconId result.varianceAmount posted.journal.id)
    let issueId := db.reconciliation.issueId draws.issue
    let reconciliation := db.reconciliation.raise draws.issue (varianceIssue result shiftCode reconId)
    return ({ db with reconciliation }, some posted.journal.id, some issueId)

def reconcileNew (db : FinanceDb) (draws : Draws) (dto : ReconcileShiftCashDto) :
    Except Failure (FinanceDb × ShiftReconciliationResponse) := do
  let result ← evaluateShiftCashReconciliation dto.evaluation
  let reconId := newId (db.reconciliation.shifts.map (·.id)) draws.document
  let (reconciliation, shiftCode) := db.reconciliation.shiftCode dto
  let _ ← parseVnd result.varianceAmount { allowZero := true, allowNegative := true, field := "varianceAmount" }
  let (cash, account) ← namedAccount db.cash draws.account dto.cashAccountId (some dto.branchId) .cashDrawer
  let (db, journalId, issueId) ← bookVariance { db with cash, reconciliation } draws dto shiftCode reconId account result
  let row := result.reconciliation dto reconId shiftCode (account.map (·.id)) journalId issueId
  return ({ db with reconciliation := { db.reconciliation with shifts := db.reconciliation.shifts ++ [row] } },
    { reconciliation := row, replayed := false })

def reconcileShiftCashInTx (db : FinanceDb) (draws : Draws) (dto : ReconcileShiftCashDto) :
    Except Failure (FinanceDb × ShiftReconciliationResponse) := do
  match ← readShiftReconciliation (db.reconciliation.shifts.find? (·.shiftId = dto.shiftId)) with
  | some existing => return (db, { reconciliation := existing, replayed := true })
  | none => reconcileNew db draws dto

/-- `sales.shift.closed`, as far as finance reads it. -/
structure ShiftClosedPayload where
  shiftId : Uuid
  code : Option String
  branchId : Uuid
  openingCash : Option Int
  expectedCash : Option Int
  actualCash : Option Int

namespace ShiftClosedPayload

variable (payload : ShiftClosedPayload)

def opening : Int := payload.openingCash.getD 0

def expected : Int := (payload.expectedCash <|> payload.openingCash).getD 0

def actual : Int := (payload.actualCash <|> payload.expectedCash).getD 0

/-- What is asked of the reconciliation: the expected cash as an opening amount and sales. -/
def reconciliation : ReconcileShiftCashDto where
  shiftId := payload.shiftId
  shiftCode := payload.code
  branchId := payload.branchId
  openingCash := payload.opening
  confirmedCashSales := if payload.opening ≤ payload.expected then payload.expected - payload.opening else 0
  confirmedCashRefunds := some 0
  actualCountedCash := payload.actual

end ShiftClosedPayload

def onSalesShiftClosed (db : FinanceDb) (draws : Draws) (payload : ShiftClosedPayload) : Except Failure FinanceDb := do
  let _ ← parseVnd payload.opening { allowZero := true, field := "openingCash" }
  let _ ← parseVnd payload.expected { allowZero := true, field := "expectedCash" }
  let _ ← parseVnd payload.actual { allowZero := true, field := "actualCash" }
  let (db, _) ← reconcileShiftCashInTx db draws payload.reconciliation
  return db

structure FinanceSummary where
  totalCashBalance : Int
  activeAccountCount : Nat
  totalReceipts : Int
  totalExpenses : Int
  netCashFlow : Int
  totalOpenCustomerDebt : Int
  openReceivableCount : Nat
  totalOpenSupplierPayable : Int
  openPayableCount : Nat
  pendingCodReceivableAmount : Int
  reconciledCodNetAmount : Int
  codDiscrepancyCount : Nat
  completedRefundAmount : Int
  pendingReconciliationRefundCount : Nat
  openIssueCount : Nat

/-- `applyBranchScope` -/
def inScope (scope : BranchScope) (branchId : Option Uuid) : Bool :=
  scope.all fun branches => branchId.any fun branch => branches.contains branch

def totalVnd (options : ParseMoneyOptions) (amounts : List Int) : Except Failure Int := do
  let parsed ← amounts.mapM fun (amount : Int) => parseVnd amount options
  return parsed.foldl add 0

def getFinanceSummary (db : FinanceDb) (scope : BranchScope) : Except Failure FinanceSummary := do
  let cashAccounts := db.cash.accounts.filter fun account => inScope scope account.branchId && account.status = .active
  let totalCash ← totalVnd { allowZero := true, allowNegative := true, field := "currentBalance" }
    (cashAccounts.map (·.currentBalance))
  let entries := db.cash.entries.filter fun entry => inScope scope entry.branchId && entry.status = .posted
  let totalReceipts ← totalVnd { allowZero := true } ((entries.filter (·.direction = .receipt)).map (·.amount))
  let totalExpenses ← totalVnd { allowZero := true } ((entries.filter (·.direction = .expense)).map (·.amount))
  let openAr := db.credit.receivables.documents.filter fun doc => inScope scope doc.columns.branchId && doc.status.isOpen
  let totalAr ← totalVnd { allowZero := true, field := "outstandingAmount" } (openAr.map (·.outstandingAmount))
  let openAp := db.payables.documents.filter (·.status.isOpen)
  let totalAp ← totalVnd { allowZero := true, field := "outstandingAmount" } (openAp.map (·.outstandingAmount))
  let cods := db.cod.receivables.filter fun cod => inScope scope cod.branchId
  let pendingCod ← totalVnd { allowZero := true, field := "expectedCodAmount" } ((cods.filter fun cod =>
    cod.status = .codReceivableRecognized ∨ cod.status = .settlementExpected).map (·.expectedCodAmount))
  let reconciledCod ← totalVnd { allowZero := true, allowNegative := true, field := "actualRemittedAmount" }
    ((cods.filter (·.status = .reconciled)).map (·.actualRemittedAmount))
  let refunds := db.settlement.refunds.filter fun refund => inScope scope refund.branchId
  let completedRefund ← totalVnd { allowZero := true } ((refunds.filter (·.status = .completed)).map (·.amount))
  return {
    totalCashBalance := totalCash, activeAccountCount := cashAccounts.length, totalReceipts, totalExpenses
    netCashFlow := sub totalReceipts totalExpenses, totalOpenCustomerDebt := totalAr, openReceivableCount := openAr.length
    totalOpenSupplierPayable := totalAp, openPayableCount := openAp.length, pendingCodReceivableAmount := pendingCod
    reconciledCodNetAmount := reconciledCod, codDiscrepancyCount := cods.countP (·.status = .discrepancy)
    completedRefundAmount := completedRefund
    pendingReconciliationRefundCount := refunds.countP fun refund =>
      refund.status = .pendingConfirmation ∨ refund.status = .reconciliationRequired
    openIssueCount := db.reconciliation.issues.countP (·.status = .open) }

end Finance
