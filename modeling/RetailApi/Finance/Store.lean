import RetailApi.Base.Rows
import RetailApi.Base.Table
import RetailApi.Finance.Domain

/-! The tables of one tenant's finance store. Rows stand in the order they were inserted. -/

namespace Finance

open Transaction JsNumber

inductive AccountStatus where
  | active | inactive
deriving DecidableEq

inductive JournalStatus where
  | posted | reversed
deriving DecidableEq

/-- A row of `financial_journals` with its rows of `financial_journal_lines`. -/
structure FinancialJournalEntity where
  id : Uuid
  code : String
  journalType : String
  sourceType : String
  sourceId : String
  idempotencyKey : String
  totalDebit : Int
  totalCredit : Int
  status : JournalStatus
  reversalOfJournalId : Option Uuid
  reversedByJournalId : Option Uuid
  lines : List ValidatedJournalLine
deriving DecidableEq

structure JournalDb where
  tenantId : Uuid := 0
  /-- `financial_accounts` by code. -/
  accounts : Table String AccountStatus := ∅
  journals : List FinancialJournalEntity := []
  issued : Nat := 0

inductive CashAccountType where
  | cashDrawer | safe | bank | eWallet
deriving DecidableEq

inductive CashAccountStatus where
  | active | inactive | closed
deriving DecidableEq

instance : ToString CashAccountStatus where
  toString
    | .active => "ACTIVE" | .inactive => "INACTIVE" | .closed => "CLOSED"

structure CashAccountEntity where
  id : Uuid
  branchId : Option Uuid
  code : String
  accountType : CashAccountType
  glAccountCode : String
  currentBalance : Int
  status : CashAccountStatus
deriving DecidableEq

structure CashbookCategoryEntity where
  id : Uuid
  code : String
  direction : Direction
  glAccountCode : String
deriving DecidableEq

inductive EntryStatus where
  | draft | approved | posted | reversed | cancelled
deriving DecidableEq

instance : ToString EntryStatus where
  toString
    | .draft => "DRAFT" | .approved => "APPROVED" | .posted => "POSTED" | .reversed => "REVERSED"
    | .cancelled => "CANCELLED"

/-- What the hash of a voucher request is taken over; two requests have one hash when they agree on it. -/
structure VoucherPayload where
  direction : Direction
  cashAccountId : Uuid
  categoryId : Option Uuid
  categoryCode : Option String
  amount : Int
  branchId : Option Uuid
  sourceType : Option String
  sourceId : Option String
deriving DecidableEq

structure CashbookEntryEntity where
  id : Uuid
  code : String
  branchId : Option Uuid
  cashAccountId : Uuid
  categoryId : Uuid
  direction : Direction
  amount : Int
  status : EntryStatus
  sourceType : Option String
  sourceId : Option String
  journalId : Option Uuid
  reversalOfEntryId : Option Uuid
  reversedByEntryId : Option Uuid
  idempotencyKey : Option String
  requestHash : Option VoucherPayload
  description : Option String
deriving DecidableEq

structure CashDb where
  accounts : List CashAccountEntity := []
  categories : List CashbookCategoryEntity := []
  entries : List CashbookEntryEntity := []
  receiptsIssued : Nat := 0
  expensesIssued : Nat := 0

inductive ObligationStatus where
  | open | partiallyPaid | paid | adjusted
deriving DecidableEq

/-- A row of `customer_receivables` or `supplier_payables`: the columns both have, and those of the one. -/
structure ObligationEntity (Columns : Type) extends OpenObligationSnapshot where
  partyId : Uuid
  status : ObligationStatus
  sourceType : String
  sourceId : String
  journalId : Uuid
  idempotencyKey : String
  columns : Columns
deriving DecidableEq

inductive DebtEntryType where
  | debtRecognized | payableRecognized | paymentApplied | supplierReturnCredit
deriving DecidableEq

/-- A row of `customer_debt_ledger` or `supplier_debt_ledger`. -/
structure DebtLedgerEntity where
  partyId : Uuid
  documentId : Uuid
  entryType : DebtEntryType
  amountDelta : Int
  balanceBefore : Int
  balanceAfter : Int
  cashbookEntryId : Option Uuid
  journalId : Uuid
  referenceType : String
  referenceId : String
  idempotencyKey : String
deriving DecidableEq

/-- The documents of one kind, and the ledger of what they are owed. -/
structure DebtBook (Columns : Type) where
  documents : List (ObligationEntity Columns) := []
  ledger : List DebtLedgerEntity := []
  issued : Nat := 0

structure ReceivableColumns where
  orderId : Option Uuid
  branchId : Option Uuid
  creditAuthorizationId : Option Uuid
deriving DecidableEq

structure PayableColumns where
  purchaseOrderId : Option Uuid
  receiptId : Option Uuid
  warehouseId : Option Uuid
deriving DecidableEq

abbrev CustomerReceivableEntity := ObligationEntity ReceivableColumns

abbrev SupplierPayableEntity := ObligationEntity PayableColumns

structure CustomerCreditProfileEntity where
  creditLimit : Int := defaultCustomerCreditLimitVnd
  postedDebt : Int := 0
  heldCredit : Int := 0
  prepaymentBalance : Int := 0
deriving DecidableEq

inductive AuthorizationState where
  | held | committed | released | expired
deriving DecidableEq

instance : ToString AuthorizationState where
  toString
    | .held => "HELD" | .committed => "COMMITTED" | .released => "RELEASED" | .expired => "EXPIRED"

/-- What the hash of an authorization request is taken over. -/
structure AuthorizationPayload where
  customerId : Uuid
  amount : Int
  orderId : Option Uuid
  branchId : Option Uuid
  overrideApprovedBy : Option String
deriving DecidableEq

structure CustomerCreditAuthorizationEntity where
  id : Uuid
  code : String
  customerId : Uuid
  orderId : Option Uuid
  branchId : Option Uuid
  authorizedAmount : Int
  state : AuthorizationState
  overrideApprovedBy : Option String
  idempotencyKey : String
  requestHash : AuthorizationPayload
  expiresAt : Nat
  committedReceivableId : Option Uuid
deriving DecidableEq

structure CreditDb where
  /-- `customer_credit_profiles` by customer. -/
  profiles : Table Uuid CustomerCreditProfileEntity := ∅
  authorizations : List CustomerCreditAuthorizationEntity := []
  receivables : DebtBook ReceivableColumns := {}
  issued : Nat := 0

/-- `payment_method` of a settlement; an event may name one that is none of the known ones. -/
inductive SettlementMethod where
  | cash | bankTransfer | card | eWallet | cod | onAccount
  | other (name : String)
deriving DecidableEq

instance : ToString SettlementMethod where
  toString
    | .cash => "CASH" | .bankTransfer => "BANK_TRANSFER" | .card => "CARD" | .eWallet => "EWALLET" | .cod => "COD"
    | .onAccount => "ON_ACCOUNT" | .other name => name

inductive SettlementStatus where
  | pending | authorized | captured | settlementPending | settled | failed | reversed | reconciliationRequired
deriving DecidableEq

structure PaymentSettlementEntity where
  id : Uuid
  code : String
  orderId : Uuid
  branchId : Option Uuid
  shiftId : Option Uuid
  tenderRef : String
  paymentMethod : SettlementMethod
  provider : String
  externalTxId : Option String
  requestedAmount : Int
  confirmedAmount : Int
  settledAmount : Int
  refundedAmount : Int
  providerStatus : String
  settlementStatus : SettlementStatus
  cashbookEntryId : Option Uuid
  journalId : Option Uuid
  idempotencyKey : String
deriving DecidableEq

inductive RefundMethod where
  | cash | bankTransfer | card | eWallet | customerCredit
deriving DecidableEq

instance : ToString RefundMethod where
  toString
    | .cash => "CASH" | .bankTransfer => "BANK_TRANSFER" | .card => "CARD" | .eWallet => "EWALLET"
    | .customerCredit => "CUSTOMER_CREDIT"

inductive RefundStatus where
  | requested | approved | executing | pendingConfirmation | completed | rejected | failed | reconciliationRequired
deriving DecidableEq

instance : ToString RefundStatus where
  toString
    | .requested => "REQUESTED" | .approved => "APPROVED" | .executing => "EXECUTING"
    | .pendingConfirmation => "PENDING_CONFIRMATION" | .completed => "COMPLETED" | .rejected => "REJECTED"
    | .failed => "FAILED" | .reconciliationRequired => "RECONCILIATION_REQUIRED"

structure RefundPayload where
  orderId : Uuid
  returnId : Option Uuid
  method : RefundMethod
  amount : Int
deriving DecidableEq

structure RefundOperationEntity where
  id : Uuid
  code : String
  salesRefundRequestId : Option Uuid
  returnId : Option Uuid
  orderId : Uuid
  settlementId : Option Uuid
  branchId : Option Uuid
  shiftId : Option Uuid
  cashAccountId : Option Uuid
  amount : Int
  method : RefundMethod
  status : RefundStatus
  provider : String
  externalRefundRef : Option String
  cashbookEntryId : Option Uuid
  journalId : Option Uuid
  idempotencyKey : String
  requestHash : RefundPayload
  failureReason : Option String
deriving DecidableEq

structure SettlementDb where
  settlements : List PaymentSettlementEntity := []
  refunds : List RefundOperationEntity := []
  settlementsIssued : Nat := 0
  refundsIssued : Nat := 0

inductive CodReceivableStatus where
  | codReceivableRecognized | settlementExpected | settlementReceived | reconciled | discrepancy
deriving DecidableEq

structure CodReceivableEntity where
  id : Uuid
  code : String
  orderId : Uuid
  fulfillmentId : Uuid
  branchId : Option Uuid
  carrierCode : String
  trackingNumber : String
  expectedCodAmount : Int
  reportedCollectedAmount : Int
  carrierFeeAmount : Int
  expectedNetAmount : Int
  actualRemittedAmount : Int
  discrepancyAmount : Int
  status : CodReceivableStatus
  settlementBatchId : Option Uuid
  journalId : Uuid
deriving DecidableEq

inductive CodLineStatus where
  | matched | discrepancy | unknownShipment
deriving DecidableEq

structure CodSettlementLineEntity where
  id : Uuid
  lineNo : Nat
  codReceivableId : Option Uuid
  fulfillmentId : Option Uuid
  orderId : Option Uuid
  trackingNumber : String
  expectedCodAmount : Int
  reportedCodAmount : Int
  carrierFeeAmount : Int
  netPayoutAmount : Int
  discrepancyAmount : Int
  lineStatus : CodLineStatus
  discrepancyReason : Option String
deriving DecidableEq

/-- A line of a statement as the checksum of the statement is taken over it. -/
structure CodStatementLine where
  trackingNumber : String
  reportedCodAmount : Int
  carrierFeeAmount : Int
  netPayoutAmount : Int
deriving DecidableEq

/-- `file_checksum`: the one given, or the one of the statement; two statements have one checksum when they agree. -/
inductive FileChecksum where
  | given (checksum : String)
  | computed (carrierCode statementRef : String) (lines : List CodStatementLine)
deriving DecidableEq

inductive CodBatchStatus where
  | imported | reconciled | discrepancyDetected
deriving DecidableEq

/-- A row of `cod_settlement_batches` with its rows of `cod_settlement_lines`. -/
structure CodSettlementBatchEntity where
  id : Uuid
  code : String
  carrierCode : String
  statementRef : String
  fileChecksum : FileChecksum
  cashAccountId : Option Uuid
  totalExpectedCod : Int
  totalReportedCod : Int
  totalCarrierFee : Int
  totalNetPayout : Int
  totalDiscrepancy : Int
  lineCount : Nat
  matchedCount : Nat
  discrepancyCount : Nat
  status : CodBatchStatus
  journalId : Option Uuid
  cashbookEntryId : Option Uuid
  idempotencyKey : String
  lines : List CodSettlementLineEntity
deriving DecidableEq

structure CodDb where
  receivables : List CodReceivableEntity := []
  batches : List CodSettlementBatchEntity := []
  receivablesIssued : Nat := 0
  batchesIssued : Nat := 0

structure ShiftCashReconciliationEntity where
  id : Uuid
  shiftId : Uuid
  shiftCode : String
  branchId : Uuid
  cashAccountId : Option Uuid
  openingCash : Int
  confirmedCashSales : Int
  confirmedCashRefunds : Int
  otherCashReceipts : Int
  otherCashExpenses : Int
  expectedClosingCash : Int
  actualCountedCash : Int
  varianceAmount : Int
  status : ShiftReconciliationStatus
  varianceJournalId : Option Uuid
  reconciliationIssueId : Option Uuid
deriving DecidableEq

inductive IssueStatus where
  | open | investigating | resolved | ignored
deriving DecidableEq

structure ReconciliationIssueEntity where
  id : Uuid
  issueType : String
  sourceType : String
  sourceId : String
  expectedAmount : Int
  actualAmount : Int
  differenceAmount : Int
  status : IssueStatus
  description : String
  resolutionNote : Option String
deriving DecidableEq

structure ReconciliationDb where
  shifts : List ShiftCashReconciliationEntity := []
  issues : List ReconciliationIssueEntity := []
  /-- The sequence shift reconciliations without a code of their own are numbered in. -/
  reconciliationsIssued : Nat := 0

structure FinanceDb where
  ledger : JournalDb := {}
  cash : CashDb := {}
  credit : CreditDb := {}
  payables : DebtBook PayableColumns := {}
  settlement : SettlementDb := {}
  cod : CodDb := {}
  reconciliation : ReconciliationDb := {}

/-- The identifiers `randomUUID` draws in one transaction, by table. -/
structure Draws where
  account : Uuid := 0
  category : Uuid := 0
  journal : Uuid := 0
  entry : Uuid := 0
  document : Uuid := 0
  line : Uuid := 0
  issue : Uuid := 0
  key : Uuid := 0

/-- A new row's id: `randomUUID` never draws one that is taken. -/
abbrev newId (taken : List Uuid) (drawn : Uuid) : Uuid := Fresh.pick taken drawn

end Finance
