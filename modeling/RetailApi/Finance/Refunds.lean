import RetailApi.Finance.Settlements

/-! Refunds of what an order's tenders settled. A refund is completed once its payout is
confirmed: the settlements are charged, the journal posted and the payout booked together. -/

namespace Finance

open Transaction JsString JsNumber GlAccountCodes

/-- The settlements of an order, or the one that is named, in the order they were made; locked. -/
def lockOrderSettlementsInTx (db : SettlementDb) (orderId : Uuid) (settlementId : Option Uuid) :
    Except Failure (List PaymentSettlementEntity) := do
  let settlements := db.settlements.filter fun settlement =>
    settlement.orderId = orderId && settlementId.all (settlement.id = ·)
  ensure (settlements ≠ []) (.domain .refundNotEligible
    s!"Cannot process refund for order {orderId}: no payment settlement found" 409)
  return settlements

/-- `sum + parseVnd(amount, ...)` -/
def addVnd (field : String) (sum amount : Int) : Except Failure Int := do
  let parsed ← parseVnd amount { allowZero := true, field }
  return add sum parsed

/-- The amounts of a list added up, in the numbers of JavaScript. -/
def sumVnd (field : String) (amounts : List Int) : Except Failure Int := amounts.foldlM (addVnd field) 0

structure CreateRefundDto where
  orderId : Uuid
  salesRefundRequestId : Option Uuid := none
  returnId : Option Uuid := none
  settlementId : Option Uuid := none
  branchId : Option Uuid := none
  shiftId : Option Uuid := none
  cashAccountId : Option Uuid := none
  method : RefundMethod
  provider : Option String := none
  amount : Int
  autoApprove : Bool := false
  autoExecute : Bool := false
  idempotencyKey : Option String := none

def CreateRefundDto.key (dto : CreateRefundDto) (header : Option String) (drawn : Uuid) : String :=
  cleanKey header dto.idempotencyKey (match dto.salesRefundRequestId with
    | some requestId => s!"rf:srr:{requestId}"
    | none => s!"rf:{dto.orderId}:{dto.returnId.getD drawn}")

def CreateRefundDto.payload (dto : CreateRefundDto) (amount : Int) : RefundPayload where
  orderId := dto.orderId
  returnId := dto.returnId
  method := dto.method
  amount := amount

structure ExecuteRefundDto where
  cashAccountId : Option Uuid := none
  externalRefundRef : Option String := none
  simulateProviderTimeout : Bool := false
  requireReconciliationOnTimeout : Bool := false

inductive RefundOutcome where
  | completed | failed | reconciliationRequired
deriving DecidableEq

structure ConfirmRefundOutcomeDto where
  outcome : RefundOutcome
  externalRefundRef : Option String := none
  cashAccountId : Option Uuid := none
  failureReason : Option String := none

structure RefundResponse where
  refund : RefundOperationEntity
  replayed : Bool

namespace SettlementDb

def refund (db : SettlementDb) (id : Uuid) : Option RefundOperationEntity := db.refunds.find? (·.id = id)

def saveRefund (db : SettlementDb) (refund : RefundOperationEntity) : SettlementDb :=
  { db with refunds := Rows.save (·.id) refund db.refunds }

/-- The refund made before under the key of a request or for its sales refund request. -/
def requestedRefund (db : SettlementDb) (dto : CreateRefundDto) (key : String) : Option RefundOperationEntity :=
  db.refunds.find? fun refund => refund.idempotencyKey = key ∨
    dto.salesRefundRequestId ≠ none ∧ refund.salesRefundRequestId = dto.salesRefundRequestId

end SettlementDb

def lockRefund (db : SettlementDb) (id : Uuid) : Except Failure RefundOperationEntity :=
  required (db.refund id) (.domain .refundNotFound s!"Refund operation {id} not found" 404)

structure ChargeProgress where
  rows : SettlementDb
  remaining : Int

/-- Charges one settlement with as much of a refund as it has left. -/
def chargeSettlement (progress : ChargeProgress) (settlement : PaymentSettlementEntity) : Except Failure ChargeProgress :=
  if progress.remaining ≤ 0 then .ok progress
  else do
    let settled ← parseVnd settlement.settledAmount { allowZero := true, field := "settledAmount" }
    let refunded ← parseVnd settlement.refundedAmount { allowZero := true, field := "refundedAmount" }
    let available := settled - refunded
    if available ≤ 0 then .ok progress
    else do
      let delta := if progress.remaining ≤ available then progress.remaining else available
      let rows ← progress.rows.saveSettlement { settlement with refundedAmount := refunded + delta }
      return { rows, remaining := progress.remaining - delta }

/-- Charges a refund to the settlements of its order, the oldest first. -/
def chargeSettlements (db : SettlementDb) (refund : RefundOperationEntity) : Except Failure SettlementDb := do
  let settlements ← lockOrderSettlementsInTx db refund.orderId refund.settlementId
  let amount ← parseVnd refund.amount
  let paid ← sumVnd "settledAmount" (settlements.map (·.settledAmount))
  let refunded ← sumVnd "refundedAmount" (settlements.map (·.refundedAmount))
  let _ ← validateRefundAllocation {
    originalPaidAmount := paid, alreadyRefundedAmount := refunded, requestedRefundAmount := refund.amount }
  let progress ← settlements.foldlM chargeSettlement { rows := db, remaining := amount }
  return progress.rows

/-- The type of the account a method pays out from, for the methods that do. -/
def RefundMethod.accountType : RefundMethod → Option DefaultAccountType
  | .cash => some .cashDrawer
  | .bankTransfer | .card | .eWallet => some .bank
  | .customerCredit => none

/-- The account a refund is credited to when there is no cash account. -/
def RefundMethod.creditGl : RefundMethod → String
  | .customerCredit => accountsReceivable
  | .cash => cashOnHand
  | .bankTransfer | .card | .eWallet => cashAtBank

def refundJournal (refund : RefundOperationEntity) (creditGl : String) : PostJournalInTxInput where
  journalType := "REFUND"
  sourceType := "REFUND_OPERATION"
  sourceId := toString refund.id
  idempotencyKey := some s!"rf-jnl:{refund.id}"
  lines := [{ accountCode := salesReturnRefund, debitAmount := some refund.amount },
    { accountCode := creditGl, creditAmount := some refund.amount }]

def refundVoucher (refund : RefundOperationEntity) (journalId accountId : Uuid) : VoucherInput where
  direction := .expense
  cashAccountId := accountId
  categoryCode := some "CUSTOMER_REFUND"
  amount := refund.amount
  branchId := refund.branchId
  sourceType := some "REFUND_OPERATION"
  sourceId := some (toString refund.id)
  description := some s!"Customer refund {refund.code} for order {refund.orderId}"
  autoPost := true
  idempotencyKey := some s!"rf-cb:{refund.id}"
  skipJournalIfLinked := some journalId

structure RefundCompletionOptions where
  cashAccountId : Option Uuid
  externalRefundRef : Option String

def RefundOperationEntity.complete (refund : RefundOperationEntity) (options : RefundCompletionOptions)
    (account : Option CashAccountEntity) (journalId : Uuid) (voucherId : Option Uuid) : RefundOperationEntity :=
  { refund with
    status := .completed
    cashAccountId := account.map (·.id) <|> refund.cashAccountId
    externalRefundRef := options.externalRefundRef <|> refund.externalRefundRef
    journalId := some journalId, cashbookEntryId := voucherId, failureReason := none }

def finalizeRefundCompletionInTx (db : FinanceDb) (draws : Draws) (refund : RefundOperationEntity)
    (options : RefundCompletionOptions) : Except Failure (FinanceDb × RefundOperationEntity) := do
  let rows ← chargeSettlements db.settlement refund
  let (cash, account) ← methodAccount db.cash draws.account (options.cashAccountId <|> refund.cashAccountId) refund.branchId
    refund.method.accountType
  let creditGl := (account.map (·.glAccountCode)).getD refund.method.creditGl
  let (ledger, posted) ← postJournalInTx db.ledger draws.journal (refundJournal refund creditGl)
  let (db, voucherId) ← linkedVoucher { db with ledger, cash } draws account (refundVoucher refund posted.journal.id)
  let completed := refund.complete options account posted.journal.id voucherId
  return ({ db with
    settlement := rows.saveRefund completed
    reconciliation := db.reconciliation.resolve "REFUND_OPERATION" (toString refund.id)
      s!"Refund {refund.code} confirmed COMPLETED" }, completed)

def refundTimeoutIssue (tenantId : Uuid) (refund : RefundOperationEntity) : IssueInput where
  issueType := "REFUND_PROVIDER_TIMEOUT"
  sourceType := "REFUND_OPERATION"
  sourceId := toString refund.id
  expectedAmount := refund.amount
  actualAmount := 0
  differenceAmount := refund.amount
  description := s!"Refund {refund.code} timed out with provider {refund.provider} " ++
    s!"(providerIdempotencyKey=rf-prov:{tenantId}:{refund.code})"

/-- Leaves a refund whose provider did not answer to be confirmed. -/
def timeOutRefund (db : FinanceDb) (draws : Draws) (refund : RefundOperationEntity) (dto : ExecuteRefundDto) :
    FinanceDb × RefundOperationEntity :=
  let waiting := { refund with
    status := if dto.requireReconciliationOnTimeout then .reconciliationRequired else .pendingConfirmation
    failureReason := some "External payment provider timed out; awaiting reconciliation confirmation" }
  ({ db with
    settlement := db.settlement.saveRefund waiting
    reconciliation := db.reconciliation.raise draws.issue (refundTimeoutIssue db.ledger.tenantId waiting) }, waiting)

def payOutRefund (db : FinanceDb) (draws : Draws) (refund : RefundOperationEntity) (dto : ExecuteRefundDto) :
    Except Failure (FinanceDb × RefundOperationEntity) := do
  ensure (refund.status ≠ .failed ∧ refund.status ≠ .rejected) (.domain .refundInvalidState
    s!"Cannot execute refund in terminal state {refund.status}" 409)
  if dto.simulateProviderTimeout = true then return timeOutRefund db draws refund dto
  else finalizeRefundCompletionInTx db draws refund ⟨dto.cashAccountId, dto.externalRefundRef⟩

def executeRefundInTx (db : FinanceDb) (draws : Draws) (refundId : Uuid) (dto : ExecuteRefundDto) :
    Except Failure (FinanceDb × RefundOperationEntity) := do
  let refund ← lockRefund db.settlement refundId
  if refund.status = .completed then return (db, refund)
  else payOutRefund db draws refund dto

/-- A new refund; what the request leaves out is as in the first settlement. -/
def CreateRefundDto.refund (dto : CreateRefundDto) (key : String) (id : Uuid) (code : String) (amount : Int)
    (target : Option PaymentSettlementEntity) : RefundOperationEntity where
  id := id
  code := code
  salesRefundRequestId := dto.salesRefundRequestId
  returnId := dto.returnId
  orderId := dto.orderId
  settlementId := target.map (·.id) <|> dto.settlementId
  branchId := dto.branchId <|> target.bind (·.branchId)
  shiftId := dto.shiftId <|> target.bind (·.shiftId)
  cashAccountId := dto.cashAccountId
  amount := amount
  method := dto.method
  status := if dto.autoApprove = true ∨ dto.autoExecute = true then .approved else .requested
  provider := dto.provider.getD (if dto.method = .cash then "MANUAL_CASH" else (target.map (·.provider)).getD "GATEWAY")
  externalRefundRef := none
  cashbookEntryId := none
  journalId := none
  idempotencyKey := key
  requestHash := dto.payload amount
  failureReason := none

def replayRefund (existing : RefundOperationEntity) (key : String) (payload : RefundPayload) :
    Except Failure RefundResponse := do
  ensure (existing.requestHash = payload) (.domain .idempotencyConflict
    s!"Refund idempotency key \"{key}\" was already used with a different payload" 409)
  return { refund := existing, replayed := true }

def activeRefunds (db : SettlementDb) (orderId : Uuid) : List Int :=
  (db.refunds.filter fun refund =>
    refund.orderId = orderId && refund.status ≠ .failed && refund.status ≠ .rejected).map (·.amount)

/-- Files a refund that fits what the settlements of the order leave. -/
def fileRefund (db : SettlementDb) (draws : Draws) (dto : CreateRefundDto) (key : String) (amount : Int) :
    Except Failure (SettlementDb × RefundOperationEntity) := do
  let settlements ← lockOrderSettlementsInTx db dto.orderId dto.settlementId
  let paid ← sumVnd "settledAmount" ((settlements.filter (·.settlementStatus = .settled)).map (·.settledAmount))
  ensure (0 < paid) (.domain .refundNotEligible s!"Order {dto.orderId} has no settled payments eligible for refund" 409)
  let refunded ← sumVnd "amount" (activeRefunds db dto.orderId)
  let _ ← validateRefundAllocation {
    originalPaidAmount := paid, alreadyRefundedAmount := refunded, requestedRefundAmount := amount }
  let refund := dto.refund key (newId (db.refunds.map (·.id)) draws.document)
    (documentCode "RFD" (db.refundsIssued + 1)) amount settlements.head?
  return ({ db with refunds := db.refunds ++ [refund], refundsIssued := db.refundsIssued + 1 }, refund)

/-- Executes a refund that was just filed, when the request wants it executed. -/
def autoExecuteRefund (db : FinanceDb) (draws : Draws) (dto : CreateRefundDto) (refund : RefundOperationEntity) :
    Except Failure (FinanceDb × RefundOperationEntity) :=
  if dto.autoExecute = true then executeRefundInTx db draws refund.id { cashAccountId := dto.cashAccountId }
  else .ok (db, refund)

def createRefundInTx (db : FinanceDb) (draws : Draws) (idempotencyKeyHeader : Option String) (dto : CreateRefundDto) :
    Except Failure (FinanceDb × RefundResponse) := do
  let amount ← parseVnd dto.amount
  let key := dto.key idempotencyKeyHeader draws.key
  match db.settlement.requestedRefund dto key with
  | some existing => do
    let response ← replayRefund existing key (dto.payload amount)
    return (db, response)
  | none => do
    let (settlement, filed) ← fileRefund db.settlement draws dto key amount
    let (db, refund) ← autoExecuteRefund { db with settlement } draws dto filed
    return (db, { refund, replayed := false })

def approveRefund (db : SettlementDb) (refundId : Uuid) : Except Failure (SettlementDb × RefundOperationEntity) := do
  let refund ← lockRefund db refundId
  if refund.status = .approved then return (db, refund)
  else do
    ensure (refund.status = .requested)
      (.domain .refundInvalidState s!"Cannot approve refund in state {refund.status}" 409)
    let approved := { refund with status := .approved }
    return (db.saveRefund approved, approved)

def settleOutcome (db : FinanceDb) (draws : Draws) (refund : RefundOperationEntity) (dto : ConfirmRefundOutcomeDto) :
    Except Failure (FinanceDb × RefundOperationEntity) :=
  match dto.outcome with
  | .failed =>
    let reason := dto.failureReason.getD "Confirmed failed by payment provider"
    let failed := { refund with status := .failed, failureReason := some reason }
    .ok ({ db with
      settlement := db.settlement.saveRefund failed
      reconciliation := db.reconciliation.resolve "REFUND_OPERATION" (toString refund.id)
        s!"Provider confirmed refund failed: {reason}" }, failed)
  | .reconciliationRequired =>
    let escalated := { refund with
      status := .reconciliationRequired
      failureReason := some (dto.failureReason.getD "Escalated to manual reconciliation") }
    .ok ({ db with settlement := db.settlement.saveRefund escalated }, escalated)
  | .completed => finalizeRefundCompletionInTx db draws refund ⟨dto.cashAccountId, dto.externalRefundRef⟩

def confirmRefundOutcome (db : FinanceDb) (draws : Draws) (refundId : Uuid) (dto : ConfirmRefundOutcomeDto) :
    Except Failure (FinanceDb × RefundOperationEntity) := do
  let refund ← lockRefund db.settlement refundId
  if refund.status = .completed ∧ dto.outcome = .completed then return (db, refund)
  else settleOutcome db draws refund dto

inductive RefundRequest where
  | create (draws : Draws) (idempotencyKeyHeader : Option String) (dto : CreateRefundDto)
  | approve (refundId : Uuid)
  | execute (draws : Draws) (refundId : Uuid) (dto : ExecuteRefundDto)
  | confirm (draws : Draws) (refundId : Uuid) (dto : ConfirmRefundOutcomeDto)

def RefundRequest.perform (db : FinanceDb) : RefundRequest → Except Failure FinanceDb
  | .create draws header dto => (·.1) <$> createRefundInTx db draws header dto
  | .approve refundId => (fun done => { db with settlement := done.1 }) <$> approveRefund db.settlement refundId
  | .execute draws refundId dto => (·.1) <$> executeRefundInTx db draws refundId dto
  | .confirm draws refundId dto => (·.1) <$> confirmRefundOutcome db draws refundId dto

/-- One request, in a transaction of its own. The locks on the refund's row, on the order and on its
settlements are held to the end of it, so requests that overlap take effect one after another. -/
def refundStep (db : FinanceDb) (request : RefundRequest) : FinanceDb := commit db (request.perform db)

end Finance
