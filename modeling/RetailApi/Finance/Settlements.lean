import RetailApi.Finance.Cashbook

/-! Settlements of the tenders of orders. A confirmed tender is posted and booked once; one
that does not come out as requested waits for a reconciliation. -/

namespace Finance

open Transaction JsString JsNumber GlAccountCodes

structure IssueInput where
  issueType : String
  sourceType : String
  sourceId : String
  expectedAmount : Int
  actualAmount : Int
  differenceAmount : Int
  description : String

def IssueInput.issue (input : IssueInput) (id : Uuid) : ReconciliationIssueEntity where
  id := id
  issueType := input.issueType
  sourceType := input.sourceType
  sourceId := input.sourceId
  expectedAmount := input.expectedAmount
  actualAmount := input.actualAmount
  differenceAmount := input.differenceAmount
  status := .open
  description := input.description
  resolutionNote := none

namespace ReconciliationDb

def issueId (db : ReconciliationDb) (drawn : Uuid) : Uuid := newId (db.issues.map (·.id)) drawn

def raise (db : ReconciliationDb) (drawn : Uuid) (input : IssueInput) : ReconciliationDb :=
  { db with issues := db.issues ++ [input.issue (db.issueId drawn)] }

def resolve (db : ReconciliationDb) (sourceType sourceId note : String) : ReconciliationDb :=
  { db with
    issues := db.issues.map fun issue =>
      if issue.sourceType = sourceType ∧ issue.sourceId = sourceId ∧ issue.status = .open then
        { issue with status := .resolved, resolutionNote := some note }
      else issue }

end ReconciliationDb

structure ConfirmSettlementDto where
  orderId : Uuid
  branchId : Option Uuid := none
  shiftId : Option Uuid := none
  tenderRef : Option String := none
  paymentMethod : SettlementMethod
  provider : Option String := none
  externalTxId : Option String := none
  requestedAmount : Int
  confirmedAmount : Option Int := none
  settledAmount : Option Int := none
  cashAccountId : Option Uuid := none
  ambiguousOutcome : Bool := false
  idempotencyKey : Option String := none

structure SettlementAmounts where
  requested : Int
  confirmed : Int
  settled : Int

namespace ConfirmSettlementDto

def tender (dto : ConfirmSettlementDto) : String := trimmed (dto.tenderRef.getD s!"tender:{dto.orderId}:{dto.paymentMethod}")

def providerName (dto : ConfirmSettlementDto) : String := toUpperCase (trimmed (dto.provider.getD "INTERNAL_POS"))

def key (dto : ConfirmSettlementDto) (header : Option String) : String :=
  cleanKey header dto.idempotencyKey s!"stl:{dto.orderId}:{dto.tender}"

/-- The amounts of a tender: what is not given, or zero, is as requested or as confirmed. -/
def amounts (dto : ConfirmSettlementDto) : Except Failure SettlementAmounts := do
  let requested ← parseVnd dto.requestedAmount { field := "requestedAmount" }
  let confirmed ← parseVnd ((dto.confirmedAmount.filter (· ≠ 0)).getD requested)
    { allowZero := true, field := "confirmedAmount" }
  let settled ← parseVnd ((dto.settledAmount.filter (· ≠ 0)).getD confirmed) { allowZero := true, field := "settledAmount" }
  return { requested, confirmed, settled }

end ConfirmSettlementDto

def SettlementAmounts.hasMismatch (amounts : SettlementAmounts) : Prop :=
  amounts.requested ≠ amounts.confirmed ∨ amounts.confirmed ≤ 0

instance (amounts : SettlementAmounts) : Decidable amounts.hasMismatch := inferInstanceAs (Decidable (_ ∨ _))

namespace SettlementDb

def byTender (db : SettlementDb) (orderId : Uuid) (tenderRef : String) : Option PaymentSettlementEntity :=
  db.settlements.find? fun settlement => settlement.orderId = orderId ∧ settlement.tenderRef = tenderRef

/-- The settlement that answers a request made before: under its key, for its transaction, or settled for its tender. -/
def answered (db : SettlementDb) (dto : ConfirmSettlementDto) (header : Option String) : Option PaymentSettlementEntity :=
  db.settlements.find? (·.idempotencyKey = dto.key header) <|>
    ((dto.externalTxId.filter (· ≠ "")).bind fun externalTxId => db.settlements.find? fun settlement =>
      settlement.provider = dto.providerName ∧ settlement.externalTxId = some (trimmed externalTxId)) <|>
    (db.byTender dto.orderId dto.tender).filter (·.settlementStatus = .settled)

/-- `save` of a settlement under the constraints that the code does not check itself. -/
def saveSettlement (db : SettlementDb) (settlement : PaymentSettlementEntity) : Except Failure SettlementDb := do
  ensure (settlement.externalTxId = none ∨ ∀ other ∈ db.settlements, other.id ≠ settlement.id →
      (other.provider, other.externalTxId) ≠ (settlement.provider, settlement.externalTxId))
    (.database "UQ_payment_settlements_provider_tx")
  ensure (settlement.refundedAmount ≤ settlement.confirmedAmount) (.database "CHK_payment_settlements_amounts")
  return { db with
    settlements := if db.settlements.any (·.id = settlement.id) then Rows.save (·.id) settlement db.settlements
      else db.settlements ++ [settlement] }

/-- The id and the code of a settlement: those of the row its tender has, or new ones. -/
def identify (db : SettlementDb) (drawn : Uuid) (previous : Option PaymentSettlementEntity) : SettlementDb × Uuid × String :=
  match previous with
  | some settlement => (db, settlement.id, settlement.code)
  | none => ({ db with settlementsIssued := db.settlementsIssued + 1 }, newId (db.settlements.map (·.id)) drawn,
      documentCode "STL" (db.settlementsIssued + 1))

end SettlementDb

structure SettlementResponse where
  settlement : PaymentSettlementEntity
  replayed : Bool

def ConfirmSettlementDto.pending (dto : ConfirmSettlementDto) (header : Option String) (id : Uuid) (code : String)
    (amounts : SettlementAmounts) (previous : Option PaymentSettlementEntity) : PaymentSettlementEntity where
  id := id
  code := code
  orderId := dto.orderId
  branchId := dto.branchId
  shiftId := dto.shiftId
  tenderRef := dto.tender
  paymentMethod := dto.paymentMethod
  provider := dto.providerName
  externalTxId := dto.externalTxId.map trimmed
  requestedAmount := amounts.requested
  confirmedAmount := amounts.confirmed
  settledAmount := 0
  refundedAmount := (previous.map (·.refundedAmount)).getD 0
  providerStatus := if amounts.hasMismatch then "AMOUNT_MISMATCH" else "AMBIGUOUS"
  settlementStatus := .reconciliationRequired
  cashbookEntryId := none
  journalId := none
  idempotencyKey := dto.key header

def settlementIssue (settlement : PaymentSettlementEntity) (amounts : SettlementAmounts) : IssueInput where
  issueType := if amounts.hasMismatch then "SETTLEMENT_AMOUNT_MISMATCH" else "AMBIGUOUS_SETTLEMENT"
  sourceType := "PAYMENT_SETTLEMENT"
  sourceId := toString settlement.id
  expectedAmount := amounts.requested
  actualAmount := amounts.confirmed
  differenceAmount := amounts.confirmed - amounts.requested
  description := if amounts.hasMismatch then
      s!"Order {settlement.orderId} tender {settlement.tenderRef} confirmed amount ({amounts.confirmed}) " ++
        s!"!= requested amount ({amounts.requested})"
    else s!"Order {settlement.orderId} tender {settlement.tenderRef} reported ambiguous settlement outcome"

def leavePending (db : FinanceDb) (draws : Draws) (rows : SettlementDb) (pending : PaymentSettlementEntity)
    (amounts : SettlementAmounts) : Except Failure (FinanceDb × SettlementResponse) := do
  let settlement ← rows.saveSettlement pending
  let reconciliation := db.reconciliation.raise draws.issue (settlementIssue pending amounts)
  return ({ db with settlement, reconciliation }, { settlement := pending, replayed := false })

/-- The type of the account a method goes through, for the methods that do. -/
def SettlementMethod.accountType : SettlementMethod → Option DefaultAccountType
  | .cash => some .cashDrawer
  | .bankTransfer | .card | .eWallet => some .bank
  | .cod | .onAccount | .other _ => none

def resolveDebitGlForMethod : SettlementMethod → String
  | .cash => cashOnHand
  | .bankTransfer | .card | .eWallet => cashAtBank
  | .cod => codCarrierReceivable
  | .onAccount => accountsReceivable
  | .other _ => cashOnHand

def settlementJournal (settlementId : Uuid) (key debitGl : String) (settled : Int) : PostJournalInTxInput where
  journalType := "PAYMENT_SETTLEMENT"
  sourceType := "PAYMENT_SETTLEMENT"
  sourceId := toString settlementId
  idempotencyKey := some s!"stl-jnl:{key}"
  lines := [{ accountCode := debitGl, debitAmount := some settled },
    { accountCode := salesRevenueClearing, creditAmount := some settled }]

def settlementVoucher (pending : PaymentSettlementEntity) (settled : Int) (journalId accountId : Uuid) : VoucherInput where
  direction := .receipt
  cashAccountId := accountId
  categoryCode := some "SALES_RECEIPT"
  amount := settled
  branchId := pending.branchId
  sourceType := some "PAYMENT_SETTLEMENT"
  sourceId := some (toString pending.id)
  description := some s!"Receipt for order {pending.orderId} ({pending.code})"
  autoPost := true
  idempotencyKey := some s!"stl-cb:{pending.idempotencyKey}"
  skipJournalIfLinked := some journalId

def PaymentSettlementEntity.settle (pending : PaymentSettlementEntity) (settled : Int) (voucherId : Option Uuid)
    (journalId : Uuid) : PaymentSettlementEntity :=
  { pending with
    settledAmount := settled, providerStatus := "CONFIRMED", settlementStatus := .settled
    cashbookEntryId := voucherId, journalId := some journalId }

def settle (db : FinanceDb) (draws : Draws) (rows : SettlementDb) (cashAccountId : Option Uuid)
    (pending : PaymentSettlementEntity) (settled : Int) (previous : Option PaymentSettlementEntity) :
    Except Failure (FinanceDb × SettlementResponse) := do
  let (cash, account) ← methodAccount db.cash draws.account cashAccountId pending.branchId pending.paymentMethod.accountType
  let debitGl := (account.map (·.glAccountCode)).getD (resolveDebitGlForMethod pending.paymentMethod)
  let (ledger, posted) ← postJournalInTx db.ledger draws.journal
    (settlementJournal pending.id pending.idempotencyKey debitGl settled)
  let (db, voucherId) ← linkedVoucher { db with ledger, cash } draws account
    (settlementVoucher pending settled posted.journal.id)
  let done := pending.settle settled voucherId posted.journal.id
  let settlement ← rows.saveSettlement done
  let reconciliation := if previous.any (·.settlementStatus = .reconciliationRequired) then
      db.reconciliation.resolve "PAYMENT_SETTLEMENT" (toString done.id)
        s!"Resolved by verified settlement confirmation ({done.code})"
    else db.reconciliation
  return ({ db with settlement, reconciliation }, { settlement := done, replayed := false })

def confirmNew (db : FinanceDb) (draws : Draws) (header : Option String) (dto : ConfirmSettlementDto) :
    Except Failure (FinanceDb × SettlementResponse) := do
  let amounts ← dto.amounts
  let previous := db.settlement.byTender dto.orderId dto.tender
  let (rows, id, code) := db.settlement.identify draws.document previous
  let pending := dto.pending header id code amounts previous
  if dto.ambiguousOutcome = true ∨ amounts.hasMismatch then leavePending db draws rows pending amounts
  else settle db draws rows dto.cashAccountId pending amounts.settled previous

def confirmSettlementInTx (db : FinanceDb) (draws : Draws) (idempotencyKeyHeader : Option String) (dto : ConfirmSettlementDto) :
    Except Failure (FinanceDb × SettlementResponse) :=
  match db.settlement.answered dto idempotencyKeyHeader with
  | some existing => .ok (db, { settlement := existing, replayed := true })
  | none => confirmNew db draws idempotencyKeyHeader dto

inductive ProviderStatus where
  | confirmed | settled | failed | pending | ambiguous
deriving DecidableEq

structure ProviderWebhookCallbackDto where
  provider : String
  externalTxId : String
  orderId : Uuid
  branchId : Option Uuid := none
  tenderRef : Option String := none
  paymentMethod : Option SettlementMethod := none
  confirmedAmount : Int
  requestedAmount : Option Int := none
  providerStatus : Option ProviderStatus := none
  cashAccountId : Option Uuid := none
  idempotencyKey : Option String := none

def ProviderWebhookCallbackDto.webhookKey (dto : ProviderWebhookCallbackDto) : String :=
  dto.idempotencyKey.getD s!"webhook:{dto.provider}:{dto.externalTxId}"

def ProviderWebhookCallbackDto.confirmation (dto : ProviderWebhookCallbackDto) : ConfirmSettlementDto where
  orderId := dto.orderId
  branchId := dto.branchId
  tenderRef := some (dto.tenderRef.getD s!"{dto.provider}:{dto.externalTxId}")
  paymentMethod := dto.paymentMethod.getD .eWallet
  provider := some dto.provider
  externalTxId := some dto.externalTxId
  requestedAmount := dto.requestedAmount.getD dto.confirmedAmount
  confirmedAmount := some dto.confirmedAmount
  settledAmount := some dto.confirmedAmount
  cashAccountId := dto.cashAccountId
  ambiguousOutcome := dto.providerStatus = some .ambiguous ∨ dto.providerStatus = some .pending ∨
    dto.providerStatus = some .failed
  idempotencyKey := some dto.webhookKey

def processProviderCallback (db : FinanceDb) (draws : Draws) (idempotencyKeyHeader : Option String)
    (dto : ProviderWebhookCallbackDto) : Except Failure (FinanceDb × SettlementResponse) :=
  confirmSettlementInTx db draws (some (idempotencyKeyHeader.getD dto.webhookKey)) dto.confirmation

end Finance
