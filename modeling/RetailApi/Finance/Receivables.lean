import RetailApi.Finance.Credit

/-! Customer receivables: recognised under the credit limit, and paid by debt collections that
never count as new revenue. -/

namespace Finance

open Transaction JsString JsNumber GlAccountCodes

structure RecognizeReceivableDto where
  customerId : Uuid
  amount : Int
  orderId : Option Uuid := none
  branchId : Option Uuid := none
  sourceType : Option String := none
  sourceId : Option String := none
  overrideApprovedBy : Option String := none
  idempotencyKey : Option String := none

/-- What a document is recognised for, and under which key. -/
structure RecognitionKeys where
  sourceType : String
  sourceId : String
  idempotencyKey : String

def RecognizeReceivableDto.keys (dto : RecognizeReceivableDto) (header : Option String) : RecognitionKeys :=
  let sourceType := toUpperCase (trimmed (dto.sourceType.getD "SALES_ORDER"))
  let sourceId := trimmed ((dto.sourceId <|> dto.orderId.map toString).getD s!"manual:{dto.customerId}:{dto.amount}")
  { sourceType, sourceId, idempotencyKey := cleanKey header dto.idempotencyKey s!"ar:{sourceType}:{sourceId}" }

/-- A document recognised before for the same source or under the same key. -/
def DebtBook.recognized {Columns : Type} (book : DebtBook Columns) (keys : RecognitionKeys) :
    Option (ObligationEntity Columns) :=
  book.documents.find? fun doc =>
    doc.sourceType = keys.sourceType ∧ doc.sourceId = keys.sourceId ∨ doc.idempotencyKey = keys.idempotencyKey

def receivableJournal (keys : RecognitionKeys) (amount : Int) : PostJournalInTxInput where
  journalType := "CREDIT_SALE_RECEIVABLE"
  sourceType := keys.sourceType
  sourceId := keys.sourceId
  idempotencyKey := some s!"ar-jnl:{keys.idempotencyKey}"
  lines := [{ accountCode := accountsReceivable, debitAmount := some amount },
    { accountCode := salesRevenueClearing, creditAmount := some amount }]

def RecognizeReceivableDto.receivable (dto : RecognizeReceivableDto) (keys : RecognitionKeys) (id : Uuid) (code : String)
    (amount : Int) (journalId : Uuid) : CustomerReceivableEntity where
  id := id
  code := code
  partyId := dto.customerId
  originalAmount := amount
  paidAmount := 0
  adjustedAmount := 0
  outstandingAmount := amount
  status := .open
  sourceType := keys.sourceType
  sourceId := keys.sourceId
  journalId := journalId
  idempotencyKey := keys.idempotencyKey
  columns := { orderId := dto.orderId, branchId := dto.branchId, creditAuthorizationId := none }

def receivableLedgerRow (keys : RecognitionKeys) (customerId receivableId journalId : Uuid) (amount postedBefore : Int) :
    DebtLedgerEntity where
  partyId := customerId
  documentId := receivableId
  entryType := .debtRecognized
  amountDelta := amount
  balanceBefore := postedBefore
  balanceAfter := add postedBefore amount
  cashbookEntryId := none
  journalId := journalId
  referenceType := keys.sourceType
  referenceId := keys.sourceId
  idempotencyKey := s!"ar-ldg:{keys.idempotencyKey}"

structure ReceivableResponse where
  receivable : CustomerReceivableEntity
  customerTotalDebtAfter : Int
  replayed : Bool

/-- The receivable that answers a recognition made before. -/
def replayReceivable (existing : CustomerReceivableEntity) (profile : CustomerCreditProfileEntity) (keys : RecognitionKeys)
    (customerId : Uuid) (amount : Int) : Except Failure ReceivableResponse := do
  ensure (existing.partyId = customerId ∧ existing.originalAmount = amount) (.domain .idempotencyConflict
    (s!"Receivable idempotency key \"{keys.idempotencyKey}\" or source \"{keys.sourceType}:{keys.sourceId}\" " ++
      "was already used with different parameters") 409)
  return { receivable := existing, customerTotalDebtAfter := profile.postedDebt, replayed := true }

def recognizeNew (db : FinanceDb) (draws : Draws) (keys : RecognitionKeys) (amount : Int) (dto : RecognizeReceivableDto)
    (profile : CustomerCreditProfileEntity) : Except Failure (FinanceDb × ReceivableResponse) := do
  let _ ← evaluateCreditAuthorization {
    creditLimit := profile.creditLimit, postedDebt := profile.postedDebt, heldCredit := profile.heldCredit
    requestedAmount := amount, overrideApprovedBy := dto.overrideApprovedBy }
  let postedBefore ← parseVnd profile.postedDebt { allowZero := true, field := "postedDebt" }
  let (ledger, posted) ← postJournalInTx db.ledger draws.journal (receivableJournal keys amount)
  let book := db.credit.receivables
  let receivable := dto.receivable keys (newId (book.documents.map (·.id)) draws.document)
    (documentCode "AR" (book.issued + 1)) amount posted.journal.id
  let book ← book.insertDocument receivable
  let book ← book.insertLedger
    (receivableLedgerRow keys dto.customerId receivable.id posted.journal.id amount postedBefore)
  let profile := { profile with postedDebt := add postedBefore amount }
  let credit := { db.credit with receivables := book }.saveProfile dto.customerId profile
  return ({ db with ledger, credit },
    { receivable, customerTotalDebtAfter := profile.postedDebt, replayed := false })

def recognizeReceivable (db : FinanceDb) (draws : Draws) (idempotencyKeyHeader : Option String) (dto : RecognizeReceivableDto) :
    Except Failure (FinanceDb × ReceivableResponse) := do
  let amount ← parseVnd dto.amount
  let keys := dto.keys idempotencyKeyHeader
  let (credit, profile) ← lockOrCreateProfileInTx db.credit dto.customerId
  let db := { db with credit }
  match db.credit.receivables.recognized keys with
  | some existing => do
    let response ← replayReceivable existing profile keys dto.customerId amount
    return (db, response)
  | none => recognizeNew db draws keys amount dto profile

structure RecordReceivablePaymentDto where
  amount : Int
  paymentMethod : Option PaymentMethod := none
  cashAccountId : Option Uuid := none
  branchId : Option Uuid := none
  overpaymentPolicy : Option OverpaymentPolicy := none
  allocations : List RequestedAllocationLine := []
  note : Option String := none
  idempotencyKey : Option String := none

structure ReceivablePaymentResponse where
  receivable : Option CustomerReceivableEntity
  allocations : List CalculatedAllocationLine
  customerTotalDebtAfter : Int
  prepaymentBalanceAfter : Int
  journalId : Uuid
  cashbookEntryId : Option Uuid
  replayed : Bool

def replayReceivablePayment (db : FinanceDb) (row : DebtLedgerEntity) :
    Except Failure (FinanceDb × ReceivablePaymentResponse) := do
  let (credit, profile) ← lockOrCreateProfileInTx db.credit row.partyId
  return ({ db with credit }, {
    receivable := db.credit.receivables.document row.documentId, allocations := []
    customerTotalDebtAfter := profile.postedDebt, prepaymentBalanceAfter := profile.prepaymentBalance
    journalId := row.journalId, cashbookEntryId := row.cashbookEntryId, replayed := true })

/-- The customer a payment is from: named by the request, or by the receivable it is for. -/
def paymentCustomer (db : FinanceDb) (targetReceivableId targetCustomerId : Option Uuid) : Except Failure Uuid :=
  match targetCustomerId, targetReceivableId with
  | some customerId, _ => .ok customerId
  | none, some receivableId => do
    let target ← required (db.credit.receivables.document receivableId)
      (.domain .receivableNotFound s!"Receivable {receivableId} not found" 404)
    return target.partyId
  | none, none => .error (.domain .validationError "customerId or receivableId is required")

/-- The receivable that was asked for, or any that is open. -/
def isTarget (targetReceivableId : Option Uuid) (doc : CustomerReceivableEntity) : Bool :=
  match targetReceivableId with
  | some id => doc.id = id
  | none => doc.status = .open ∨ doc.status = .partiallyPaid

/-- The receivables a payment may be allocated to, oldest first. -/
def openReceivables (db : FinanceDb) (targetReceivableId : Option Uuid) (customerId : Uuid) : List CustomerReceivableEntity :=
  db.credit.receivables.documents.filter fun doc => doc.partyId = customerId && isTarget targetReceivableId doc

/-- The posting for a debt collection: cash against receivables, and against prepayment for what is over. -/
def collectionJournal (key cashGl : String) (result : CalculatedPaymentAllocationResult) : PostJournalInTxInput where
  journalType := "RECEIVABLE_COLLECTION"
  sourceType := "RECEIVABLE_PAYMENT"
  sourceId := key
  idempotencyKey := some s!"ar-pay-jnl:{key}"
  lines := [{ accountCode := cashGl, debitAmount := some result.paymentAmount },
    { accountCode := accountsReceivable, creditAmount := some result.totalAllocated }] ++
    if 0 < result.overpaymentAmount then
      [{ accountCode := customerPrepayment, creditAmount := some result.overpaymentAmount }]
    else []

/-- The receipt voucher of a debt collection, linked to its journal. -/
def collectionVoucher (key : String) (accountId : Uuid) (amount : Int) (branchId : Option Uuid) (description : String)
    (journalId : Uuid) : VoucherInput where
  direction := .receipt
  cashAccountId := accountId
  categoryCode := some "DEBT_COLLECTION"
  amount := amount
  branchId := branchId
  sourceType := some "RECEIVABLE_PAYMENT"
  sourceId := some key
  description := some description
  autoPost := true
  idempotencyKey := some s!"cb-ar-pay:{key}"
  skipJournalIfLinked := some journalId

def profilePaid (profile : CustomerCreditProfileEntity) (debt overpaid : Int) : Except Failure CustomerCreditProfileEntity :=
  if 0 < overpaid then do
    let before ← parseVnd profile.prepaymentBalance { allowZero := true, field := "prepaymentBalance" }
    return { profile with postedDebt := debt, prepaymentBalance := add before overpaid }
  else .ok { profile with postedDebt := debt }

def applyReceivablePayment (db : FinanceDb) (draws : Draws) (key : String) (targetReceivableId targetCustomerId : Option Uuid)
    (dto : RecordReceivablePaymentDto) : Except Failure (FinanceDb × ReceivablePaymentResponse) := do
  let customerId ← paymentCustomer db targetReceivableId targetCustomerId
  let (credit, profile) ← lockOrCreateProfileInTx db.credit customerId
  let openDocs := openReceivables db targetReceivableId customerId
  ensure (openDocs ≠ []) (.domain .receivableNotFound
    "No open customer receivables found to allocate payment against" 404)
  let result ← calculateDocumentAllocations dto.amount (openDocs.map (·.toOpenObligationSnapshot)) dto.allocations
    (dto.overpaymentPolicy.getD .reject) .receivable
  let branchId := dto.branchId <|> openDocs.head?.bind (·.columns.branchId)
  let (cash, account) ← paymentAccount db.cash draws.account dto.cashAccountId branchId
    (dto.paymentMethod.getD .cash).accountType
  let overpaid ← parseVnd result.overpaymentAmount { allowZero := true, field := "overpaymentAmount" }
  let (ledger, posted) ← postJournalInTx db.ledger draws.journal (collectionJournal key account.glAccountCode result)
  let codes := ", ".intercalate (result.allocations.map (·.code))
  let (db, voucher) ← createAndOptionallyPostVoucherInTx { db with ledger, cash, credit } draws
    (collectionVoucher key account.id result.paymentAmount branchId (dto.note.getD s!"Debt collection for {codes}")
      posted.journal.id)
  let debt ← parseVnd profile.postedDebt { allowZero := true, field := "postedDebt" }
  let payment : PaymentEntry := {
    partyId := customerId, cashbookEntryId := voucher.id, journalId := posted.journal.id
    referenceType := "RECEIVABLE_PAYMENT", cleanKey := key }
  let progress ← applyAllocations payment openDocs result.allocations db.credit.receivables debt
  let profile ← profilePaid profile progress.runningDebt overpaid
  let credit := { db.credit with receivables := progress.book }.saveProfile customerId profile
  let primary ← required (result.allocations.head?.bind fun line => progress.book.document line.documentId)
    (.thrown "Cannot read properties of undefined (reading 'id')")
  return ({ db with credit }, {
    receivable := some primary, allocations := result.allocations, customerTotalDebtAfter := profile.postedDebt
    prepaymentBalanceAfter := profile.prepaymentBalance, journalId := posted.journal.id
    cashbookEntryId := some voucher.id, replayed := false })

def RecordReceivablePaymentDto.key (dto : RecordReceivablePaymentDto) (header : Option String) (drawn : Uuid) : String :=
  cleanKey header dto.idempotencyKey s!"ar-pay:{drawn}"

/-- Records a debt payment against a single receivable or across a customer's receivables. -/
def recordReceivablePayment (db : FinanceDb) (draws : Draws) (targetReceivableId targetCustomerId : Option Uuid)
    (idempotencyKeyHeader : Option String) (dto : RecordReceivablePaymentDto) :
    Except Failure (FinanceDb × ReceivablePaymentResponse) := do
  let key := dto.key idempotencyKeyHeader draws.key
  match ← readLedgerRow (db.credit.receivables.paymentRow key) with
  | some row => replayReceivablePayment db row
  | none => applyReceivablePayment db draws key targetReceivableId targetCustomerId dto

/-- The requests that change what customers owe or may owe. -/
inductive CreditRequest where
  | authorize (drawn : Uuid) (now : Nat) (idempotencyKeyHeader : Option String) (dto : CreateCreditAuthorizationDto)
  | commit (draws : Draws) (authId : Uuid) (dto : CommitCreditAuthorizationDto)
  | release (authId : Uuid)
  | expireStale (now : Nat) (locked : List Uuid)
  | recognize (draws : Draws) (idempotencyKeyHeader : Option String) (dto : RecognizeReceivableDto)
  | pay (draws : Draws) (targetReceivableId targetCustomerId : Option Uuid) (idempotencyKeyHeader : Option String)
    (dto : RecordReceivablePaymentDto)
  | updateLimit (customerId : Uuid) (creditLimit : Int)

def CreditRequest.perform (db : FinanceDb) : CreditRequest → Except Failure FinanceDb
  | .authorize drawn now header dto =>
    (fun done => { db with credit := done.1 }) <$> authorizeCredit db.credit drawn now header dto
  | .commit draws authId dto => (·.1) <$> commitAuthorization db draws authId dto
  | .release authId => (fun done => { db with credit := done.1 }) <$> releaseAuthorization db.credit authId
  | .expireStale now locked => (fun credit => { db with credit }) <$> expireStaleAuthorizations db.credit now locked
  | .recognize draws header dto => (·.1) <$> recognizeReceivable db draws header dto
  | .pay draws receivableId customerId header dto =>
    (·.1) <$> recordReceivablePayment db draws receivableId customerId header dto
  | .updateLimit customerId creditLimit =>
    (fun done => { db with credit := done.1 }) <$> updateCreditLimit db.credit customerId creditLimit

def creditStep (db : FinanceDb) (request : CreditRequest) : FinanceDb := commit db (request.perform db)

end Finance
