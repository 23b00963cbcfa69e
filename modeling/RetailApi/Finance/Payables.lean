import RetailApi.Finance.Receivables

/-! Supplier payables: recognised once for each source, key and purchase order, paid out of the
cash accounts, and reduced by what is returned to the supplier. -/

namespace Finance

open Transaction JsString JsNumber GlAccountCodes

def computeSupplierTotalDebt (book : DebtBook PayableColumns) (supplierId : Uuid) : Except Failure Int :=
  toMoney ((book.documents.filter fun doc => doc.partyId = supplierId && doc.status.isOpen).map (·.outstandingAmount)).sum

structure RecognizePayableDto where
  supplierId : Uuid
  amount : Int
  purchaseOrderId : Option Uuid := none
  receiptId : Option Uuid := none
  warehouseId : Option Uuid := none
  sourceType : Option String := none
  sourceId : Option String := none
  idempotencyKey : Option String := none

def RecognizePayableDto.keys (dto : RecognizePayableDto) (header : Option String) : RecognitionKeys :=
  let usual := if dto.purchaseOrderId.isSome then "PURCHASE_ORDER" else "SUPPLIER_INVOICE"
  let sourceType := toUpperCase (trimmed (dto.sourceType.getD usual))
  let sourceId := trimmed ((dto.sourceId <|> dto.purchaseOrderId.map toString <|> dto.receiptId.map toString).getD
    s!"manual:{dto.supplierId}:{dto.amount}")
  { sourceType, sourceId, idempotencyKey := cleanKey header dto.idempotencyKey s!"ap:{sourceType}:{sourceId}" }

/-- A payable recognised before for the same source, under the same key or for the same purchase order. -/
def recognizedPayable (book : DebtBook PayableColumns) (keys : RecognitionKeys) (purchaseOrderId : Option Uuid) :
    Option SupplierPayableEntity :=
  book.documents.find? fun doc =>
    doc.sourceType = keys.sourceType ∧ doc.sourceId = keys.sourceId ∨ doc.idempotencyKey = keys.idempotencyKey ∨
      purchaseOrderId ≠ none ∧ doc.columns.purchaseOrderId = purchaseOrderId

def payableJournal (keys : RecognitionKeys) (amount : Int) : PostJournalInTxInput where
  journalType := "SUPPLIER_PAYABLE_RECOGNITION"
  sourceType := keys.sourceType
  sourceId := keys.sourceId
  idempotencyKey := some s!"ap-jnl:{keys.idempotencyKey}"
  lines := [{ accountCode := inventoryPurchaseClearing, debitAmount := some amount },
    { accountCode := accountsPayable, creditAmount := some amount }]

def RecognizePayableDto.payable (dto : RecognizePayableDto) (keys : RecognitionKeys) (id : Uuid) (code : String)
    (amount : Int) (journalId : Uuid) : SupplierPayableEntity where
  id := id
  code := code
  partyId := dto.supplierId
  originalAmount := amount
  paidAmount := 0
  adjustedAmount := 0
  outstandingAmount := amount
  status := .open
  sourceType := keys.sourceType
  sourceId := keys.sourceId
  journalId := journalId
  idempotencyKey := keys.idempotencyKey
  columns := { purchaseOrderId := dto.purchaseOrderId, receiptId := dto.receiptId, warehouseId := dto.warehouseId }

def payableLedgerRow (keys : RecognitionKeys) (supplierId payableId journalId : Uuid) (amount debtBefore : Int) :
    DebtLedgerEntity where
  partyId := supplierId
  documentId := payableId
  entryType := .payableRecognized
  amountDelta := amount
  balanceBefore := debtBefore
  balanceAfter := add debtBefore amount
  cashbookEntryId := none
  journalId := journalId
  referenceType := keys.sourceType
  referenceId := keys.sourceId
  idempotencyKey := s!"ap-ldg:{keys.idempotencyKey}"

structure PayableResponse where
  payable : SupplierPayableEntity
  supplierTotalDebtAfter : Int
  replayed : Bool

/-- The payable that answers a recognition made before; it takes the receipt if it had none. -/
def replayPayable (db : FinanceDb) (existing : SupplierPayableEntity) (dto : RecognizePayableDto) :
    Except Failure (FinanceDb × PayableResponse) := do
  let payable := if dto.receiptId.isSome ∧ existing.columns.receiptId = none then
    { existing with columns := { existing.columns with receiptId := dto.receiptId } } else existing
  let payables := db.payables.saveDocument payable
  let supplierTotalDebtAfter ← computeSupplierTotalDebt payables dto.supplierId
  return ({ db with payables }, { payable, supplierTotalDebtAfter, replayed := true })

def recognizeNewPayable (db : FinanceDb) (draws : Draws) (keys : RecognitionKeys) (amount : Int) (dto : RecognizePayableDto) :
    Except Failure (FinanceDb × PayableResponse) := do
  let debtBefore ← computeSupplierTotalDebt db.payables dto.supplierId
  let (ledger, posted) ← postJournalInTx db.ledger draws.journal (payableJournal keys amount)
  let payable := dto.payable keys (newId (db.payables.documents.map (·.id)) draws.document)
    (documentCode "AP" (db.payables.issued + 1)) amount posted.journal.id
  let payables ← db.payables.insertDocument payable
  let payables ← payables.insertLedger
    (payableLedgerRow keys dto.supplierId payable.id posted.journal.id amount debtBefore)
  return ({ db with ledger, payables }, { payable, supplierTotalDebtAfter := add debtBefore amount, replayed := false })

def recognizePayable (db : FinanceDb) (draws : Draws) (idempotencyKeyHeader : Option String) (dto : RecognizePayableDto) :
    Except Failure (FinanceDb × PayableResponse) := do
  let amount ← parseVnd dto.amount
  let keys := dto.keys idempotencyKeyHeader
  match recognizedPayable db.payables keys dto.purchaseOrderId with
  | some existing => replayPayable db existing dto
  | none => recognizeNewPayable db draws keys amount dto

structure RecordSupplierPaymentDto where
  amount : Int
  paymentMethod : Option PaymentMethod := none
  cashAccountId : Option Uuid := none
  branchId : Option Uuid := none
  allocations : List RequestedAllocationLine := []
  note : Option String := none
  idempotencyKey : Option String := none

structure SupplierPaymentResponse where
  payable : Option SupplierPayableEntity
  allocations : List CalculatedAllocationLine
  supplierTotalDebtAfter : Int
  journalId : Uuid
  cashbookEntryId : Option Uuid
  replayed : Bool

def replaySupplierPayment (db : FinanceDb) (row : DebtLedgerEntity) : Except Failure (FinanceDb × SupplierPaymentResponse) := do
  let supplierTotalDebtAfter ← computeSupplierTotalDebt db.payables row.partyId
  return (db, {
    payable := db.payables.document row.documentId, allocations := [], supplierTotalDebtAfter
    journalId := row.journalId, cashbookEntryId := row.cashbookEntryId, replayed := true })

/-- The payables a payment may be allocated to: all open ones of the supplier when it says how, else the one it is for. -/
def payablesToPay (db : FinanceDb) (target : SupplierPayableEntity) (dto : RecordSupplierPaymentDto) :
    List SupplierPayableEntity :=
  db.payables.documents.filter fun doc =>
    if dto.allocations = [] then doc.id = target.id else doc.partyId = target.partyId && doc.status.isOpen

def supplierPaymentJournal (key cashGl : String) (amount : Int) : PostJournalInTxInput where
  journalType := "SUPPLIER_PAYMENT"
  sourceType := "SUPPLIER_PAYMENT"
  sourceId := key
  idempotencyKey := some s!"ap-pay-jnl:{key}"
  lines := [{ accountCode := accountsPayable, debitAmount := some amount },
    { accountCode := cashGl, creditAmount := some amount }]

def supplierPaymentVoucher (key : String) (accountId : Uuid) (amount : Int) (branchId : Option Uuid) (description : String)
    (journalId : Uuid) : VoucherInput where
  direction := .expense
  cashAccountId := accountId
  categoryCode := some "SUPPLIER_PAYMENT"
  amount := amount
  branchId := branchId
  sourceType := some "SUPPLIER_PAYMENT"
  sourceId := some key
  description := some description
  autoPost := true
  idempotencyKey := some s!"cb-ap-pay:{key}"
  skipJournalIfLinked := some journalId

def applySupplierPayment (db : FinanceDb) (draws : Draws) (key : String) (targetPayableId : Uuid)
    (dto : RecordSupplierPaymentDto) : Except Failure (FinanceDb × SupplierPaymentResponse) := do
  let target ← required (db.payables.document targetPayableId)
    (.domain .payableNotFound s!"Supplier payable {targetPayableId} not found" 404)
  let openDocs := payablesToPay db target dto
  let result ← calculateDocumentAllocations dto.amount (openDocs.map (·.toOpenObligationSnapshot)) dto.allocations
    .reject .payable
  let (cash, account) ← paymentAccount db.cash draws.account dto.cashAccountId dto.branchId
    (dto.paymentMethod.getD .bankTransfer).accountType
  let (ledger, posted) ← postJournalInTx db.ledger draws.journal
    (supplierPaymentJournal key account.glAccountCode result.totalAllocated)
  let codes := ", ".intercalate (result.allocations.map (·.code))
  let (db, voucher) ← createAndOptionallyPostVoucherInTx { db with ledger, cash } draws
    (supplierPaymentVoucher key account.id result.totalAllocated dto.branchId
      (dto.note.getD s!"Supplier payment for {codes}") posted.journal.id)
  let debt ← computeSupplierTotalDebt db.payables target.partyId
  let payment : PaymentEntry := {
    partyId := target.partyId, cashbookEntryId := voucher.id, journalId := posted.journal.id
    referenceType := "SUPPLIER_PAYMENT", cleanKey := key }
  let progress ← applyAllocations payment openDocs result.allocations db.payables debt
  let primary ← required (result.allocations.head?.bind fun line => progress.book.document line.documentId)
    (.thrown "Cannot read properties of undefined (reading 'id')")
  return ({ db with payables := progress.book }, {
    payable := some primary, allocations := result.allocations, supplierTotalDebtAfter := progress.runningDebt
    journalId := posted.journal.id, cashbookEntryId := some voucher.id, replayed := false })

def RecordSupplierPaymentDto.key (dto : RecordSupplierPaymentDto) (header : Option String) (drawn : Uuid) : String :=
  cleanKey header dto.idempotencyKey s!"ap-pay:{drawn}"

def recordSupplierPayment (db : FinanceDb) (draws : Draws) (targetPayableId : Uuid) (idempotencyKeyHeader : Option String)
    (dto : RecordSupplierPaymentDto) : Except Failure (FinanceDb × SupplierPaymentResponse) := do
  let key := dto.key idempotencyKeyHeader draws.key
  match ← readLedgerRow (db.payables.paymentRow key) with
  | some row => replaySupplierPayment db row
  | none => applySupplierPayment db draws key targetPayableId dto

structure ApplySupplierReturnCreditDto where
  amount : Int
  returnRefId : String
  idempotencyKey : Option String := none

def returnCreditJournal (key returnRefId : String) (amount : Int) : PostJournalInTxInput where
  journalType := "SUPPLIER_RETURN_CREDIT"
  sourceType := "SUPPLIER_RETURN"
  sourceId := returnRefId
  idempotencyKey := some s!"ap-ret-jnl:{key}"
  lines := [{ accountCode := accountsPayable, debitAmount := some amount },
    { accountCode := inventoryPurchaseClearing, creditAmount := some amount }]

/-- The paid amount is read only when nothing stays outstanding. -/
def ObligationEntity.checkPaid {Columns : Type} (payable : ObligationEntity Columns) (newOutstanding : Int) :
    Except Failure Unit :=
  if newOutstanding = 0 then (parseVnd payable.paidAmount { allowZero := true }).map fun _ => () else .ok ()

def ObligationEntity.credited {Columns : Type} (payable : ObligationEntity Columns) (adjusted outstanding credit : Int) :
    ObligationEntity Columns :=
  { payable with
    adjustedAmount := add adjusted credit, outstandingAmount := outstanding - credit
    status := if outstanding - credit = 0 then if 0 < payable.paidAmount then .paid else .adjusted else .partiallyPaid }

def returnCreditRow (payable : SupplierPayableEntity) (key returnRefId : String) (credit debtBefore : Int) (journalId : Uuid) :
    DebtLedgerEntity where
  partyId := payable.partyId
  documentId := payable.id
  entryType := .supplierReturnCredit
  amountDelta := -credit
  balanceBefore := debtBefore
  balanceAfter := lessAtMost debtBefore credit
  cashbookEntryId := none
  journalId := journalId
  referenceType := "SUPPLIER_RETURN"
  referenceId := returnRefId
  idempotencyKey := key

structure ReturnCreditResponse where
  payable : Option SupplierPayableEntity
  replayed : Bool

/-- Reduces a payable by a return that was not credited before. -/
def creditReturn (db : FinanceDb) (draws : Draws) (key : String) (credit : Int) (payableId : Uuid)
    (dto : ApplySupplierReturnCreditDto) : Except Failure (FinanceDb × ReturnCreditResponse) := do
  let payable ← required (db.payables.document payableId)
    (.domain .payableNotFound s!"Supplier payable {payableId} not found" 404)
  let outstanding ← parseVnd payable.outstandingAmount { allowZero := true, field := "outstandingAmount" }
  ensure (credit ≤ outstanding) (.domain .supplierPaymentExceeded
    s!"Supplier return credit ({credit}) exceeds payable outstanding amount ({payable.outstandingAmount})" 409)
  let debtBefore ← computeSupplierTotalDebt db.payables payable.partyId
  let (ledger, posted) ← postJournalInTx db.ledger draws.journal (returnCreditJournal key dto.returnRefId credit)
  let adjusted ← parseVnd payable.adjustedAmount { allowZero := true, field := "adjustedAmount" }
  payable.checkPaid (outstanding - credit)
  let credited := payable.credited adjusted outstanding credit
  let payables ← (db.payables.saveDocument credited).insertLedger
    (returnCreditRow payable key dto.returnRefId credit debtBefore posted.journal.id)
  return ({ db with ledger, payables }, { payable := some credited, replayed := false })

def applySupplierReturnCredit (db : FinanceDb) (draws : Draws) (payableId : Uuid) (idempotencyKeyHeader : Option String)
    (dto : ApplySupplierReturnCreditDto) : Except Failure (FinanceDb × ReturnCreditResponse) := do
  let credit ← parseVnd dto.amount
  let key := cleanKey idempotencyKeyHeader dto.idempotencyKey s!"ap-ret-credit:{dto.returnRefId}"
  match ← readLedgerRow (db.payables.ledger.find? (·.idempotencyKey = key)) with
  | some row => return (db, { payable := db.payables.document row.documentId, replayed := true })
  | none => creditReturn db draws key credit payableId dto

inductive PayableRequest where
  | recognize (draws : Draws) (idempotencyKeyHeader : Option String) (dto : RecognizePayableDto)
  | pay (draws : Draws) (targetPayableId : Uuid) (idempotencyKeyHeader : Option String) (dto : RecordSupplierPaymentDto)
  | returnCredit (draws : Draws) (payableId : Uuid) (idempotencyKeyHeader : Option String)
    (dto : ApplySupplierReturnCreditDto)

def PayableRequest.perform (db : FinanceDb) : PayableRequest → Except Failure FinanceDb
  | .recognize draws header dto => (·.1) <$> recognizePayable db draws header dto
  | .pay draws payableId header dto => (·.1) <$> recordSupplierPayment db draws payableId header dto
  | .returnCredit draws payableId header dto => (·.1) <$> applySupplierReturnCredit db draws payableId header dto

def payableStep (db : FinanceDb) (request : PayableRequest) : FinanceDb := commit db (request.perform db)

structure PurchaseEnvelope (Payload : Type) where
  tenantId : Option Uuid
  payload : Payload
deriving DecidableEq

structure PurchaseOrderApprovedPayload where
  purchaseOrderId : Option Uuid
  supplierId : Option Uuid
  warehouseId : Option Uuid := none
  totalAmount : Int
deriving DecidableEq

/-- The payload of `inventory.stock.received`. -/
structure StockReceivedPayload where
  receiptId : Uuid
  warehouseId : Option Uuid := none
  purchaseOrderId : Option Uuid := none
  supplierId : Option Uuid := none
  totalAmount : Option Int := none
deriving DecidableEq

/-- Recognises the payable of an event, unless the event says that nothing is owed. -/
def recognizeEvent (db : FinanceDb) (draws : Draws) (key : String) (totalAmount : Int) (dto : Int → RecognizePayableDto) :
    Except Failure FinanceDb := do
  let amount ← parseVnd totalAmount { allowZero := true, field := "totalAmount" }
  if amount ≤ 0 then return db else (·.1) <$> recognizePayable db draws (some key) (dto amount)

def onPurchaseOrderApproved (db : FinanceDb) (draws : Draws) (envelope : PurchaseEnvelope PurchaseOrderApprovedPayload) :
    Except Failure FinanceDb :=
  match envelope.tenantId, envelope.payload.purchaseOrderId, envelope.payload.supplierId with
  | some _, some purchaseOrderId, some supplierId =>
    recognizeEvent db draws s!"po-approved:{purchaseOrderId}" envelope.payload.totalAmount fun amount => {
      supplierId, amount, purchaseOrderId := some purchaseOrderId, warehouseId := envelope.payload.warehouseId
      sourceType := some "PURCHASE_ORDER", sourceId := some (toString purchaseOrderId) }
  | _, _, _ => .ok db

def onStockReceived (db : FinanceDb) (draws : Draws) (envelope : PurchaseEnvelope StockReceivedPayload) :
    Except Failure FinanceDb :=
  match envelope.tenantId, envelope.payload.supplierId, envelope.payload.totalAmount.filter (· ≠ 0) with
  | some _, some supplierId, some totalAmount =>
    let source := envelope.payload.purchaseOrderId.getD envelope.payload.receiptId
    recognizeEvent db draws s!"stock-rcv:{source}" totalAmount fun amount => {
      supplierId, amount, purchaseOrderId := envelope.payload.purchaseOrderId, receiptId := some envelope.payload.receiptId
      warehouseId := envelope.payload.warehouseId
      sourceType := some (if envelope.payload.purchaseOrderId.isSome then "PURCHASE_ORDER" else "STOCK_RECEIPT")
      sourceId := some (toString source) }
  | _, _, _ => .ok db

inductive PurchaseEvent where
  | approved (envelope : PurchaseEnvelope PurchaseOrderApprovedPayload)
  | received (envelope : PurchaseEnvelope StockReceivedPayload)
deriving DecidableEq

def PurchaseEvent.perform (db : FinanceDb) (draws : Draws) : PurchaseEvent → Except Failure FinanceDb
  | .approved envelope => onPurchaseOrderApproved db draws envelope
  | .received envelope => onStockReceived db draws envelope

/-- One delivery of an event; a handler that fails leaves the store as it was. -/
structure PurchaseDelivery where
  draws : Draws := {}
  event : PurchaseEvent

def deliverPurchase (db : FinanceDb) (delivery : PurchaseDelivery) : FinanceDb :=
  commit db (delivery.event.perform db delivery.draws)

end Finance
