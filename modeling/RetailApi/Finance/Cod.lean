import RetailApi.Finance.Settlements

/-! Cash on delivery: what carriers owe for delivered orders, and the statements they settle it by. -/

namespace Finance

open Transaction JsString JsNumber GlAccountCodes

structure CreateCodReceivableDto where
  orderId : Uuid
  fulfillmentId : Option Uuid := none
  branchId : Option Uuid := none
  carrierCode : String
  trackingNumber : String
  expectedCodAmount : Int
  idempotencyKey : Option String := none

namespace CreateCodReceivableDto

def carrier (dto : CreateCodReceivableDto) : String := toUpperCase (trimmed dto.carrierCode)

def tracking (dto : CreateCodReceivableDto) : String := trimmed dto.trackingNumber

def fulfillment (dto : CreateCodReceivableDto) : Uuid := dto.fulfillmentId.getD dto.orderId

def key (dto : CreateCodReceivableDto) (header : Option String) : String :=
  cleanKey header dto.idempotencyKey s!"cod-ar:{dto.carrier}:{dto.tracking}"

def receivable (dto : CreateCodReceivableDto) (id : Uuid) (code : String) (expected : Int) (journalId : Uuid) :
    CodReceivableEntity where
  id := id
  code := code
  orderId := dto.orderId
  fulfillmentId := dto.fulfillment
  branchId := dto.branchId
  carrierCode := dto.carrier
  trackingNumber := dto.tracking
  expectedCodAmount := expected
  reportedCollectedAmount := 0
  carrierFeeAmount := 0
  expectedNetAmount := expected
  actualRemittedAmount := 0
  discrepancyAmount := 0
  status := .codReceivableRecognized
  settlementBatchId := none
  journalId := journalId

end CreateCodReceivableDto

def codReceivableJournal (receivableId : Uuid) (key : String) (expected : Int) : PostJournalInTxInput where
  journalType := "COD_RECEIVABLE"
  sourceType := "COD_RECEIVABLE"
  sourceId := toString receivableId
  idempotencyKey := some s!"cod-jnl:{key}"
  lines := [{ accountCode := codCarrierReceivable, debitAmount := some expected },
    { accountCode := salesRevenueClearing, creditAmount := some expected }]

structure CodReceivableResponse where
  receivable : CodReceivableEntity
  replayed : Bool

def CodDb.shipment (db : CodDb) (carrierCode trackingNumber : String) : Option CodReceivableEntity :=
  db.receivables.find? fun receivable =>
    receivable.carrierCode = carrierCode ∧ receivable.trackingNumber = trackingNumber

/-- Recognises what a carrier owes for a shipment, when neither it nor its fulfillment has a receivable. -/
def recognizeCod (db : FinanceDb) (draws : Draws) (header : Option String) (dto : CreateCodReceivableDto) :
    Except Failure (FinanceDb × CodReceivableResponse) := do
  let expected ← parseVnd dto.expectedCodAmount { field := "expectedCodAmount" }
  let id := newId (db.cod.receivables.map (·.id)) draws.document
  let (ledger, posted) ← postJournalInTx db.ledger draws.journal (codReceivableJournal id (dto.key header) expected)
  let receivable := dto.receivable id (documentCode "COD" (db.cod.receivablesIssued + 1)) expected posted.journal.id
  let cod := { db.cod with
    receivables := db.cod.receivables ++ [receivable], receivablesIssued := db.cod.receivablesIssued + 1 }
  return ({ db with ledger, cod }, { receivable, replayed := false })

def createCodReceivableInTx (db : FinanceDb) (draws : Draws) (idempotencyKeyHeader : Option String)
    (dto : CreateCodReceivableDto) : Except Failure (FinanceDb × CodReceivableResponse) :=
  match db.cod.receivables.find? fun receivable =>
      receivable.carrierCode = dto.carrier ∧ receivable.trackingNumber = dto.tracking ∨
        receivable.fulfillmentId = dto.fulfillment with
  | some existing => .ok (db, { receivable := existing, replayed := true })
  | none => recognizeCod db draws idempotencyKeyHeader dto

/-- The receivables and issues while a statement is gone through, and what its lines came to. -/
structure CodProgress where
  cod : CodDb
  reconciliation : ReconciliationDb
  lines : List CodSettlementLineEntity := []
  totalExpected : Int := 0
  totalDiscrepancy : Int := 0
  matchedExpected : Int := 0
  matchedFee : Int := 0
  matchedNet : Int := 0
  matchedCount : Nat := 0
  discrepancyCount : Nat := 0

def CodSettlementLineEntity.unknown (line : CodSettlementLineEntity) : CodSettlementLineEntity :=
  { line with
    lineStatus := .unknownShipment, discrepancyAmount := line.reportedCodAmount
    discrepancyReason := some s!"No COD receivable found for trackingNumber {line.trackingNumber}" }

def unknownShipmentIssue (line : CodSettlementLineEntity) : IssueInput where
  issueType := "COD_UNKNOWN_SHIPMENT"
  sourceType := "COD_SETTLEMENT_LINE"
  sourceId := toString line.id
  expectedAmount := 0
  actualAmount := line.reportedCodAmount
  differenceAmount := line.reportedCodAmount
  description := s!"No COD receivable found for trackingNumber {line.trackingNumber}"

def passUnknown (progress : CodProgress) (drawn : Uuid) (line : CodSettlementLineEntity) : CodProgress :=
  { progress with
    reconciliation := progress.reconciliation.raise drawn (unknownShipmentIssue line)
    lines := progress.lines ++ [line.unknown]
    totalDiscrepancy := add progress.totalDiscrepancy line.reportedCodAmount
    discrepancyCount := progress.discrepancyCount + 1 }

def CodLineEvaluation.status : CodLineEvaluation → CodLineStatus
  | .matched => .matched
  | .discrepancy => .discrepancy

def CodSettlementLineEntity.evaluated (line : CodSettlementLineEntity) (receivable : CodReceivableEntity)
    (result : CodSettlementLineEvaluationResult) : CodSettlementLineEntity :=
  { line with
    codReceivableId := some receivable.id, orderId := some receivable.orderId
    fulfillmentId := some receivable.fulfillmentId, expectedCodAmount := receivable.expectedCodAmount
    lineStatus := result.status.status, discrepancyAmount := result.discrepancyAmount
    discrepancyReason := result.discrepancyReason }

/-- A receivable after a line of a batch was held against it. -/
def CodReceivableEntity.remit (receivable : CodReceivableEntity) (batchId : Uuid) (line : CodSettlementLineEntity)
    (result : CodSettlementLineEvaluationResult) : CodReceivableEntity :=
  { receivable with
    status := match result.status with
      | .matched => .reconciled
      | .discrepancy => .discrepancy
    reportedCollectedAmount := line.reportedCodAmount, carrierFeeAmount := line.carrierFeeAmount
    expectedNetAmount := result.expectedNetPayout, actualRemittedAmount := line.netPayoutAmount
    discrepancyAmount := match result.status with
      | .matched => 0
      | .discrepancy => result.discrepancyAmount
    settlementBatchId := some batchId }

def discrepancyIssue (receivable : CodReceivableEntity) (line : CodSettlementLineEntity)
    (result : CodSettlementLineEvaluationResult) : IssueInput where
  issueType := "COD_SETTLEMENT_DISCREPANCY"
  sourceType := "COD_RECEIVABLE"
  sourceId := toString receivable.id
  expectedAmount := result.expectedNetPayout
  actualAmount := line.netPayoutAmount
  differenceAmount := result.discrepancyAmount
  description := s!"COD discrepancy on {line.trackingNumber} (order {receivable.orderId}): " ++
    result.discrepancyReason.getD "null"

def passDiscrepancy (progress : CodProgress) (drawn : Uuid) (receivable : CodReceivableEntity)
    (line : CodSettlementLineEntity) (result : CodSettlementLineEvaluationResult) : Except Failure CodProgress := do
  let difference ← parseVnd result.discrepancyAmount { allowZero := true, allowNegative := true, field := "discrepancyAmount" }
  return { progress with
    reconciliation := progress.reconciliation.raise drawn (discrepancyIssue receivable line result)
    totalDiscrepancy := add progress.totalDiscrepancy (if difference < 0 then -difference else difference)
    discrepancyCount := progress.discrepancyCount + 1 }

def passMatched (progress : CodProgress) (line : CodSettlementLineEntity) (expected : Int) : CodProgress :=
  { progress with
    matchedExpected := add progress.matchedExpected expected
    matchedFee := add progress.matchedFee line.carrierFeeAmount
    matchedNet := add progress.matchedNet line.netPayoutAmount
    matchedCount := progress.matchedCount + 1 }

def passKnown (progress : CodProgress) (drawn : Uuid) (batchId : Uuid) (receivable : CodReceivableEntity)
    (line : CodSettlementLineEntity) : Except Failure CodProgress := do
  let expected ← parseVnd receivable.expectedCodAmount { field := "expectedCodAmount" }
  let result ← evaluateCodSettlementLine {
    expectedGrossCod := receivable.expectedCodAmount, reportedGrossCod := line.reportedCodAmount
    carrierFee := line.carrierFeeAmount, reportedNetPayout := line.netPayoutAmount }
  let progress := { progress with
    cod := { progress.cod with
      receivables := Rows.save (·.id) (receivable.remit batchId line result) progress.cod.receivables }
    lines := progress.lines ++ [line.evaluated receivable result]
    totalExpected := add progress.totalExpected expected }
  match result.status with
  | .discrepancy => passDiscrepancy progress drawn receivable (line.evaluated receivable result) result
  | .matched => return passMatched progress line expected

def passLine (drawn : Uuid) (batch : CodSettlementBatchEntity) (progress : CodProgress) (line : CodSettlementLineEntity) :
    Except Failure CodProgress := do
  let _ ← parseVnd line.reportedCodAmount { allowZero := true, field := "reportedCodAmount" }
  let _ ← parseVnd line.carrierFeeAmount { allowZero := true, field := "carrierFeeAmount" }
  let _ ← parseVnd line.netPayoutAmount { allowZero := true, allowNegative := true, field := "netPayoutAmount" }
  match progress.cod.shipment batch.carrierCode line.trackingNumber with
  | none => return passUnknown progress drawn line
  | some receivable => passKnown progress drawn batch.id receivable line

def codJournal (batchId : Uuid) (debitBankGl : String) (progress : CodProgress) : PostJournalInTxInput where
  journalType := "COD_SETTLEMENT"
  sourceType := "COD_SETTLEMENT_BATCH"
  sourceId := toString batchId
  idempotencyKey := some s!"codb-jnl:{batchId}"
  lines := [{ accountCode := debitBankGl, debitAmount := some progress.matchedNet }] ++
    (if 0 < progress.matchedFee then [{ accountCode := carrierFeeExpense, debitAmount := some progress.matchedFee }] else []) ++
    [{ accountCode := codCarrierReceivable, creditAmount := some progress.matchedExpected }]

def codVoucher (batch : CodSettlementBatchEntity) (net : Int) (journalId accountId : Uuid) : VoucherInput where
  direction := .receipt
  cashAccountId := accountId
  categoryCode := some "COD_SETTLEMENT_RECEIPT"
  amount := net
  sourceType := some "COD_SETTLEMENT_BATCH"
  sourceId := some (toString batch.id)
  description := some s!"COD settlement net payout for batch {batch.code}"
  autoPost := true
  idempotencyKey := some s!"codb-cb:{batch.id}"
  skipJournalIfLinked := some journalId

/-- The account a payout is booked on: none when nothing was paid out. -/
def payoutAccount (account : Option CashAccountEntity) (net : Int) : Option CashAccountEntity :=
  account.filter fun _ => decide (0 < net)

structure CodBooking where
  journalId : Option Uuid
  cashbookEntryId : Option Uuid

/-- Posts and books what the matched lines of a batch pay out, once. -/
def bookPayout (db : FinanceDb) (draws : Draws) (cashAccountId : Option Uuid) (batch : CodSettlementBatchEntity)
    (progress : CodProgress) : Except Failure (FinanceDb × CodBooking) :=
  if 0 < progress.matchedExpected ∧ batch.journalId = none then do
    let (cash, account) ← namedAccount db.cash draws.account (cashAccountId <|> batch.cashAccountId) none .bank
    let debitBankGl := (account.map (·.glAccountCode)).getD cashAtBank
    let (ledger, posted) ← postJournalInTx db.ledger draws.journal (codJournal batch.id debitBankGl progress)
    let (db, voucherId) ← linkedVoucher { db with ledger, cash } draws (payoutAccount account progress.matchedNet)
      (codVoucher batch progress.matchedNet posted.journal.id)
    return (db, { journalId := some posted.journal.id, cashbookEntryId := voucherId <|> batch.cashbookEntryId })
  else .ok (db, { journalId := batch.journalId, cashbookEntryId := batch.cashbookEntryId })

def CodSettlementBatchEntity.reconcile (batch : CodSettlementBatchEntity) (progress : CodProgress) (booking : CodBooking) :
    CodSettlementBatchEntity :=
  { batch with
    totalExpectedCod := progress.totalExpected, totalDiscrepancy := progress.totalDiscrepancy
    matchedCount := progress.matchedCount, discrepancyCount := progress.discrepancyCount
    journalId := booking.journalId, cashbookEntryId := booking.cashbookEntryId
    status := if progress.discrepancyCount = 0 then .reconciled else .discrepancyDetected
    lines := progress.lines }

def passLines (db : FinanceDb) (draws : Draws) (batch : CodSettlementBatchEntity) : Except Failure CodProgress :=
  batch.lines.foldlM (passLine draws.issue batch) { cod := db.cod, reconciliation := db.reconciliation }

def reconcileLines (db : FinanceDb) (draws : Draws) (cashAccountId : Option Uuid) (batch : CodSettlementBatchEntity) :
    Except Failure (FinanceDb × CodSettlementBatchEntity) := do
  let progress ← passLines db draws batch
  let (db, booking) ← bookPayout { db with cod := progress.cod, reconciliation := progress.reconciliation } draws
    cashAccountId batch progress
  let reconciled := batch.reconcile progress booking
  return ({ db with cod := { db.cod with batches := Rows.save (·.id) reconciled db.cod.batches } }, reconciled)

def reconcileBatchInTx (db : FinanceDb) (draws : Draws) (batchId : Uuid) (cashAccountId : Option Uuid) :
    Except Failure (FinanceDb × CodSettlementBatchEntity) := do
  let batch ← required (db.cod.batches.find? (·.id = batchId))
    (.domain .codSettlementNotFound s!"COD settlement batch {batchId} not found" 404)
  if batch.status = .reconciled ∧ batch.journalId ≠ none then return (db, batch)
  else reconcileLines db draws cashAccountId batch

structure CodSettlementBatchLineDto where
  trackingNumber : String
  orderId : Option Uuid := none
  fulfillmentId : Option Uuid := none
  reportedCodAmount : Int
  carrierFeeAmount : Option Int := none
  netPayoutAmount : Int

structure ImportCodSettlementBatchDto where
  carrierCode : String
  statementRef : String
  fileChecksum : Option String := none
  cashAccountId : Option Uuid := none
  autoReconcile : Option Bool := none
  lines : List CodSettlementBatchLineDto
  idempotencyKey : Option String := none

namespace ImportCodSettlementBatchDto

def carrier (dto : ImportCodSettlementBatchDto) : String := toUpperCase (trimmed dto.carrierCode)

def statement (dto : ImportCodSettlementBatchDto) : String := trimmed dto.statementRef

def statementLines (dto : ImportCodSettlementBatchDto) : List CodStatementLine := dto.lines.map fun line => {
  trackingNumber := trimmed line.trackingNumber, reportedCodAmount := line.reportedCodAmount
  carrierFeeAmount := line.carrierFeeAmount.getD 0, netPayoutAmount := line.netPayoutAmount }

def checksum (dto : ImportCodSettlementBatchDto) : FileChecksum :=
  match dto.fileChecksum with
  | some checksum => .given (trimmed checksum)
  | none => .computed dto.carrier dto.statement dto.statementLines

def key (dto : ImportCodSettlementBatchDto) (header : Option String) : String :=
  cleanKey header dto.idempotencyKey s!"codb:{dto.carrier}:{dto.statement}"

end ImportCodSettlementBatchDto

structure CodImport where
  lines : List CodSettlementLineEntity := []
  totalReported : Int := 0
  totalFee : Int := 0
  totalNet : Int := 0

def importLine (taken : List Uuid) (drawn : Uuid) (done : CodImport) (line : CodSettlementBatchLineDto × Nat) :
    Except Failure CodImport := do
  let reported ← parseVnd line.1.reportedCodAmount { allowZero := true, field := s!"lines[{line.2}].reportedCodAmount" }
  let fee ← parseVnd (line.1.carrierFeeAmount.getD 0) { allowZero := true, field := s!"lines[{line.2}].carrierFeeAmount" }
  let net ← parseVnd line.1.netPayoutAmount
    { allowZero := true, allowNegative := true, field := s!"lines[{line.2}].netPayoutAmount" }
  let row : CodSettlementLineEntity := {
    id := newId (taken ++ done.lines.map (·.id)) drawn, lineNo := line.2 + 1, codReceivableId := none
    fulfillmentId := line.1.fulfillmentId, orderId := line.1.orderId, trackingNumber := trimmed line.1.trackingNumber
    expectedCodAmount := 0, reportedCodAmount := reported, carrierFeeAmount := fee, netPayoutAmount := net
    discrepancyAmount := 0, lineStatus := .matched, discrepancyReason := none }
  return { lines := done.lines ++ [row], totalReported := add done.totalReported reported
           totalFee := add done.totalFee fee, totalNet := add done.totalNet net }

def CodImport.batch (done : CodImport) (dto : ImportCodSettlementBatchDto) (key : String) (id : Uuid) (code : String) :
    CodSettlementBatchEntity where
  id := id
  code := code
  carrierCode := dto.carrier
  statementRef := dto.statement
  fileChecksum := dto.checksum
  cashAccountId := dto.cashAccountId
  totalExpectedCod := 0
  totalReportedCod := done.totalReported
  totalCarrierFee := done.totalFee
  totalNetPayout := done.totalNet
  totalDiscrepancy := 0
  lineCount := done.lines.length
  matchedCount := 0
  discrepancyCount := 0
  status := .imported
  journalId := none
  cashbookEntryId := none
  idempotencyKey := key
  lines := done.lines

structure CodBatchResponse where
  batch : CodSettlementBatchEntity
  replayed : Bool

/-- The batch imported before for a statement, with its checksum or under its key. -/
def CodDb.imported (db : CodDb) (dto : ImportCodSettlementBatchDto) (header : Option String) : Option CodSettlementBatchEntity :=
  db.batches.find? fun batch =>
    batch.carrierCode = dto.carrier ∧ batch.statementRef = dto.statement ∨ batch.fileChecksum = dto.checksum ∨
      batch.idempotencyKey = dto.key header

def importNew (db : CodDb) (draws : Draws) (header : Option String) (dto : ImportCodSettlementBatchDto) :
    Except Failure (CodDb × CodSettlementBatchEntity) := do
  let taken := db.batches.flatMap fun batch => batch.lines.map (·.id)
  let done ← dto.lines.zipIdx.foldlM (importLine taken draws.line) {}
  let batch := done.batch dto (dto.key header) (newId (db.batches.map (·.id)) draws.document)
    (documentCode "BAT" (db.batchesIssued + 1))
  return ({ db with batches := db.batches ++ [batch], batchesIssued := db.batchesIssued + 1 }, batch)

/-- Reconciles a batch that was just imported, unless the request leaves that to later. -/
def autoReconcile (db : FinanceDb) (draws : Draws) (dto : ImportCodSettlementBatchDto) (batch : CodSettlementBatchEntity) :
    Except Failure (FinanceDb × CodSettlementBatchEntity) :=
  if dto.autoReconcile = some false then .ok (db, batch)
  else reconcileBatchInTx db draws batch.id dto.cashAccountId

def importSettlementBatch (db : FinanceDb) (draws : Draws) (idempotencyKeyHeader : Option String)
    (dto : ImportCodSettlementBatchDto) : Except Failure (FinanceDb × CodBatchResponse) :=
  match db.cod.imported dto idempotencyKeyHeader with
  | some existing => .ok (db, { batch := existing, replayed := true })
  | none => do
    let (cod, imported) ← importNew db.cod draws idempotencyKeyHeader dto
    let (db, batch) ← autoReconcile { db with cod } draws dto imported
    return (db, { batch, replayed := false })

inductive CodRequest where
  | recognize (draws : Draws) (idempotencyKeyHeader : Option String) (dto : CreateCodReceivableDto)
  | importBatch (draws : Draws) (idempotencyKeyHeader : Option String) (dto : ImportCodSettlementBatchDto)
  | reconcile (draws : Draws) (batchId : Uuid) (cashAccountId : Option Uuid)

def CodRequest.perform (db : FinanceDb) : CodRequest → Except Failure FinanceDb
  | .recognize draws header dto => (·.1) <$> createCodReceivableInTx db draws header dto
  | .importBatch draws header dto => (·.1) <$> importSettlementBatch db draws header dto
  | .reconcile draws batchId cashAccountId => (·.1) <$> reconcileBatchInTx db draws batchId cashAccountId

def codStep (db : FinanceDb) (request : CodRequest) : FinanceDb := commit db (request.perform db)

end Finance
