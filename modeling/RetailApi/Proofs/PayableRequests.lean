import RetailApi.Finance.Payables
import RetailApi.Proofs.CreditRequests

/-! What each request about supplier payables does to the store when it succeeds. -/

namespace Finance

open Transaction JsNumber

/-- A debt to a supplier is filed, open and unpaid, and its journal is posted. -/
structure NewPayable (db : FinanceDb) (keys : RecognitionKeys) (dto : RecognizePayableDto) (doc : SupplierPayableEntity)
    (after : FinanceDb) : Prop where
  safe : IsSafe dto.amount
  positive : 0 < dto.amount
  absent : recognizedPayable db.payables keys dto.purchaseOrderId = none
  posts : PostsFor db (payableJournal keys dto.amount) after.ledger
  amounts : doc.originalAmount = dto.amount ∧ doc.paidAmount = 0 ∧ doc.adjustedAmount = 0 ∧ doc.outstandingAmount = dto.amount
  status : doc.status = .open
  fresh : ∀ other ∈ db.payables.documents, other.id ≠ doc.id
  documents : after.payables.documents = db.payables.documents ++ [doc]
  ledger : ∃ row, row.entryType = .payableRecognized ∧ row.documentId = doc.id ∧
    after.payables.ledger = db.payables.ledger ++ [row]
  cash : after.cash = db.cash

/-- A document takes another goods receipt up. Its figures stay. -/
structure TakesReceipt (db : FinanceDb) (after : FinanceDb) : Prop where
  receipt : ∃ old new, old ∈ db.payables.documents ∧ new.toOpenObligationSnapshot = old.toOpenObligationSnapshot ∧
    new.status = old.status ∧ after.payables.documents = Rows.save (·.id) new db.payables.documents
  rest : after = { db with payables := { db.payables with documents := after.payables.documents } }

variable {db after : FinanceDb} {draws : Draws} {header : Option String} {payableId : Uuid}

theorem recognizePayable_ok {dto response} (executed : recognizePayable db draws header dto = .ok (after, response)) :
    TakesReceipt db after ∨ ∃ doc, NewPayable db (dto.keys header) dto doc after := by
  simp only [recognizePayable, eq_ok, parseVnd_eq_ok] at executed
  obtain ⟨amount, ⟨given, safe, sign, zero⟩, ran⟩ := executed
  cases given
  split at ran
  · next existing found =>
    simp only [replayPayable, eq_ok, Prod.mk.injEq] at ran
    obtain ⟨_, _, rfl, _⟩ := ran
    refine .inl ⟨⟨existing, _, List.mem_of_find?_eq_some found, ?_, ?_, rfl⟩, rfl⟩
    · split <;> rfl
    · split <;> rfl
  · next absent =>
    simp only [recognizeNewPayable, eq_ok, Prod.mk.injEq] at ran
    obtain ⟨debtBefore, _, ⟨ledger, posted⟩, journal, withDoc, inserted, book, rowed, rfl, _⟩ := ran
    obtain ⟨documents, ledgerKept⟩ := insertDocument_ok inserted
    obtain ⟨documentsKept, rows, _⟩ := insertLedger_ok rowed
    obtain ⟨validated, accepted, posting⟩ := postJournalInTx_ok journal
    let doc := dto.payable (dto.keys header) (newId (db.payables.documents.map (·.id)) draws.document)
      (documentCode "AP" (db.payables.issued + 1)) dto.amount posted.journal.id
    refine .inr ⟨doc, safe, positive_of_parsed sign zero, absent, ⟨validated, posted, accepted, posting⟩,
      ⟨rfl, rfl, rfl, rfl⟩, rfl, ?_, documentsKept.trans documents,
      ⟨payableLedgerRow (dto.keys header) dto.supplierId doc.id posted.journal.id dto.amount debtBefore, rfl, rfl, ?_⟩,
      rfl⟩
    · intro other member
      exact Fresh.ne_pick (fun other : SupplierPayableEntity => other.id) draws.document member
    · rw [← ledgerKept]
      exact rows

def supplierPaymentEntry (key : String) (supplierId journalId voucherId : Uuid) : PaymentEntry where
  partyId := supplierId
  cashbookEntryId := voucherId
  journalId := journalId
  referenceType := "SUPPLIER_PAYMENT"
  cleanKey := key

/-- A payment is spread over open documents of one supplier and posted once for all of them. -/
inductive Paying (db : FinanceDb) (key : String) (dto : RecordSupplierPaymentDto) (supplierId : Uuid) : FinanceDb → Prop
  | intro {chosen : SupplierPayableEntity → Bool} {result : CalculatedPaymentAllocationResult} {cash : CashDb}
      {account : CashAccountEntity} {ledger : JournalDb} {validated : ValidatedJournal} {posted : PostedJournal}
      {description : String} {made : FinanceDb} {voucher : CashbookEntryEntity} {debt : Int}
      {progress : PaymentProgress PayableColumns}
      (own : ∀ doc ∈ db.payables.documents.filter chosen, doc.partyId = supplierId)
      (allocation : Allocation dto.amount ((db.payables.documents.filter chosen).map (·.toOpenObligationSnapshot)) .reject
        result)
      (ready : AccountReady db.cash cash account)
      (accepted : validateBalancedJournalLines
        (supplierPaymentJournal key account.glAccountCode result.totalAllocated).lines = .ok validated)
      (posting : Posting db.ledger (supplierPaymentJournal key account.glAccountCode result.totalAllocated) validated ledger
        posted)
      (voucherMade : VoucherMade { db with ledger, cash }
        (supplierPaymentVoucher key account.id result.totalAllocated dto.branchId description posted.journal.id) made voucher)
      (settling : Settling (supplierPaymentEntry key supplierId posted.journal.id voucher.id) result.allocations.length
        { book := db.payables, runningDebt := debt } result.allocations.zipIdx progress) :
      Paying db key dto supplierId { made with payables := progress.book }

theorem document_some {Columns : Type} {book : DebtBook Columns} {id doc}
    (found : book.document id = some doc) : doc ∈ book.documents ∧ doc.id = id :=
  ⟨List.mem_of_find?_eq_some found, by simpa using List.find?_some found⟩

theorem applySupplierPayment_ok {key dto response} (ids : (db.payables.documents.map (·.id)).Nodup)
    (ran : applySupplierPayment db draws key payableId dto = .ok (after, response)) :
    ∃ target, db.payables.document payableId = some target ∧ Paying db key dto target.partyId after := by
  simp only [applySupplierPayment, eq_ok, Prod.mk.injEq] at ran
  obtain ⟨target, found, result, calculated, ⟨cash, account⟩, opened, ⟨ledger, posted⟩, journal, ⟨made, voucher⟩, voucherMade,
    debt, _, progress, applied, _, _, rfl, _⟩ := ran
  obtain ⟨validated, accepted, posting⟩ := postJournalInTx_ok journal
  have done := createAndOptionallyPostVoucherInTx_ok voucherMade
  have own : ∀ doc ∈ payablesToPay db target dto, doc.partyId = target.partyId := by
    intro doc member
    obtain ⟨inside, chosen⟩ := List.mem_filter.mp member
    split at chosen
    · rw [decide_eq_true_eq] at chosen
      rw [Rows.eq_of_key ids inside (document_some found).1 chosen]
    · rw [Bool.and_eq_true, decide_eq_true_eq] at chosen
      exact chosen.1
  have docs : ((payablesToPay db target dto).map (·.toOpenObligationSnapshot)).map (·.id) =
      (payablesToPay db target dto).map (·.id) := by
    rw [List.map_map]
    rfl
  have allocation := calculateDocumentAllocations_ok (by
    rw [docs]
    exact (List.filter_sublist.map _).nodup ids) calculated
  have payables : made.payables = db.payables := done.credit.2
  rw [payables] at applied
  exact ⟨target, found, .intro own allocation (paymentAccount_ok opened) accepted posting done
    (applyAllocations_settling ids own allocation applied)⟩

theorem recordSupplierPayment_ok {dto response} (ids : (db.payables.documents.map (·.id)).Nodup)
    (executed : recordSupplierPayment db draws payableId header dto = .ok (after, response)) :
    after = db ∨ db.payables.paymentRow (dto.key header draws.key) = none ∧
      ∃ target, db.payables.document payableId = some target ∧ Paying db (dto.key header draws.key) dto target.partyId after := by
  simp only [recordSupplierPayment, eq_ok] at executed
  obtain ⟨found, read, ran⟩ := executed
  cases readLedgerRow_ok read
  split at ran
  · simp only [replaySupplierPayment, eq_ok, Prod.mk.injEq] at ran
    obtain ⟨_, _, rfl, _⟩ := ran
    exact .inl rfl
  · next absent => exact .inr ⟨absent, applySupplierPayment_ok ids ran⟩

def ApplySupplierReturnCreditDto.key (dto : ApplySupplierReturnCreditDto) (header : Option String) : String :=
  cleanKey header dto.idempotencyKey s!"ap-ret-credit:{dto.returnRefId}"

/-- A supplier return takes its amount off one document. -/
structure Crediting (db : FinanceDb) (key : String) (payableId : Uuid) (dto : ApplySupplierReturnCreditDto)
    (payable : SupplierPayableEntity) (after : FinanceDb) : Prop where
  positive : 0 < dto.amount
  absent : db.payables.ledger.find? (·.idempotencyKey = key) = none
  found : db.payables.document payableId = some payable
  enough : dto.amount ≤ payable.outstandingAmount
  posts : PostsFor db (returnCreditJournal key dto.returnRefId dto.amount) after.ledger
  documents : after.payables.documents = Rows.save (·.id)
    (payable.credited payable.adjustedAmount payable.outstandingAmount dto.amount) db.payables.documents
  ledger : ∃ debt journalId, after.payables.ledger = db.payables.ledger ++
    [returnCreditRow payable key dto.returnRefId dto.amount debt journalId]
  cash : after.cash = db.cash

theorem applySupplierReturnCredit_ok {dto response}
    (executed : applySupplierReturnCredit db draws payableId header dto = .ok (after, response)) :
    after = db ∨ ∃ payable, Crediting db (dto.key header) payableId dto payable after := by
  simp only [applySupplierReturnCredit, eq_ok, parseVnd_eq_ok] at executed
  obtain ⟨credit, ⟨given, safe, sign, zero⟩, found, read, ran⟩ := executed
  cases given
  cases readLedgerRow_ok read
  split at ran
  · cases ran
    exact .inl rfl
  · next absent =>
    simp only [creditReturn, eq_ok, parseVnd_eq_ok, Prod.mk.injEq] at ran
    obtain ⟨payable, stored, outstanding, ⟨owed, _⟩, _, enough, debt, _, ⟨ledger, posted⟩, journal, adjusted, ⟨before, _⟩, _, _,
      book, rowed, rfl, _⟩ := ran
    cases owed
    cases before
    obtain ⟨documents, rows, _⟩ := insertLedger_ok rowed
    obtain ⟨validated, accepted, posting⟩ := postJournalInTx_ok journal
    exact .inr ⟨payable, positive_of_parsed sign zero, absent, stored, enough, ⟨validated, posted, accepted, posting⟩,
      documents, ⟨debt, posted.journal.id, rows⟩, rfl⟩

/-- What a request may do to the books; one that fails, or answers again, does nothing. -/
inductive PayableChange (db : FinanceDb) : PayableRequest → FinanceDb → Prop
  | same {request} : PayableChange db request db
  | received {request after} (takes : TakesReceipt db after) : PayableChange db request after
  | recognised {draws header dto doc after} (new : NewPayable db (dto.keys header) dto doc after) :
      PayableChange db (.recognize draws header dto) after
  | paid {draws payableId header dto supplierId after} (absent : db.payables.paymentRow (dto.key header draws.key) = none)
      (paying : Paying db (dto.key header draws.key) dto supplierId after) :
      PayableChange db (.pay draws payableId header dto) after
  | credited {draws payableId header dto payable after}
      (crediting : Crediting db (dto.key header) payableId dto payable after) :
      PayableChange db (.returnCredit draws payableId header dto) after

theorem payableStep_change (ids : (db.payables.documents.map (·.id)).Nodup) (request : PayableRequest) :
    PayableChange db request (payableStep db request) := by
  apply commit_preserves (PayableChange db request) .same
  intro after ran
  cases request with
  | recognize draws header dto =>
    obtain ⟨⟨done, response⟩, performed, rfl⟩ := map_eq_ok.mp ran
    rcases recognizePayable_ok performed with takes | ⟨doc, new⟩
    · exact .received takes
    · exact .recognised new
  | pay draws payableId header dto =>
    obtain ⟨⟨done, response⟩, performed, rfl⟩ := map_eq_ok.mp ran
    rcases recordSupplierPayment_ok ids performed with rfl | ⟨absent, _, _, paying⟩
    · exact .same
    · exact .paid absent paying
  | returnCredit draws payableId header dto =>
    obtain ⟨⟨done, response⟩, performed, rfl⟩ := map_eq_ok.mp ran
    rcases applySupplierReturnCredit_ok performed with rfl | ⟨payable, crediting⟩
    · exact .same
    · exact .credited crediting

end Finance
