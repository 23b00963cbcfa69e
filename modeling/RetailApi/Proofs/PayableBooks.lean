import RetailApi.Base.Run
import RetailApi.Proofs.PayableRequests

/-! Supplier payables against the general ledger over whole runs: the control account agrees with
what is outstanding as long as every change of the payables posts a journal of its own. -/

namespace Finance

open Transaction JsNumber JsString GlAccountCodes ObligationStatus List Rows

def returnsOn (ledger : List DebtLedgerEntity) (payableId : Uuid) : Int :=
  Keyed.total (·.documentId) (fun row => if row.entryType = .supplierReturnCredit then -row.amountDelta else 0) payableId ledger

def creditedReturns (ledger : List DebtLedgerEntity) : List String :=
  (ledger.filter fun row => row.entryType = .supplierReturnCredit).map (·.referenceId)

structure PayablesAgree (db : FinanceDb) : Prop where
  control : -db.ledger.balance accountsPayable = db.payables.outstanding
  payables : ∀ doc ∈ db.payables.documents,
    doc.originalAmount = doc.paidAmount + doc.adjustedAmount + doc.outstandingAmount
  once : (creditedReturns db.payables.ledger).Nodup
  reduced : ∀ doc ∈ db.payables.documents, doc.adjustedAmount = returnsOn db.payables.ledger doc.id

structure PayableBooks (db : FinanceDb) : Prop where
  ids : (db.payables.documents.map (·.id)).Nodup
  documents : ∀ doc ∈ db.payables.documents, doc.AddsUp
  control : -db.ledger.balance accountsPayable = db.payables.outstanding
  codes : db.cash.Codes
  once : (creditedReturns db.payables.ledger).Nodup
  posted : ∀ row ∈ db.payables.ledger, row.entryType = .supplierReturnCredit →
    ∃ journal ∈ db.ledger.journals, journal.source = (returnCreditJournal "" row.referenceId 0).source
  rows : ∀ row ∈ db.payables.ledger, row.documentId ∈ db.payables.documents.map (·.id)
  reduced : ∀ doc ∈ db.payables.documents, doc.adjustedAmount = returnsOn db.payables.ledger doc.id

/-- The request finds no journal of its amount under the source it posts for, unless it is a replay. -/
def Journaled (db : FinanceDb) : PayableRequest → Prop
  | .recognize _ header dto => recognizedPayable db.payables (dto.keys header) dto.purchaseOrderId = none →
    db.ledger.Unposted (payableJournal (dto.keys header) dto.amount).source dto.amount
  | .pay draws _ header dto => db.payables.paymentRow (dto.key header draws.key) = none →
    db.ledger.Unposted (supplierPaymentJournal (dto.key header draws.key) cashOnHand dto.amount).source dto.amount
  | .returnCredit _ _ header dto => db.payables.ledger.find? (·.idempotencyKey = dto.key header) = none →
    db.ledger.Unposted (returnCreditJournal (dto.key header) dto.returnRefId dto.amount).source dto.amount

theorem foldedPayable : toUpperCase (trimmed accountsPayable) = accountsPayable := folded_code _ (by decide)

theorem foldedClearing : toUpperCase (trimmed inventoryPurchaseClearing) = inventoryPurchaseClearing :=
  folded_code _ (by decide)

theorem payableJournal_net (keys : RecognitionKeys) (amount : Int) :
    inputNetOn accountsPayable (payableJournal keys amount).lines = -amount := by
  have apart : inventoryPurchaseClearing ≠ accountsPayable := by decide
  simp only [payableJournal, inputNetOn_cons, inputNetOn_nil, foldedPayable, foldedClearing, apart, ↓reduceIte,
    Option.getD_some, Option.getD_none]
  omega

theorem returnCreditJournal_net (key returnRefId : String) (amount : Int) :
    inputNetOn accountsPayable (returnCreditJournal key returnRefId amount).lines = amount := by
  have apart : inventoryPurchaseClearing ≠ accountsPayable := by decide
  simp only [returnCreditJournal, inputNetOn_cons, inputNetOn_nil, foldedPayable, foldedClearing, apart, ↓reduceIte,
    Option.getD_some, Option.getD_none]
  omega

theorem supplierPaymentJournal_net {cashGl} (code : cashGl = cashOnHand ∨ cashGl = cashAtBank) (key : String)
    (amount : Int) : inputNetOn accountsPayable (supplierPaymentJournal key cashGl amount).lines = amount := by
  have apart : toUpperCase (trimmed cashGl) ≠ accountsPayable := by
    rcases code with rfl | rfl
    · rw [folded_code cashOnHand (by decide)]
      decide
    · rw [folded_code cashAtBank (by decide)]
      decide
  simp only [supplierPaymentJournal, inputNetOn_cons, inputNetOn_nil, foldedPayable, apart, ↓reduceIte,
    Option.getD_some, Option.getD_none]
  omega

theorem ObligationEntity.AddsUp.credited {doc : SupplierPayableEntity} {credit} (fits : doc.AddsUp) (positive : 0 < credit)
    (enough : credit ≤ doc.outstandingAmount) : (doc.credited doc.adjustedAmount doc.outstandingAmount credit).AddsUp ∧
      (doc.credited doc.adjustedAmount doc.outstandingAmount credit).adjustedAmount = doc.adjustedAmount + credit := by
  have paid := fits.paid
  have adjusted := fits.adjusted
  have original := fits.original
  have sum : add doc.adjustedAmount credit = doc.adjustedAmount + credit := by
    apply add_of_safe
    have safe := fits.safe
    unfold IsSafe maxSafeInteger at safe ⊢
    omega
  refine ⟨⟨?_, paid, ?_, ?_, fits.safe, ?_⟩, sum⟩
  · show doc.originalAmount = doc.paidAmount + add _ _ + (doc.outstandingAmount - credit)
    omega
  · show 0 ≤ add _ _
    omega
  · show 0 ≤ doc.outstandingAmount - credit
    omega
  · show isOpen (if doc.outstandingAmount - credit = 0 then _ else _) = false ↔
      doc.outstandingAmount - credit = 0
    by_cases all : doc.outstandingAmount - credit = 0
    · by_cases some_ : 0 < doc.paidAmount
      · simp [all, some_, isOpen]
      · simp [all, some_, isOpen]
    · simp [all, isOpen]

theorem returnsOn_append (first second : List DebtLedgerEntity) (payableId : Uuid) :
    returnsOn (first ++ second) payableId = returnsOn first payableId + returnsOn second payableId :=
  Keyed.total_append first second

theorem creditedReturns_append (first second : List DebtLedgerEntity) :
    creditedReturns (first ++ second) = creditedReturns first ++ creditedReturns second := by
  rw [creditedReturns, filter_append, map_append]
  rfl

theorem no_returns (rows : List DebtLedgerEntity) (other : ∀ row ∈ rows, row.entryType ≠ .supplierReturnCredit) :
    creditedReturns rows = [] ∧ ∀ payableId, returnsOn rows payableId = 0 := by
  constructor
  · rw [creditedReturns, map_eq_nil_iff, filter_eq_nil_iff]
    intro row member
    rw [decide_eq_true_eq]
    exact other row member
  · intro payableId
    induction rows with
    | nil => rfl
    | cons row rows inner =>
      have rest := inner fun later member => other later (.tail _ member)
      unfold returnsOn at rest ⊢
      rw [Keyed.total_cons, rest, if_neg (other row (.head _))]
      simp

variable {payment : PaymentEntry} {lines : List (CalculatedAllocationLine × Nat)}

theorem PaymentEntry.rows_entryType {count debt row} (member : row ∈ payment.rows count debt lines) : row.entryType = .paymentApplied := by
  induction lines generalizing debt with
  | nil => cases member
  | cons line lines inner =>
    rcases mem_cons.mp member with rfl | later
    · rfl
    · exact inner later

theorem Settling.rows_document {Columns : Type} {count} {progress after : PaymentProgress Columns}
    (settling : Settling payment count progress lines after) (debt : Int) :
    ∀ row ∈ payment.rows count debt lines, row.documentId ∈ progress.book.documents.map (·.id) := by
  induction settling generalizing debt with
  | done => simp [PaymentEntry.rows]
  | line member allocates _ _ _ inner =>
    intro row listed
    rcases mem_cons.mp listed with rfl | later
    · show _ ∈ _
      rw [PaymentEntry.row, allocates.own]
      exact mem_map_of_mem (f := fun doc : ObligationEntity _ => doc.id) member
    · rw [← PaymentProgress.ids_settle]
      exact inner _ row later

namespace PayableBooks

variable {db after : FinanceDb}

theorem receive (books : PayableBooks db) (takes : TakesReceipt db after) : PayableBooks after := by
  obtain ⟨old, new, member, same, status, documents⟩ := takes.receipt
  have rest := takes.rest
  generalize after.payables.documents = stored at documents rest
  cases rest
  have id : new.id = old.id := congrArg (·.id) same
  have fits : new.AddsUp := by
    have before := books.documents old member
    refine ⟨?_, ?_, ?_, ?_, ?_, ?_⟩ <;> rw [same]
    · exact before.original
    · exact before.paid
    · exact before.adjusted
    · exact before.outstanding
    · exact before.safe
    · rw [status]
      exact before.settled
  have ids : stored.map (·.id) = db.payables.documents.map (·.id) := by rw [documents, keys_save]
  constructor
  · exact ids ▸ books.ids
  · rw [documents]
    exact forall_save books.documents fits
  · have saved := sum_save books.ids member id (·.outstandingAmount)
    have amount : new.outstandingAmount = old.outstandingAmount := congrArg (·.outstandingAmount) same
    apply books.control.trans
    show _ = (stored.map _).sum
    rw [documents, saved, amount, DebtBook.outstanding]
    omega
  · exact books.codes
  · exact books.once
  · exact books.posted
  · exact fun row listed => ids ▸ books.rows row listed
  · rw [documents]
    apply forall_save books.reduced
    have adjusted : new.adjustedAmount = old.adjustedAmount := congrArg (·.adjustedAmount) same
    rw [adjusted, id]
    exact books.reduced old member

theorem recognise {keys} {dto} {doc} (books : PayableBooks db)
    (unposted : db.ledger.Unposted (payableJournal keys dto.amount).source dto.amount)
    (new : NewPayable db keys dto doc after) : PayableBooks after := by
  obtain ⟨original, paid, adjusted, outstanding⟩ := new.amounts
  obtain ⟨row, kind, own, ledger⟩ := new.ledger
  have positive := new.positive
  have safe := new.safe
  have open_ : doc.status.isOpen = true := by rw [new.status, isOpen]
  have fits : doc.AddsUp := by
    refine ⟨by omega, by omega, by omega, by omega, original ▸ safe, ?_⟩
    rw [open_, outstanding]
    constructor
    · rintro ⟨⟩
    · omega
  obtain ⟨none, nothing⟩ := no_returns [row] (by simp [kind])
  obtain ⟨moved, kept, _⟩ := posts_new new.posts (by simpa [payableJournal] using unposted) accountsPayable
  rw [payableJournal_net] at moved
  constructor
  · rw [new.documents]
    exact Keyed.nodup_append books.ids new.fresh
  · rw [new.documents]
    exact forall_concat books.documents fits
  · have control := books.control
    rw [moved, DebtBook.outstanding, new.documents, map_append, sum_append, map_singleton,
      sum_singleton, outstanding]
    unfold DebtBook.outstanding at control
    omega
  · exact new.cash ▸ books.codes
  · rw [ledger, creditedReturns_append, none, append_nil]
    exact books.once
  · rw [ledger]
    intro other member credited
    rcases mem_append.mp member with old | added
    · obtain ⟨journal, stored, source⟩ := books.posted other old credited
      exact ⟨journal, kept journal stored, source⟩
    · rw [mem_singleton.mp added, kind] at credited
      cases credited
  · rw [ledger, new.documents, map_append]
    intro other member
    rcases mem_append.mp member with old | added
    · exact mem_append_left _ (books.rows other old)
    · rw [mem_singleton.mp added, own]
      exact mem_append_right _ (mem_singleton.mpr rfl)
  · rw [ledger, new.documents]
    intro other member
    rw [returnsOn_append, nothing, Int.add_zero]
    rcases mem_append.mp member with old | added
    · exact books.reduced other old
    · rw [mem_singleton.mp added, adjusted]
      symm
      apply Keyed.total_of_absent
      intro listed inside same
      have stored := books.rows listed inside
      obtain ⟨earlier, earlierIn, named⟩ := mem_map.mp stored
      exact new.fresh earlier earlierIn (named.trans same)

theorem pay {key} {dto : RecordSupplierPaymentDto} {supplierId : Uuid} (books : PayableBooks db)
    (unposted : db.ledger.Unposted (supplierPaymentJournal key cashOnHand dto.amount).source dto.amount)
    (paying : Paying db key dto supplierId after) : PayableBooks after := by
  cases paying with
  | @intro chosen result cash account ledger validated posted description made voucher debt progress own allocation ready
    accepted posting voucherMade settling =>
    obtain ⟨codes, code⟩ := ready.codes books.codes
    have whole : result.totalAllocated = dto.amount := by
      have beyond := allocation.rejected rfl
      have sum := allocation.whole
      omega
    have lines : Settling.allocated result.allocations.zipIdx = dto.amount := by
      rw [← whole, allocation.total, Settling.allocated]
      conv_rhs => rw [← zipIdx_map_fst 0 result.allocations, map_map]
      rfl
    have sameLedger : made.ledger = ledger := voucherMade.ledger (by rintro ⟨⟩)
    have debited : ((supplierPaymentJournal key account.glAccountCode result.totalAllocated).lines.map fun line =>
        line.debitAmount.getD 0).sum = dto.amount := by simp [supplierPaymentJournal, whole]
    obtain ⟨moved, kept, _⟩ := posts_new ⟨validated, posted, accepted, posting⟩
      (by rw [debited]; exact unposted) accountsPayable
    rw [supplierPaymentJournal_net code, whole] at moved
    obtain ⟨none, nothing⟩ := no_returns (PaymentEntry.rows _ _ debt result.allocations.zipIdx)
      (fun row member => by rw [PaymentEntry.rows_entryType member]; rintro ⟨⟩)
    have rows := settling.ledger
    constructor
    · exact settling.ids ▸ books.ids
    · exact settling.documents (fun doc line fits allocates => fits.allocated allocates) books.documents
    · have control := books.control
      have less := settling.outstanding books.ids
      rw [sameLedger, moved, less, lines]
      show _ = db.payables.outstanding - _
      omega
    · exact voucherMade.codes codes
    · show (creditedReturns progress.book.ledger).Nodup
      rw [rows, creditedReturns_append, none, append_nil]
      exact books.once
    · intro row member credited
      rw [rows] at member
      rcases mem_append.mp member with old | added
      · obtain ⟨journal, stored, source⟩ := books.posted row old credited
        refine ⟨journal, ?_, source⟩
        rw [sameLedger]
        exact kept journal stored
      · rw [PaymentEntry.rows_entryType added] at credited
        cases credited
    · intro row member
      rw [rows] at member
      rw [settling.ids]
      rcases mem_append.mp member with old | added
      · exact books.rows row old
      · exact settling.rows_document debt row added
    · intro doc member
      rw [rows, returnsOn_append, nothing, Int.add_zero]
      exact settling.documents (P := fun doc => doc.adjustedAmount = returnsOn db.payables.ledger doc.id)
        (fun _ _ reduced _ => reduced) books.reduced doc member

theorem credit {key payableId} {dto : ApplySupplierReturnCreditDto} {payable}
    (books : PayableBooks db) (unposted : db.ledger.Unposted (returnCreditJournal key dto.returnRefId dto.amount).source dto.amount)
    (crediting : Crediting db key payableId dto payable after) : PayableBooks after := by
  obtain ⟨member, _⟩ := document_some crediting.found
  obtain ⟨fits, adjusted⟩ := (books.documents payable member).credited crediting.positive crediting.enough
  obtain ⟨debt, journalId, ledger⟩ := crediting.ledger
  obtain ⟨moved, kept, absent, stored⟩ := posts_new crediting.posts (by simpa [returnCreditJournal] using unposted)
    accountsPayable
  rw [returnCreditJournal_net] at moved
  have documents := crediting.documents
  generalize recorded : payable.credited payable.adjustedAmount payable.outstandingAmount dto.amount = credited at *
  have id : credited.id = payable.id := recorded ▸ rfl
  have less : credited.outstandingAmount = payable.outstandingAmount - dto.amount := recorded ▸ rfl
  have ids : after.payables.documents.map (·.id) = db.payables.documents.map (·.id) := by rw [documents, keys_save]
  constructor
  · exact ids ▸ books.ids
  · rw [documents]
    exact forall_save books.documents fits
  · have control := books.control
    have saved := sum_save books.ids member id (·.outstandingAmount)
    rw [moved, DebtBook.outstanding, documents, saved, less]
    unfold DebtBook.outstanding at control
    omega
  · exact crediting.cash ▸ books.codes
  · rw [ledger, creditedReturns_append]
    apply nodup_append.mpr
    refine ⟨books.once, pairwise_singleton _ _, ?_⟩
    -- Two returns of one reference would post for one source.
    intro reference listed other single same
    obtain ⟨row, inside, rfl⟩ := mem_map.mp listed
    obtain ⟨rowIn, kind⟩ := mem_filter.mp inside
    obtain ⟨journal, journalIn, source⟩ := books.posted row rowIn (of_decide_eq_true kind)
    have named : other = dto.returnRefId := mem_singleton.mp single
    apply absent journal journalIn
    rw [source, same, named]
    rfl
  · rw [ledger]
    intro row listed kind
    rcases mem_append.mp listed with old | added
    · obtain ⟨journal, journalIn, source⟩ := books.posted row old kind
      exact ⟨journal, kept journal journalIn, source⟩
    · rw [mem_singleton.mp added]
      exact stored
  · rw [ledger, ids]
    exact forall_concat books.rows (mem_map_of_mem (f := fun doc : SupplierPayableEntity => doc.id) member)
  · rw [ledger, documents]
    have single : ∀ id, returnsOn [returnCreditRow payable key dto.returnRefId dto.amount debt journalId] id =
        if payable.id = id then dto.amount else 0 := by
      intro id
      simp [returnsOn, returnCreditRow]
    intro doc listed
    rw [returnsOn_append, single]
    rcases mem_save listed with rfl | ⟨inside, apart⟩
    · rw [adjusted, id, if_pos rfl, books.reduced payable member]
    · rw [id] at apart
      rw [if_neg (Ne.symm apart), Int.add_zero]
      exact books.reduced doc inside

theorem step {request} (journaled : Journaled db request) (books : PayableBooks db) : PayableBooks (payableStep db request) := by
  have change := payableStep_change books.ids request
  generalize payableStep db request = after at change ⊢
  cases change with
  | same => exact books
  | received takes => exact books.receive takes
  | recognised new => exact books.recognise (journaled new.absent) new
  | paid absent paying => exact books.pay (journaled absent) paying
  | credited crediting => exact books.credit (journaled crediting.absent) crediting

end PayableBooks

/-- The payables agree with the general ledger after every run in which each change posts a journal of its own. -/
theorem payables_agree_journaled {db : FinanceDb} (empty : db.payables = {}) (nothing : db.ledger.balance accountsPayable = 0)
    (codes : db.cash.Codes) {requests : List PayableRequest} (journaled : Run.Meets payableStep Journaled db requests) :
    PayablesAgree (Run.after payableStep db requests) := by
  have start : PayableBooks db := by
    constructor <;> simp [empty, codes, nothing, DebtBook.outstanding, creditedReturns]
  have books := Run.invariant_of_meets PayableBooks (fun _ _ met kept => kept.step met) journaled start
  exact ⟨books.control, fun doc member => (books.documents doc member).original, books.once, books.reduced⟩

instance (db : FinanceDb) : ∀ request, Decidable (Journaled db request)
  | .recognize .. => inferInstanceAs (Decidable (_ → _))
  | .pay .. => inferInstanceAs (Decidable (_ → _))
  | .returnCredit .. => inferInstanceAs (Decidable (_ → _))

private def purchase : PayableRequest :=
  .recognize { journal := 1, document := 1 } none { supplierId := 5, amount := 100, purchaseOrderId := some 9 }

private def returned (journal : Uuid) (header : Option String) : PayableRequest :=
  .returnCredit { journal } 1 header { amount := 10, returnRefId := "R1" }

private def purchasePaid : List PayableRequest :=
  [purchase, .pay { account := 1, category := 1, journal := 2, entry := 1 } 1 (some "pay") { amount := 40 }, returned 3 none]

theorem purchase_paid_agrees : PayablesAgree (Run.after payableStep {} purchasePaid) ∧
    (Run.after payableStep {} purchasePaid).payables.outstanding = 50 := by
  refine ⟨payables_agree_journaled rfl rfl (by simp [CashDb.Codes]) (by decide +kernel), ?_⟩
  decide +kernel

/-- One return under two keys reduces the payable twice, over one journal. -/
theorem return_credited_twice :
    ¬PayablesAgree (Run.after payableStep {} [purchase, returned 2 none, returned 3 (some "other")]) := by
  intro agrees
  have apart : -(Run.after payableStep {} [purchase, returned 2 none, returned 3 (some "other")]).ledger.balance
      accountsPayable ≠
      (Run.after payableStep {} [purchase, returned 2 none, returned 3 (some "other")]).payables.outstanding := by
    decide +kernel
  exact apart agrees.control

end Finance
