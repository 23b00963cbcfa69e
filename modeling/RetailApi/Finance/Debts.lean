import RetailApi.Finance.Cashbook

/-! What receivables and payables have in common: a document is recognised with a row of
the debt ledger, and a payment goes through its allocations, document by document. -/

namespace Finance

open Transaction JsNumber

variable {Columns : Type}

def ObligationStatus.isOpen : ObligationStatus → Bool
  | .open | .partiallyPaid => true
  | .paid | .adjusted => false

/-- `before >= amount ? before - amount : 0` -/
def lessAtMost (before amount : Int) : Int := if amount ≤ before then before - amount else 0

namespace DebtBook

def document (book : DebtBook Columns) (id : Uuid) : Option (ObligationEntity Columns) := book.documents.find? (·.id = id)

/-- `INSERT` of a document under its unique constraints. -/
def insertDocument (book : DebtBook Columns) (doc : ObligationEntity Columns) : Except Failure (DebtBook Columns) := do
  ensure (∀ other ∈ book.documents, (other.sourceType, other.sourceId) ≠ (doc.sourceType, doc.sourceId))
    (.database "UQ_tenant_source")
  ensure (∀ other ∈ book.documents, other.idempotencyKey ≠ doc.idempotencyKey) (.database "UQ_tenant_idem")
  return { book with documents := book.documents ++ [doc], issued := book.issued + 1 }

def saveDocument (book : DebtBook Columns) (doc : ObligationEntity Columns) : DebtBook Columns :=
  { book with documents := Rows.save (·.id) doc book.documents }

/-- `INSERT` of a row of the ledger under `UQ_..._debt_ledger_tenant_idem`. -/
def insertLedger (book : DebtBook Columns) (row : DebtLedgerEntity) : Except Failure (DebtBook Columns) := do
  ensure (∀ other ∈ book.ledger, other.idempotencyKey ≠ row.idempotencyKey) (.database "UQ_debt_ledger_tenant_idem")
  return { book with ledger := book.ledger ++ [row] }

/-- The row of the ledger that says a payment under a key was made. -/
def paymentRow (book : DebtBook Columns) (cleanKey : String) : Option DebtLedgerEntity :=
  book.ledger.find? fun row => row.idempotencyKey = cleanKey ∨ row.idempotencyKey = s!"{cleanKey}:1"

end DebtBook

def readLedgerRow (found : Option DebtLedgerEntity) : Except Failure (Option DebtLedgerEntity) :=
  match found with
  | none => .ok none
  | some row => do
    let _ ← toMoney row.amountDelta
    let _ ← toMoney row.balanceBefore
    let _ ← toMoney row.balanceAfter
    return some row

def PaidStatus.status : PaidStatus → ObligationStatus
  | .partiallyPaid => .partiallyPaid
  | .paid => .paid

def ObligationEntity.allocated (doc : ObligationEntity Columns) (line : CalculatedAllocationLine) : ObligationEntity Columns :=
  { doc with
    paidAmount := line.paidAmountAfter, outstandingAmount := line.outstandingAfter, status := line.statusAfter.status }

structure PaymentEntry where
  partyId : Uuid
  cashbookEntryId : Uuid
  journalId : Uuid
  referenceType : String
  cleanKey : String

/-- The key of a row: that of the payment, numbered when there are several rows. -/
def paymentRowKey (cleanKey : String) (count index : Nat) : String := if count = 1 then cleanKey else s!"{cleanKey}:{index + 1}"

def PaymentEntry.row (payment : PaymentEntry) (count index : Nat) (documentId : Uuid) (amount debtBefore : Int) :
    DebtLedgerEntity where
  partyId := payment.partyId
  documentId := documentId
  entryType := .paymentApplied
  amountDelta := -amount
  balanceBefore := debtBefore
  balanceAfter := lessAtMost debtBefore amount
  cashbookEntryId := some payment.cashbookEntryId
  journalId := payment.journalId
  referenceType := payment.referenceType
  referenceId := payment.cleanKey
  idempotencyKey := paymentRowKey payment.cleanKey count index

/-- The books and the running debt while a payment is applied. -/
structure PaymentProgress (Columns : Type) where
  book : DebtBook Columns
  runningDebt : Int

def applyAllocation (payment : PaymentEntry) (openDocs : List (ObligationEntity Columns)) (count : Nat)
    (progress : PaymentProgress Columns) (line : CalculatedAllocationLine × Nat) : Except Failure (PaymentProgress Columns) := do
  let doc ← required (openDocs.find? (·.id = line.1.documentId)) (.thrown "Cannot set properties of undefined")
  let amount ← parseVnd line.1.allocatedAmount { field := "allocatedAmount" }
  let book := progress.book.saveDocument (doc.allocated line.1)
  let book ← book.insertLedger (payment.row count line.2 doc.id amount progress.runningDebt)
  return { book, runningDebt := lessAtMost progress.runningDebt amount }

def applyAllocations (payment : PaymentEntry) (openDocs : List (ObligationEntity Columns))
    (allocations : List CalculatedAllocationLine) (book : DebtBook Columns) (debt : Int) :
    Except Failure (PaymentProgress Columns) :=
  allocations.zipIdx.foldlM (applyAllocation payment openDocs allocations.length) { book, runningDebt := debt }

/-- The account named by a payment, or the usual one for its method. -/
def paymentAccount (db : CashDb) (drawn : Uuid) (cashAccountId branchId : Option Uuid) (wanted : DefaultAccountType) :
    Except Failure (CashDb × CashAccountEntity) :=
  match cashAccountId with
  | some id => do
    let account ← lockCashAccount db id
    return (db, account)
  | none => ensureDefaultCashAccountInTx db drawn branchId wanted

inductive PaymentMethod where
  | cash | bankTransfer | card | eWallet
deriving DecidableEq

def PaymentMethod.accountType : PaymentMethod → DefaultAccountType
  | .cash => .cashDrawer
  | _ => .bank

end Finance
