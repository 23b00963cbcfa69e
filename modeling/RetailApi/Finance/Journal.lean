import RetailApi.Finance.Store

/-! The general ledger: journals are posted once for each source and each key, and reversed
by a journal with the sides exchanged. -/

namespace Finance

open Transaction JsString

structure PostJournalInTxInput where
  journalType : String
  sourceType : String
  sourceId : String
  idempotencyKey : Option String := none
  reversalOfJournalId : Option Uuid := none
  lines : List JournalLineInput

/-- `PostedJournalWithLines` -/
structure PostedJournal where
  journal : FinancialJournalEntity
  replayed : Bool

abbrev JournalSource := String × String

def FinancialJournalEntity.source (journal : FinancialJournalEntity) : JournalSource := (journal.sourceType, journal.sourceId)

namespace PostJournalInTxInput

def source (input : PostJournalInTxInput) : JournalSource := (toUpperCase (trimmed input.sourceType), trimmed input.sourceId)

def key (input : PostJournalInTxInput) : String :=
  toLowerCase (trimmed (input.idempotencyKey.getD s!"jnl:{input.source.1}:{input.source.2}"))

def journal (input : PostJournalInTxInput) (id : Uuid) (code : String) (validated : ValidatedJournal) :
    FinancialJournalEntity where
  id := id
  code := code
  journalType := toUpperCase (trimmed input.journalType)
  sourceType := input.source.1
  sourceId := input.source.2
  idempotencyKey := input.key
  totalDebit := debits validated.lines
  totalCredit := credits validated.lines
  status := .posted
  reversalOfJournalId := input.reversalOfJournalId
  reversedByJournalId := none
  lines := validated.lines

theorem journal_source (input : PostJournalInTxInput) (id : Uuid) (code : String) (validated : ValidatedJournal) :
    (input.journal id code validated).source = input.source := rfl

theorem journal_idempotencyKey (input : PostJournalInTxInput) (id : Uuid) (code : String) (validated : ValidatedJournal) :
    (input.journal id code validated).idempotencyKey = input.key := rfl

end PostJournalInTxInput

namespace JournalDb

def journal (db : JournalDb) (id : Uuid) : Option FinancialJournalEntity := db.journals.find? (·.id = id)

/-- A journal posted for the same source or under the same key. -/
def existing (db : JournalDb) (input : PostJournalInTxInput) : Option FinancialJournalEntity :=
  db.journals.find? fun journal => journal.source = input.source ∨ journal.idempotencyKey = input.key

/-- The chart of accounts with the standard internal ones in it. -/
@[irreducible] def withDefaultAccounts (accounts : Table String AccountStatus) : Table String AccountStatus :=
  defaultFinanceAccounts.foldl (fun accounts code =>
    if (accounts.lookup code).isSome then accounts else accounts.insert code .active) accounts

def ensureDefaultAccountsInTx (db : JournalDb) : JournalDb := { db with accounts := withDefaultAccounts db.accounts }

@[simp] theorem journals_ensureDefaultAccountsInTx (db : JournalDb) : db.ensureDefaultAccountsInTx.journals = db.journals := rfl

@[simp] theorem issued_ensureDefaultAccountsInTx (db : JournalDb) : db.ensureDefaultAccountsInTx.issued = db.issued := rfl

@[simp] theorem tenantId_ensureDefaultAccountsInTx (db : JournalDb) : db.ensureDefaultAccountsInTx.tenantId = db.tenantId := rfl

def checkAccount (db : JournalDb) (line : ValidatedJournalLine) : Except Failure Unit := do
  let status ← required (db.accounts.lookup line.accountCode)
    (.domain .financialAccountNotFound s!"Financial account \"{line.accountCode}\" not found" 404)
  ensure (status = .active) (.domain .financialAccountInactive s!"Financial account \"{line.accountCode}\" is INACTIVE" 409)

/-- `INSERT` under the constraints of `financial_journals` that the code does not check itself. -/
def insert (db : JournalDb) (journal : FinancialJournalEntity) : Except Failure JournalDb := do
  ensure (journal.reversalOfJournalId = none ∨
      ∀ other ∈ db.journals, other.reversalOfJournalId ≠ journal.reversalOfJournalId)
    (.database "UQ_financial_journals_reversal_of")
  return { db with journals := db.journals ++ [journal], issued := db.issued + 1 }

end JournalDb

def replayJournal (existing : FinancialJournalEntity) (input : PostJournalInTxInput) (validated : ValidatedJournal) :
    Except Failure PostedJournal := do
  ensure (existing.totalDebit = debits validated.lines ∧ existing.source = input.source) (.domain .idempotencyConflict
    (s!"Journal idempotency key \"{input.key}\" or source \"{input.source.1}:{input.source.2}\" " ++
      "was already posted with different parameters") 409)
  return { journal := existing, replayed := true }

/-- Posts a balanced double-entry journal; deduplicates by source and by idempotency key. -/
def postJournalInTx (db : JournalDb) (drawn : Uuid) (input : PostJournalInTxInput) :
    Except Failure (JournalDb × PostedJournal) := do
  let validated ← validateBalancedJournalLines input.lines
  match db.existing input with
  | some existing => do
    let posted ← replayJournal existing input validated
    return (db, posted)
  | none => do
    let db := db.ensureDefaultAccountsInTx
    validated.lines.forM db.checkAccount
    let journal := input.journal (newId (db.journals.map (·.id)) drawn) (documentCode "JNL" (db.issued + 1)) validated
    let db ← db.insert journal
    return (db, { journal, replayed := false })

def reversalLine (line : ValidatedJournalLine) : JournalLineInput where
  accountCode := line.accountCode
  debitAmount := some line.creditAmount
  creditAmount := some line.debitAmount

def reversalLines (journal : FinancialJournalEntity) : List JournalLineInput := journal.lines.map reversalLine

def reversalInput (db : JournalDb) (orig : FinancialJournalEntity) (idempotencyKey : Option String) : PostJournalInTxInput where
  journalType := s!"{orig.journalType}_REVERSAL"
  sourceType := "JOURNAL_REVERSAL"
  sourceId := toString orig.id
  idempotencyKey := some (idempotencyKey.getD s!"jnl-rev:{db.tenantId}:{orig.id}")
  reversalOfJournalId := some orig.id
  lines := reversalLines orig

/-- The reversal that answers a repeated request with the key it was made with. -/
def replayReversal (db : JournalDb) (orig : FinancialJournalEntity) (reversalId : Uuid) (idempotencyKey : Option String) :
    Except Failure PostedJournal := do
  let reversal ← required ((idempotencyKey.filter (· ≠ "")).bind fun key =>
      (db.journal reversalId).filter fun reversal => reversal.idempotencyKey = toLowerCase (trimmed key))
    (.domain .postingAlreadyReversed s!"Journal {orig.code} ({orig.id}) has already been reversed" 409)
  return { journal := reversal, replayed := true }

/-- `SET "status" = 'REVERSED', "reversed_by_journal_id" = ...`, for the journal with the given id. -/
def FinancialJournalEntity.mark (id reversalId : Uuid) (journal : FinancialJournalEntity) : FinancialJournalEntity :=
  if journal.id = id then { journal with status := .reversed, reversedByJournalId := some reversalId } else journal

def JournalDb.markReversed (db : JournalDb) (id reversalId : Uuid) : JournalDb :=
  { db with journals := db.journals.map (·.mark id reversalId) }

def reverseJournalInTx (db : JournalDb) (drawn : Uuid) (journalId : Uuid) (idempotencyKey : Option String) :
    Except Failure (JournalDb × PostedJournal) := do
  let orig ← required (db.journal journalId)
    (.domain .journalNotFound s!"Financial journal {journalId} not found" 404)
  match orig.status, orig.reversedByJournalId with
  | .reversed, some reversalId => do
    let posted ← replayReversal db orig reversalId idempotencyKey
    return (db, posted)
  | _, _ => do
    let (db, posted) ← postJournalInTx db drawn (reversalInput db orig idempotencyKey)
    return (db.markReversed orig.id posted.journal.id, posted)

inductive LedgerCall where
  | post (drawn : Uuid) (input : PostJournalInTxInput)
  | reverse (drawn journalId : Uuid) (idempotencyKey : Option String)

namespace LedgerCall

def perform (db : JournalDb) : LedgerCall → Except Failure (JournalDb × PostedJournal)
  | .post drawn input => postJournalInTx db drawn input
  | .reverse drawn journalId idempotencyKey => reverseJournalInTx db drawn journalId idempotencyKey

def source : LedgerCall → JournalSource
  | .post _ input => input.source
  | .reverse _ journalId _ => (toUpperCase (trimmed "JOURNAL_REVERSAL"), trimmed (toString journalId))

def key (tenantId : Uuid) : LedgerCall → String
  | .post _ input => input.key
  | .reverse _ journalId idempotencyKey =>
    toLowerCase (trimmed (idempotencyKey.getD s!"jnl-rev:{tenantId}:{journalId}"))

end LedgerCall

def ledgerStep (db : JournalDb) (call : LedgerCall) : JournalDb := commit db ((·.1) <$> call.perform db)

end Finance
