import RetailApi.Finance.Journal

/-! Cash accounts and the vouchers booked on them. A posted voucher has moved the balance of
its account; the journal beside it is posted here, or was posted by the caller and is linked. -/

namespace Finance

open Transaction JsString JsNumber GlAccountCodes

/-- A row of `cash_accounts` read back; its balance must be a safe integer. -/
def readCashAccount (found : Option CashAccountEntity) : Except Failure (Option CashAccountEntity) :=
  match found with
  | none => .ok none
  | some account => do
    let _ ← toMoney account.currentBalance
    return some account

namespace CashDb

def account (db : CashDb) (id : Uuid) : Option CashAccountEntity := db.accounts.find? (·.id = id)

def activeAccount (db : CashDb) (accountType : CashAccountType) : Option CashAccountEntity :=
  db.accounts.find? fun account => account.accountType = accountType ∧ account.status = .active

def branchDrawer (db : CashDb) (branchId : Uuid) : Option CashAccountEntity :=
  db.accounts.find? fun account =>
    account.branchId = some branchId ∧ account.accountType = .cashDrawer ∧ account.status = .active

/-- `INSERT ... ON CONFLICT ("tenant_id", "code") DO NOTHING` -/
def insertAccount (db : CashDb) (account : CashAccountEntity) : CashDb :=
  if db.accounts.any (·.code = account.code) then db else { db with accounts := db.accounts ++ [account] }

end CashDb

inductive DefaultAccountType where
  | cashDrawer | bank
deriving DecidableEq

def DefaultAccountType.accountType : DefaultAccountType → CashAccountType
  | .cashDrawer => .cashDrawer
  | .bank => .bank

def defaultCashAccount (id : Uuid) (branchId : Option Uuid) (wanted : DefaultAccountType) : CashAccountEntity where
  id := id
  branchId := branchId
  code := match wanted with
    | .bank => "BANK-MAIN"
    | .cashDrawer => "CASH-MAIN"
  accountType := wanted.accountType
  glAccountCode := match wanted with
    | .bank => cashAtBank
    | .cashDrawer => cashOnHand
  currentBalance := 0
  status := .active

/-- The account a payment falls back on, before one is opened for it. -/
def CashDb.usualAccount (db : CashDb) (branchId : Option Uuid) (wanted : DefaultAccountType) : Option CashAccountEntity :=
  (branchId.bind fun branch => if wanted = .cashDrawer then db.branchDrawer branch else none) <|>
    db.activeAccount wanted.accountType

def ensureDefaultCashAccountInTx (db : CashDb) (drawn : Uuid) (branchId : Option Uuid) (wanted : DefaultAccountType) :
    Except Failure (CashDb × CashAccountEntity) := do
  match ← readCashAccount (db.usualAccount branchId wanted) with
  | some account => return (db, account)
  | none => do
    let opened := defaultCashAccount (newId (db.accounts.map (·.id)) drawn) branchId wanted
    let db := db.insertAccount opened
    let found ← readCashAccount (db.accounts.find? (·.code = opened.code))
    let account ← required found (.thrown "Cannot read properties of null")
    return (db, account)

def CashDb.category (db : CashDb) (id : Uuid) : Option CashbookCategoryEntity := db.categories.find? (·.id = id)

def CashDb.categoryByCode (db : CashDb) (code : String) : Option CashbookCategoryEntity := db.categories.find? (·.code = code)

/-- One of the default categories, unless its code is there. -/
def insertCategory (drawn : Uuid) (categories : List CashbookCategoryEntity) (spec : CashbookCategorySpec) :
    List CashbookCategoryEntity :=
  if categories.any (·.code = spec.code) then categories
  else categories ++ [{
    id := newId (categories.map (·.id)) drawn, code := spec.code, direction := spec.direction
    glAccountCode := spec.glAccountCode }]

@[irreducible] def withDefaultCategories (drawn : Uuid) (categories : List CashbookCategoryEntity) :
    List CashbookCategoryEntity :=
  defaultCashbookCategories.foldl (insertCategory drawn) categories

def ensureDefaultCategoriesInTx (db : CashDb) (drawn : Uuid) : CashDb :=
  { db with categories := withDefaultCategories drawn db.categories }

namespace CashDb

def entry (db : CashDb) (id : Uuid) : Option CashbookEntryEntity := db.entries.find? (·.id = id)

/-- `UQ_cashbook_entries_tenant_idem` and `UQ_cashbook_entries_reversal_of`, for a row beside the others. -/
def checkEntry (db : CashDb) (entry : CashbookEntryEntity) : Except Failure Unit := do
  ensure (∀ other ∈ db.entries, other.id ≠ entry.id → entry.idempotencyKey = none ∨
    other.idempotencyKey ≠ entry.idempotencyKey) (.database "UQ_cashbook_entries_tenant_idem")
  ensure (∀ other ∈ db.entries, other.id ≠ entry.id → entry.reversalOfEntryId = none ∨
    other.reversalOfEntryId ≠ entry.reversalOfEntryId) (.database "UQ_cashbook_entries_reversal_of")

/-- The next code of a voucher: receipts and expenses are numbered apart. -/
def nextCode (db : CashDb) : Direction → String
  | .receipt => documentCode "PT" (db.receiptsIssued + 1)
  | .expense => documentCode "PC" (db.expensesIssued + 1)

def insertEntry (db : CashDb) (entry : CashbookEntryEntity) : Except Failure CashDb := do
  db.checkEntry entry
  let db := { db with entries := db.entries ++ [entry] }
  match entry.direction with
  | .receipt => return { db with receiptsIssued := db.receiptsIssued + 1 }
  | .expense => return { db with expensesIssued := db.expensesIssued + 1 }

def saveEntry (db : CashDb) (entry : CashbookEntryEntity) : Except Failure CashDb := do
  db.checkEntry entry
  return { db with entries := Rows.save (·.id) entry db.entries }

def saveAccount (db : CashDb) (account : CashAccountEntity) : CashDb :=
  { db with accounts := Rows.save (·.id) account db.accounts }

end CashDb

/-- The balance of an account after a voucher of an amount. -/
def Direction.apply (direction : Direction) (balance amount : Int) : Int :=
  match direction with
  | .receipt => add balance amount
  | .expense => sub balance amount

def Direction.opposite : Direction → Direction
  | .receipt => .expense
  | .expense => .receipt

def lockCashAccount (db : CashDb) (id : Uuid) : Except Failure CashAccountEntity := do
  let found ← readCashAccount (db.account id)
  required found (.domain .cashAccountNotFound s!"Cash account {id} not found" 404)

/-- `account.currentBalance` after the voucher, and the account saved with it. -/
def moveBalance (db : CashDb) (account : CashAccountEntity) (direction : Direction) (amount : Int) : Except Failure CashDb := do
  let current ← parseVnd account.currentBalance { allowZero := true, allowNegative := true, field := "currentBalance" }
  let moved ← parseVnd amount
  return db.saveAccount { account with currentBalance := direction.apply current moved }

/-- The journal of a voucher: the cash account against the category's account. -/
def voucherJournal (entry : CashbookEntryEntity) (cashGl categoryGl : String) (cleanKey : Option String) :
    PostJournalInTxInput where
  journalType := match entry.direction with
    | .receipt => "CASHBOOK_RECEIPT"
    | .expense => "CASHBOOK_EXPENSE"
  sourceType := "CASHBOOK_ENTRY"
  sourceId := toString entry.id
  idempotencyKey := some (cleanKey.getD s!"cb-post:{entry.id}")
  lines := match entry.direction with
    | .receipt => [{ accountCode := cashGl, debitAmount := some entry.amount },
        { accountCode := categoryGl, creditAmount := some entry.amount }]
    | .expense => [{ accountCode := categoryGl, debitAmount := some entry.amount },
        { accountCode := cashGl, creditAmount := some entry.amount }]

/-- A key that was given and is not blank, trimmed and in lower case. -/
def optionalKey (key : Option String) : Option String := (key.map fun key => toLowerCase (trimmed key)).filter (· ≠ "")

def categoryGl (db : CashDb) (entry : CashbookEntryEntity) : String :=
  match db.category entry.categoryId with
  | some category => category.glAccountCode
  | none => match entry.direction with
    | .receipt => otherIncome
    | .expense => operatingExpense

/-- The journal linked by the caller, or one posted for the voucher. -/
def voucherJournalId (db : FinanceDb) (drawn : Uuid) (entry : CashbookEntryEntity) (account : CashAccountEntity)
    (cleanKey : Option String) (preLinkedJournalId : Option Uuid) : Except Failure (FinanceDb × Uuid) :=
  match preLinkedJournalId with
  | some journalId => .ok (db, journalId)
  | none => do
    let (ledger, posted) ← postJournalInTx db.ledger drawn
      (voucherJournal entry account.glAccountCode (categoryGl db.cash entry) cleanKey)
    return ({ db with ledger }, posted.journal.id)

def CashbookEntryEntity.post (entry : CashbookEntryEntity) (journalId : Uuid) (cleanKey : Option String) : CashbookEntryEntity :=
  { entry with
    status := .posted, journalId := some journalId
    idempotencyKey := if (entry.idempotencyKey.filter (· ≠ "")).isSome then entry.idempotencyKey
      else cleanKey <|> entry.idempotencyKey }

def postDraftInTx (db : FinanceDb) (draws : Draws) (entry : CashbookEntryEntity) (cleanKey : Option String)
    (preLinkedJournalId : Option Uuid) : Except Failure (FinanceDb × CashbookEntryEntity) := do
  ensure (entry.status = .draft ∨ entry.status = .approved)
    (.domain .cashbookEntryInvalidState s!"Cannot post cashbook entry in status {entry.status}" 409)
  let account ← lockCashAccount db.cash entry.cashAccountId
  ensure (account.status = .active) (.domain .cashAccountInactive
    s!"Cash account {account.code} is {account.status} and cannot accept postings" 409)
  let (db, journalId) ← voucherJournalId db draws.journal entry account cleanKey preLinkedJournalId
  let cash ← moveBalance db.cash account entry.direction entry.amount
  let posted := entry.post journalId cleanKey
  let cash ← cash.saveEntry posted
  return ({ db with cash }, posted)

def postEntryInTx (db : FinanceDb) (draws : Draws) (entryId : Uuid) (idempotencyKey : Option String)
    (preLinkedJournalId : Option Uuid) : Except Failure (FinanceDb × CashbookEntryEntity) := do
  let entry ← required (db.cash.entry entryId)
    (.domain .cashbookEntryNotFound s!"Cashbook entry {entryId} not found" 404)
  let cleanKey := optionalKey idempotencyKey
  if entry.status = .posted then do
    -- Idempotent retry if the caller passes the matching key.
    ensure (cleanKey ≠ none ∧ entry.idempotencyKey = cleanKey) (.domain .cashbookEntryAlreadyPosted
      s!"Cashbook entry {entry.code} ({entry.id}) is already POSTED" 409)
    return (db, entry)
  else postDraftInTx db draws entry cleanKey preLinkedJournalId

def postEntry (db : FinanceDb) (draws : Draws) (entryId : Uuid) (idempotencyKeyHeader : Option String) :
    Except Failure (FinanceDb × CashbookEntryEntity) :=
  postEntryInTx db draws entryId idempotencyKeyHeader none

structure VoucherInput where
  direction : Direction
  cashAccountId : Uuid
  categoryId : Option Uuid := none
  categoryCode : Option String := none
  amount : Int
  branchId : Option Uuid := none
  sourceType : Option String := none
  sourceId : Option String := none
  description : Option String := none
  autoPost : Bool := false
  idempotencyKey : Option String := none
  requestHash : Option VoucherPayload := none
  skipJournalIfLinked : Option Uuid := none

def existingVoucher (db : CashDb) (input : VoucherInput) : Option CashbookEntryEntity :=
  (input.idempotencyKey.filter (· ≠ "")).bind fun key => db.entries.find? (·.idempotencyKey = some key)

/-- The category of a voucher: by id, by code, or the usual one of its direction. -/
def voucherCategory (db : CashDb) (input : VoucherInput) : Option CashbookCategoryEntity :=
  match input.categoryId, input.categoryCode.filter (· ≠ "") with
  | some id, _ => db.category id
  | none, some code => db.categoryByCode (toUpperCase (trimmed code))
  | none, none => db.categoryByCode (match input.direction with
    | .receipt => "OTHER_RECEIPT"
    | .expense => "OPERATING_EXPENSE")

def VoucherInput.entry (input : VoucherInput) (id : Uuid) (code : String) (account : CashAccountEntity)
    (category : CashbookCategoryEntity) : CashbookEntryEntity where
  id := id
  code := code
  branchId := input.branchId <|> account.branchId
  cashAccountId := account.id
  categoryId := category.id
  direction := input.direction
  amount := input.amount
  status := .draft
  sourceType := input.sourceType
  sourceId := input.sourceId
  journalId := none
  reversalOfEntryId := none
  reversedByEntryId := none
  idempotencyKey := input.idempotencyKey
  requestHash := input.requestHash
  description := input.description

def createVoucherInTx (db : CashDb) (draws : Draws) (input : VoucherInput) : Except Failure (CashDb × CashbookEntryEntity) := do
  let account ← lockCashAccount db input.cashAccountId
  ensure (account.status = .active) (.domain .cashAccountInactive
    s!"Cash account {account.code} is {account.status} and cannot accept vouchers" 409)
  let db := ensureDefaultCategoriesInTx db draws.category
  let category ← required (voucherCategory db input) (.domain .cashbookCategoryNotFound "Cashbook category not found" 404)
  ensure (category.direction = input.direction) (.domain .validationError
    s!"Category {category.code} ({category.direction}) cannot be used for a {input.direction} voucher")
  ensure (input.direction = .receipt ∨ input.description.any fun text => trimmed text ≠ "")
    (.domain .validationError "Expense vouchers require a mandatory reason/description")
  let entry := input.entry (newId (db.entries.map (·.id)) draws.entry) (db.nextCode input.direction) account category
  let db ← db.insertEntry entry
  return (db, entry)

/-- The voucher answered to a request made before, posted when the request wants it posted. -/
def replayVoucher (db : FinanceDb) (draws : Draws) (input : VoucherInput) (existing : CashbookEntryEntity) :
    Except Failure (FinanceDb × CashbookEntryEntity) := do
  let key := input.idempotencyKey.getD ""
  ensure (input.requestHash = none ∨ existing.requestHash = none ∨ existing.requestHash = input.requestHash)
    (.domain .idempotencyConflict
      s!"Cashbook idempotency key \"{key}\" was already used with a different payload" 409)
  if input.autoPost = true ∧ existing.status ≠ .posted then
    postEntryInTx db draws existing.id input.idempotencyKey input.skipJournalIfLinked
  else return (db, existing)

def createAndOptionallyPostVoucherInTx (db : FinanceDb) (draws : Draws) (input : VoucherInput) :
    Except Failure (FinanceDb × CashbookEntryEntity) :=
  match existingVoucher db.cash input with
  | some existing => replayVoucher db draws input existing
  | none => do
    let (cash, entry) ← createVoucherInTx db.cash draws input
    let db := { db with cash }
    if input.autoPost = true then postEntryInTx db draws entry.id input.idempotencyKey input.skipJournalIfLinked
    else return (db, entry)

/-- Branches the caller may act in; `none` is every branch. -/
abbrev BranchScope := Option (List Uuid)

structure CreateCashbookVoucherDto where
  cashAccountId : Uuid
  categoryId : Option Uuid := none
  categoryCode : Option String := none
  amount : Int
  branchId : Option Uuid := none
  sourceType : Option String := none
  sourceId : Option String := none
  description : Option String := none
  autoPost : Bool := false
  idempotencyKey : Option String := none

/-- A restricted member may only book into a cash account of their branches. -/
def checkVoucherScope (db : CashDb) (scope : BranchScope) (cashAccountId : Uuid) : Except Failure Unit :=
  match scope with
  | none => .ok ()
  | some branches => do
    let account ← readCashAccount (db.account cashAccountId)
    ensure (∀ found ∈ account, ∃ branch ∈ found.branchId, branch ∈ branches)
      (.domain .cashAccountNotFound s!"Cash account {cashAccountId} not found" 404)

def createVoucher (db : FinanceDb) (draws : Draws) (direction : Direction) (idempotencyKeyHeader : Option String)
    (dto : CreateCashbookVoucherDto) (scope : BranchScope) : Except Failure (FinanceDb × CashbookEntryEntity) := do
  let amount ← parseVnd dto.amount
  checkVoucherScope db.cash scope dto.cashAccountId
  createAndOptionallyPostVoucherInTx db draws {
    direction, cashAccountId := dto.cashAccountId, categoryId := dto.categoryId, categoryCode := dto.categoryCode, amount
    branchId := dto.branchId, sourceType := dto.sourceType, sourceId := dto.sourceId, description := dto.description
    autoPost := dto.autoPost, idempotencyKey := optionalKey (idempotencyKeyHeader <|> dto.idempotencyKey)
    requestHash := some {
      direction, cashAccountId := dto.cashAccountId, categoryId := dto.categoryId, categoryCode := dto.categoryCode, amount
      branchId := dto.branchId, sourceType := dto.sourceType, sourceId := dto.sourceId } }

def approveEntry (db : FinanceDb) (entryId : Uuid) : Except Failure (FinanceDb × CashbookEntryEntity) := do
  let entry ← required (db.cash.entry entryId)
    (.domain .cashbookEntryNotFound s!"Cashbook entry {entryId} not found" 404)
  if entry.status = .approved ∨ entry.status = .posted then return (db, entry)
  else do
    ensure (entry.status = .draft)
      (.domain .cashbookEntryInvalidState s!"Cannot approve cashbook entry in status {entry.status}" 409)
    let approved := { entry with status := .approved }
    let cash ← db.cash.saveEntry approved
    return ({ db with cash }, approved)

def CashbookEntryEntity.reversal (orig : CashbookEntryEntity) (id : Uuid) (code reason : String) (journalId : Option Uuid)
    (cleanKey : Option String) : CashbookEntryEntity where
  id := id
  code := code
  branchId := orig.branchId
  cashAccountId := orig.cashAccountId
  categoryId := orig.categoryId
  direction := orig.direction.opposite
  amount := orig.amount
  status := .posted
  sourceType := some "CASHBOOK_REVERSAL"
  sourceId := some (toString orig.id)
  journalId := journalId
  reversalOfEntryId := some orig.id
  reversedByEntryId := none
  idempotencyKey := some (cleanKey.getD s!"cb-rev:{orig.id}")
  requestHash := none
  description := some s!"Reversal of {orig.code}: {reason}"

def reverseVoucherJournal (db : FinanceDb) (drawn : Uuid) (orig : CashbookEntryEntity) (cleanKey : Option String) :
    Except Failure (FinanceDb × Option Uuid) :=
  match orig.journalId with
  | none => .ok (db, none)
  | some journalId => do
    let (ledger, posted) ← reverseJournalInTx db.ledger drawn journalId (cleanKey.map fun key => s!"{key}:jnl")
    return ({ db with ledger }, some posted.journal.id)

def reversePostedEntry (db : FinanceDb) (draws : Draws) (orig : CashbookEntryEntity) (cleanKey : Option String)
    (reason : String) : Except Failure (FinanceDb × CashbookEntryEntity) := do
  ensure (orig.status = .posted) (.domain .cashbookEntryInvalidState
    s!"Only POSTED cashbook entries can be reversed (current status: {orig.status})" 409)
  let account ← lockCashAccount db.cash orig.cashAccountId
  let (db, journalId) ← reverseVoucherJournal db draws.journal orig cleanKey
  let reversal := orig.reversal (newId (db.cash.entries.map (·.id)) draws.entry) (db.cash.nextCode orig.direction.opposite)
    reason journalId cleanKey
  let cash ← db.cash.insertEntry reversal
  let cash ← cash.saveEntry { orig with status := .reversed, reversedByEntryId := some reversal.id }
  let cash ← moveBalance cash account orig.direction.opposite orig.amount
  return ({ db with cash }, reversal)

/-- The reversal that answers a repeated request with the key it was made with. -/
def replayEntryReversal (db : CashDb) (orig : CashbookEntryEntity) (reversalId : Uuid) (cleanKey : Option String) :
    Except Failure CashbookEntryEntity :=
  required (cleanKey.bind fun key => (db.entry reversalId).filter fun reversal => reversal.idempotencyKey = some key)
    (.domain .postingAlreadyReversed s!"Cashbook entry {orig.code} ({orig.id}) has already been reversed" 409)

def reverseEntry (db : FinanceDb) (draws : Draws) (entryId : Uuid) (idempotencyKeyHeader bodyKey : Option String)
    (reason : String) : Except Failure (FinanceDb × CashbookEntryEntity) := do
  let cleanKey := optionalKey (idempotencyKeyHeader <|> bodyKey)
  let orig ← required (db.cash.entry entryId)
    (.domain .cashbookEntryNotFound s!"Cashbook entry {entryId} not found" 404)
  match orig.status, orig.reversedByEntryId with
  | .reversed, some reversalId => do
    let reversal ← replayEntryReversal db.cash orig reversalId cleanKey
    return (db, reversal)
  | _, _ => reversePostedEntry db draws orig cleanKey reason

inductive CashbookRequest where
  | create (draws : Draws) (direction : Direction) (header : Option String) (dto : CreateCashbookVoucherDto) (scope : BranchScope)
  | approve (entryId : Uuid)
  | post (draws : Draws) (entryId : Uuid) (header : Option String)
  | reverse (draws : Draws) (entryId : Uuid) (header bodyKey : Option String) (reason : String)

def CashbookRequest.perform (db : FinanceDb) : CashbookRequest → Except Failure (FinanceDb × CashbookEntryEntity)
  | .create draws direction header dto scope => createVoucher db draws direction header dto scope
  | .approve entryId => approveEntry db entryId
  | .post draws entryId header => postEntry db draws entryId header
  | .reverse draws entryId header bodyKey reason => reverseEntry db draws entryId header bodyKey reason

def cashbookStep (db : FinanceDb) (request : CashbookRequest) : FinanceDb := commit db ((·.1) <$> request.perform db)

/-- The account a request names, which need not be there, or the usual one. -/
def namedAccount (db : CashDb) (drawn : Uuid) (cashAccountId branchId : Option Uuid) (wanted : DefaultAccountType) :
    Except Failure (CashDb × Option CashAccountEntity) :=
  match cashAccountId with
  | some id => do
    let found ← readCashAccount (db.account id)
    return (db, found)
  | none => do
    let (db, account) ← ensureDefaultCashAccountInTx db drawn branchId wanted
    return (db, some account)

/-- The account of a payment, when its method goes through one. -/
def methodAccount (db : CashDb) (drawn : Uuid) (cashAccountId branchId : Option Uuid) (wanted : Option DefaultAccountType) :
    Except Failure (CashDb × Option CashAccountEntity) :=
  match wanted with
  | some wanted => namedAccount db drawn cashAccountId branchId wanted
  | none => .ok (db, none)

/-- The voucher beside a journal that was posted, on the account when there is one. -/
def linkedVoucher (db : FinanceDb) (draws : Draws) (account : Option CashAccountEntity) (voucher : Uuid → VoucherInput) :
    Except Failure (FinanceDb × Option Uuid) :=
  match account with
  | none => .ok (db, none)
  | some account => do
    let (db, entry) ← createAndOptionallyPostVoucherInTx db draws (voucher account.id)
    return (db, some entry.id)

end Finance
