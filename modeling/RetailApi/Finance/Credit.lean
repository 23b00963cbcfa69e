import RetailApi.Finance.Debts

/-! Customer credit: authorizations hold part of a limit until they are released, expire, or
are committed into a receivable. -/

namespace Finance

open Transaction JsString JsNumber GlAccountCodes

/-- A row of `customer_credit_profiles` read back. -/
def readProfile (profile : CustomerCreditProfileEntity) : Except Failure CustomerCreditProfileEntity := do
  let creditLimit ← toMoney profile.creditLimit
  let postedDebt ← toMoney profile.postedDebt
  let heldCredit ← toMoney profile.heldCredit
  let prepaymentBalance ← toMoney profile.prepaymentBalance
  return { creditLimit, postedDebt, heldCredit, prepaymentBalance }

def lockOrCreateProfileInTx (db : CreditDb) (customerId : Uuid) : Except Failure (CreditDb × CustomerCreditProfileEntity) :=
  match db.profiles.lookup customerId with
  | some stored => do
    let profile ← readProfile stored
    return (db, profile)
  | none => .ok ({ db with profiles := db.profiles.insert customerId {} }, {})

namespace CreditDb

def saveProfile (db : CreditDb) (customerId : Uuid) (profile : CustomerCreditProfileEntity) : CreditDb :=
  { db with profiles := db.profiles.insert customerId profile }

def authorization (db : CreditDb) (id : Uuid) : Option CustomerCreditAuthorizationEntity :=
  db.authorizations.find? (·.id = id)

def saveAuthorization (db : CreditDb) (auth : CustomerCreditAuthorizationEntity) : CreditDb :=
  { db with authorizations := Rows.save (·.id) auth db.authorizations }

end CreditDb

def creditSummary (profile : CustomerCreditProfileEntity) : Except Failure Int := do
  let limit ← parseVnd profile.creditLimit { allowZero := true, field := "creditLimit" }
  let posted ← parseVnd profile.postedDebt { allowZero := true, field := "postedDebt" }
  let held ← parseVnd profile.heldCredit { allowZero := true, field := "heldCredit" }
  return availableCredit limit posted held

/-- `formatProfileResponse` -/
structure ProfileResponse where
  profile : CustomerCreditProfileEntity
  availableCredit : Int

/-- `formatAuthorizationResponse`, and whether the request was answered before. -/
structure AuthorizationResponse where
  authorization : CustomerCreditAuthorizationEntity
  profile : CustomerCreditProfileEntity
  availableCredit : Int
  replayed : Bool

def formatAuthorizationResponse (authorization : CustomerCreditAuthorizationEntity) (profile : CustomerCreditProfileEntity)
    (replayed : Bool) : Except Failure AuthorizationResponse := do
  let availableCredit ← creditSummary profile
  return { authorization, profile, availableCredit, replayed }

def updateCreditLimit (db : CreditDb) (customerId : Uuid) (creditLimit : Int) : Except Failure (CreditDb × ProfileResponse) := do
  let newLimit ← parseVnd creditLimit { allowZero := true, field := "creditLimit" }
  let (db, profile) ← lockOrCreateProfileInTx db customerId
  let profile := { profile with creditLimit := newLimit }
  let availableCredit ← creditSummary profile
  return (db.saveProfile customerId profile, { profile, availableCredit })

structure CreateCreditAuthorizationDto where
  customerId : Uuid
  amount : Int
  orderId : Option Uuid := none
  branchId : Option Uuid := none
  ttlSeconds : Option Nat := none
  overrideApprovedBy : Option String := none
  idempotencyKey : Option String := none

def CreateCreditAuthorizationDto.payload (dto : CreateCreditAuthorizationDto) (amount : Int) : AuthorizationPayload where
  customerId := dto.customerId
  amount := amount
  orderId := dto.orderId
  branchId := dto.branchId
  overrideApprovedBy := dto.overrideApprovedBy

def CreateCreditAuthorizationDto.authorization (dto : CreateCreditAuthorizationDto) (id : Uuid) (code : String) (amount : Int)
    (key : String) (now : Nat) : CustomerCreditAuthorizationEntity where
  id := id
  code := code
  customerId := dto.customerId
  orderId := dto.orderId
  branchId := dto.branchId
  authorizedAmount := amount
  state := .held
  overrideApprovedBy := dto.overrideApprovedBy
  idempotencyKey := key
  requestHash := dto.payload amount
  expiresAt := now + dto.ttlSeconds.getD 900 * 1000
  committedReceivableId := none

def CreditDb.authorizationByKey (db : CreditDb) (key : String) : Option CustomerCreditAuthorizationEntity :=
  db.authorizations.find? (·.idempotencyKey = key)

def holdCredit (db : CreditDb) (drawn : Uuid) (now : Nat) (key : String) (amount : Int) (dto : CreateCreditAuthorizationDto)
    (profile : CustomerCreditProfileEntity) : Except Failure (CreditDb × AuthorizationResponse) := do
  let evaluation ← evaluateCreditAuthorization {
    creditLimit := profile.creditLimit, postedDebt := profile.postedDebt, heldCredit := profile.heldCredit
    requestedAmount := amount, overrideApprovedBy := dto.overrideApprovedBy }
  let profile := { profile with heldCredit := evaluation.heldCreditAfter }
  let auth := dto.authorization (newId (db.authorizations.map (·.id)) drawn) (documentCode "CRD" (db.issued + 1)) amount key now
  let db := db.saveProfile dto.customerId profile
  let response ← formatAuthorizationResponse auth profile false
  return ({ db with authorizations := db.authorizations ++ [auth], issued := db.issued + 1 }, response)

def replayAuthorization (existing : CustomerCreditAuthorizationEntity) (profile : CustomerCreditProfileEntity)
    (payload : AuthorizationPayload) : Except Failure AuthorizationResponse := do
  ensure (existing.requestHash = payload) (.domain .idempotencyConflict
    s!"Credit authorization idempotency key \"{existing.idempotencyKey}\" was already used with a different payload" 409)
  formatAuthorizationResponse existing profile true

def authorizeCredit (db : CreditDb) (drawn : Uuid) (now : Nat) (idempotencyKeyHeader : Option String)
    (dto : CreateCreditAuthorizationDto) : Except Failure (CreditDb × AuthorizationResponse) := do
  let key ← required (optionalKey (idempotencyKeyHeader <|> dto.idempotencyKey)) (.domain .validationError
    "Idempotency-Key header or idempotencyKey field is required for credit authorization")
  let amount ← parseVnd dto.amount
  let (db, profile) ← lockOrCreateProfileInTx db dto.customerId
  match db.authorizationByKey key with
  | some existing => do
    let response ← replayAuthorization existing profile (dto.payload amount)
    return (db, response)
  | none => holdCredit db drawn now key amount dto profile

structure CommitCreditAuthorizationDto where
  orderId : Option Uuid := none
  branchId : Option Uuid := none

/-- The posting for a committed authorization: receivable against sales revenue. -/
def commitJournal (auth : CustomerCreditAuthorizationEntity) : PostJournalInTxInput where
  journalType := "CREDIT_SALE_RECEIVABLE"
  sourceType := "CREDIT_AUTHORIZATION_COMMIT"
  sourceId := toString auth.id
  idempotencyKey := some s!"crd-commit-jnl:{auth.id}"
  lines := [{ accountCode := accountsReceivable, debitAmount := some auth.authorizedAmount },
    { accountCode := salesRevenueClearing, creditAmount := some auth.authorizedAmount }]

def commitReceivable (auth : CustomerCreditAuthorizationEntity) (id : Uuid) (code : String) (orderId branchId : Option Uuid)
    (journalId : Uuid) : CustomerReceivableEntity where
  id := id
  code := code
  partyId := auth.customerId
  originalAmount := auth.authorizedAmount
  paidAmount := 0
  adjustedAmount := 0
  outstandingAmount := auth.authorizedAmount
  status := .open
  sourceType := if orderId.isSome then "SALES_ORDER" else "CREDIT_AUTHORIZATION"
  sourceId := toString (orderId.getD auth.id)
  journalId := journalId
  idempotencyKey := s!"ar-from-crd:{auth.id}"
  columns := { orderId, branchId, creditAuthorizationId := some auth.id }

/-- The row of the debt ledger for a committed authorization. -/
def commitLedgerRow (auth : CustomerCreditAuthorizationEntity) (receivableId journalId : Uuid) (postedBefore : Int) :
    DebtLedgerEntity where
  partyId := auth.customerId
  documentId := receivableId
  entryType := .debtRecognized
  amountDelta := auth.authorizedAmount
  balanceBefore := postedBefore
  balanceAfter := add postedBefore auth.authorizedAmount
  cashbookEntryId := none
  journalId := journalId
  referenceType := "CREDIT_AUTHORIZATION"
  referenceId := toString auth.id
  idempotencyKey := s!"ar-ldg-crd:{auth.id}"

def commitHeld (db : FinanceDb) (draws : Draws) (auth : CustomerCreditAuthorizationEntity)
    (profile : CustomerCreditProfileEntity) (dto : CommitCreditAuthorizationDto) :
    Except Failure (FinanceDb × AuthorizationResponse) := do
  let authorized ← parseVnd auth.authorizedAmount { field := "authorizedAmount" }
  let heldBefore ← parseVnd profile.heldCredit { allowZero := true, field := "heldCredit" }
  let postedBefore ← parseVnd profile.postedDebt { allowZero := true, field := "postedDebt" }
  let orderId := dto.orderId <|> auth.orderId
  let branchId := dto.branchId <|> auth.branchId
  let (ledger, posted) ← postJournalInTx db.ledger draws.journal (commitJournal auth)
  let book := db.credit.receivables
  let receivable := commitReceivable auth (newId (book.documents.map (·.id)) draws.document)
    (documentCode "AR" (book.issued + 1)) orderId branchId posted.journal.id
  let book ← book.insertDocument receivable
  let book ← book.insertLedger (commitLedgerRow auth receivable.id posted.journal.id postedBefore)
  let profile := { profile with
    heldCredit := lessAtMost heldBefore authorized, postedDebt := add postedBefore authorized }
  let auth := { auth with state := .committed, orderId, branchId, committedReceivableId := some receivable.id }
  let credit := ({ db.credit with receivables := book }.saveProfile auth.customerId profile).saveAuthorization auth
  let response ← formatAuthorizationResponse auth profile false
  return ({ db with ledger, credit }, response)

def commitAuthorization (db : FinanceDb) (draws : Draws) (authId : Uuid) (dto : CommitCreditAuthorizationDto) :
    Except Failure (FinanceDb × AuthorizationResponse) := do
  let auth ← required (db.credit.authorization authId)
    (.domain .creditAuthorizationNotFound s!"Credit authorization {authId} not found" 404)
  let (credit, profile) ← lockOrCreateProfileInTx db.credit auth.customerId
  let db := { db with credit }
  if auth.state = .committed then do
    let response ← formatAuthorizationResponse auth profile true
    return (db, response)
  else do
    ensure (auth.state = .held) (.domain .creditAuthorizationInvalidState
      s!"Cannot commit credit authorization {auth.code} in state {auth.state}" 409)
    commitHeld db draws auth profile dto

def releaseHeld (db : CreditDb) (auth : CustomerCreditAuthorizationEntity) (profile : CustomerCreditProfileEntity) :
    Except Failure (CreditDb × AuthorizationResponse) := do
  let authorized ← parseVnd auth.authorizedAmount { field := "authorizedAmount" }
  let heldBefore ← parseVnd profile.heldCredit { allowZero := true, field := "heldCredit" }
  let profile := { profile with heldCredit := lessAtMost heldBefore authorized }
  let auth := { auth with state := .released }
  let response ← formatAuthorizationResponse auth profile false
  return ((db.saveProfile auth.customerId profile).saveAuthorization auth, response)

def releaseAuthorization (db : CreditDb) (authId : Uuid) : Except Failure (CreditDb × AuthorizationResponse) := do
  let auth ← required (db.authorization authId)
    (.domain .creditAuthorizationNotFound s!"Credit authorization {authId} not found" 404)
  let (db, profile) ← lockOrCreateProfileInTx db auth.customerId
  if auth.state = .released ∨ auth.state = .expired then do
    let response ← formatAuthorizationResponse auth profile true
    return (db, response)
  else do
    ensure (auth.state = .held) (.domain .creditAuthorizationInvalidState
      s!"Cannot release credit authorization {auth.code} in state {auth.state}" 409)
    releaseHeld db auth profile

/-- One overdue authorization: its credit is given back and it is marked. -/
def expireAuthorization (db : CreditDb) (auth : CustomerCreditAuthorizationEntity) : Except Failure CreditDb := do
  let amount ← toMoney auth.authorizedAmount
  let (db, profile) ← lockOrCreateProfileInTx db auth.customerId
  let heldBefore ← parseVnd profile.heldCredit { allowZero := true, field := "heldCredit" }
  let authorized ← parseVnd amount { field := "authorizedAmount" }
  let db := db.saveProfile auth.customerId { profile with heldCredit := lessAtMost heldBefore authorized }
  return db.saveAuthorization { auth with state := .expired }

/-- Expires what is overdue; rows that another transaction has `locked` are skipped. -/
def expireStaleAuthorizations (db : CreditDb) (now : Nat) (locked : List Uuid) : Except Failure CreditDb :=
  (db.authorizations.filter fun auth => auth.state = .held ∧ auth.expiresAt ≤ now ∧ auth.id ∉ locked).foldlM
    expireAuthorization db

end Finance
