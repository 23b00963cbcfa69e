import RetailApi.Base.JsString
import RetailApi.Base.Table
import RetailApi.Customer.Domain

/-! Loyalty accounts, their ledger and the holds on their points, with the sales and returns
that earn and take back points. An account is known by its customer, of which it is the only one. -/

namespace Customer

open Transaction JsString

inductive CustomerStatus where
  | active | inactive | anonymized
deriving DecidableEq

instance : ToString CustomerStatus where
  toString
    | .active => "ACTIVE" | .inactive => "INACTIVE" | .anonymized => "ANONYMIZED"

structure CustomerEntity where
  code : String
  status : CustomerStatus := .active
  mergedIntoCustomerId : Option Uuid := none
  /-- Whether `deleted_at` is set. -/
  deleted : Bool := false
  version : Nat := 1
deriving DecidableEq

inductive LoyaltyAccountStatus where
  | active | suspended | closed
deriving DecidableEq

instance : ToString LoyaltyAccountStatus where
  toString
    | .active => "ACTIVE" | .suspended => "SUSPENDED" | .closed => "CLOSED"

structure LoyaltyAccountEntity where
  postedPointsBalance : Int := 0
  heldPoints : Int := 0
  lifetimeEarnedPoints : Int := 0
  lifetimeRedeemedPoints : Int := 0
  qualifyingPoints : Int := 0
  status : LoyaltyAccountStatus := .active
  version : Nat := 1
deriving DecidableEq

inductive LoyaltyTransactionType where
  | earn | redeem | earnReversal | manualAdjustment | mergeIn | mergeOut
deriving DecidableEq

/-- The `idempotency_key` of a ledger row: each kind of row has a text of its own. -/
inductive LoyaltyKey where
  | earnOrder (orderId : Uuid)
  | reversalReturn (returnId : Uuid)
  | reversalDeferred (orderId : Uuid)
  | redeemHold (holdId : Uuid)
  | manualAdj (customerId : Uuid) (rawKey : String)
  | mergeOut (key : String)
  | mergeIn (key : String)
deriving DecidableEq

/-- `source_ref_id` -/
inductive LoyaltySource where
  | order (orderId : Uuid)
  | ofReturn (returnId : Uuid)
  | deferred (orderId : Uuid)
  | hold (holdId : Uuid)
  | manual (rawKey : String)
  | customer (customerId : Uuid)
deriving DecidableEq

structure LoyaltyTransactionEntity where
  customerId : Uuid
  transactionType : LoyaltyTransactionType
  pointsDelta : Int
  balanceBefore : Int
  balanceAfter : Int
  sourceRefId : LoyaltySource
  idempotencyKey : LoyaltyKey
  orderId : Option Uuid := none
  returnId : Option Uuid := none
  holdId : Option Uuid := none
  eligibleSpendAmount : Option Int := none
  appliedRateAmountPerPoint : Option Int := none
deriving DecidableEq

inductive LoyaltyHoldState where
  | held | committed | released | expired
deriving DecidableEq

structure LoyaltyHoldEntity where
  customerId : Uuid
  callerService : String
  idempotencyKey : String
  sourceRefType : String
  sourceRefId : String
  points : Int
  discountValueVnd : Int
  state : LoyaltyHoldState
  expiresAt : Int
  version : Nat := 1
deriving DecidableEq

/-- `last_event_id`: the text `return:` and an id, or the id of an event. -/
inductive LastEvent where
  | ofReturn (returnId : Uuid)
  | event (eventId : Uuid)
deriving DecidableEq

/-- A row of `customer_purchase_projections`. -/
structure PurchaseProjection where
  customerId : Uuid
  orderCode : String
  branchId : Option Uuid := none
  channelType : String := "POS"
  /-- Whether the order itself was seen, or only a return of it. -/
  completed : Bool
  originalOrderTotal : Int := 0
  eligibleNetSpend : Int := 0
  returnedAmount : Int := 0
  earnedPoints : Int := 0
  reversedPoints : Int := 0
  lastEventId : LastEvent
deriving DecidableEq

structure CustomerMergeHistory where
  sourceCustomerId : Uuid
  targetCustomerId : Uuid
  idempotencyKey : String
  transferredPoints : Int
deriving DecidableEq

/-- The tables of one tenant that its loyalty programme reads and writes. -/
structure LoyaltyDb where
  customers : Table Uuid CustomerEntity := ∅
  settings : LoyaltySettingEntity := {}
  accounts : Table Uuid LoyaltyAccountEntity := ∅
  transactions : List LoyaltyTransactionEntity := []
  holds : Table Uuid LoyaltyHoldEntity := ∅
  projections : Table Uuid PurchaseProjection := ∅
  merges : List CustomerMergeHistory := []

namespace LoyaltyDb

/-- The account of a customer, written with zeros where there is none. -/
def ensureAccount (db : LoyaltyDb) (customerId : Uuid) : Except Failure (LoyaltyDb × LoyaltyAccountEntity) :=
  match db.accounts.lookup customerId with
  | some account => .ok (db, account)
  | none => do
    ensure ((db.customers.lookup customerId).isSome = true) (.database "FK_loyalty_accounts_customer")
    return ({ db with accounts := db.accounts.insert customerId {} }, {})

def saveAccount (db : LoyaltyDb) (customerId : Uuid) (account : LoyaltyAccountEntity) : Except Failure LoyaltyDb := do
  ensure (0 ≤ account.heldPoints ∧ 0 ≤ account.lifetimeEarnedPoints ∧ 0 ≤ account.lifetimeRedeemedPoints
    ∧ 0 ≤ account.qualifyingPoints) (.database "CHK_loyalty_accounts_non_negative_holds")
  return { db with accounts := db.accounts.insert customerId account }

def saveTransaction (db : LoyaltyDb) (row : LoyaltyTransactionEntity) : Except Failure LoyaltyDb := do
  ensure (∀ other ∈ db.transactions, other.idempotencyKey ≠ row.idempotencyKey) (.database "UQ_loyalty_tx_idempotency")
  ensure (∀ other ∈ db.transactions, other.transactionType = row.transactionType → other.sourceRefId ≠ row.sourceRefId)
    (.database "UQ_loyalty_tx_source_effect")
  ensure (row.pointsDelta ≠ 0) (.database "CHK_loyalty_tx_non_zero")
  ensure (row.balanceBefore + row.pointsDelta = row.balanceAfter) (.database "CHK_loyalty_tx_balance_math")
  return { db with transactions := db.transactions ++ [row] }

def saveHold (db : LoyaltyDb) (holdId : Uuid) (hold : LoyaltyHoldEntity) : LoyaltyDb :=
  { db with holds := db.holds.insert holdId hold }

/-- The row of a key, which its unique index makes the only one. -/
def transaction (db : LoyaltyDb) (key : LoyaltyKey) : Option LoyaltyTransactionEntity :=
  db.transactions.find? (·.idempotencyKey = key)

end LoyaltyDb

def LoyaltyDb.customer (db : LoyaltyDb) (customerId : Uuid) : Option CustomerEntity :=
  (db.customers.lookup customerId).filter fun customer => !customer.deleted

def customerNotFound (customerId : Uuid) : Failure := .domain .customerNotFound s!"Customer {customerId} not found" 404

structure ManualLoyaltyAdjustmentDto where
  pointsDelta : Int
  reason : String
  /-- The key of the header or the body, or one made up for a request without. -/
  rawKey : String

/-- The account after a posting of its points; what is earned counts for good, what is taken only from the tier. -/
def LoyaltyAccountEntity.posted (account : LoyaltyAccountEntity) (pointsDelta : Int) : LoyaltyAccountEntity :=
  { account with
    postedPointsBalance := account.postedPointsBalance + pointsDelta
    lifetimeEarnedPoints := if 0 < pointsDelta then account.lifetimeEarnedPoints + pointsDelta else account.lifetimeEarnedPoints
    qualifyingPoints := if 0 < pointsDelta then account.qualifyingPoints + pointsDelta
      else max 0 (account.qualifyingPoints + pointsDelta)
    version := account.version + 1 }

def adjustPoints (db : LoyaltyDb) (customerId : Uuid) (dto : ManualLoyaltyAdjustmentDto) : Except Failure LoyaltyDb := do
  ensure (dto.pointsDelta ≠ 0) (.domain .validationError "pointsDelta must be a non-zero integer" 422)
  ensure (trimmed dto.reason ≠ "") (.domain .validationError "reason is required for manual loyalty adjustment" 422)
  let rawKey := trimmed dto.rawKey
  match db.transaction (.manualAdj customerId rawKey) with
  | some _ => do
    let (db, _) ← db.ensureAccount customerId
    return db
  | none => do
    let _ ← required (db.customer customerId) (customerNotFound customerId)
    let (db, account) ← db.ensureAccount customerId
    let balanceAfter := account.postedPointsBalance + dto.pointsDelta
    let available := computeAvailablePoints account.postedPointsBalance account.heldPoints
    ensure (0 < dto.pointsDelta ∨ 0 ≤ balanceAfter - account.heldPoints) (.domain .insufficientLoyaltyPoints
      s!"Manual deduction of {-dto.pointsDelta} points exceeds available balance ({available})" 409)
    let db ← db.saveAccount customerId (account.posted dto.pointsDelta)
    db.saveTransaction {
      customerId, transactionType := .manualAdjustment, pointsDelta := dto.pointsDelta
      balanceBefore := account.postedPointsBalance, balanceAfter, sourceRefId := .manual rawKey
      idempotencyKey := .manualAdj customerId rawKey }

structure CreateLoyaltyHoldDto where
  customerId : Uuid
  points : Int
  idempotencyKey : String
  callerService : String := "sales"
  sourceRefType : String := "CHECKOUT"
  sourceRefId : String
  ttlSeconds : Option Int := none

/-- The request that a key was used for; the hash tells any two of them apart. -/
def LoyaltyHoldEntity.asked (hold : LoyaltyHoldEntity) : Uuid × Int × String × String :=
  (hold.customerId, hold.points, hold.sourceRefType, hold.sourceRefId)

/-- The request with its texts as `createHold` reads them. -/
def CreateLoyaltyHoldDto.read (dto : CreateLoyaltyHoldDto) : CreateLoyaltyHoldDto :=
  { dto with
    idempotencyKey := trimmed dto.idempotencyKey
    callerService := toLowerCase (trimmed dto.callerService)
    sourceRefType := upperTrimmed dto.sourceRefType }

def CreateLoyaltyHoldDto.asked (dto : CreateLoyaltyHoldDto) : Uuid × Int × String × String :=
  (dto.customerId, dto.points, dto.sourceRefType, dto.sourceRefId)

def LoyaltyDb.holdOf (db : LoyaltyDb) (callerService idempotencyKey : String) : Option LoyaltyHoldEntity :=
  (db.holds.rows).find? fun hold => hold.callerService = callerService ∧ hold.idempotencyKey = idempotencyKey

def LoyaltyDb.holder (db : LoyaltyDb) (customerId : Uuid) : Except Failure Unit := do
  let customer ← required (db.customer customerId) (customerNotFound customerId)
  ensure (customer.status = .active)
    (.domain .customerInactive s!"Customer {customerId} is {customer.status} and cannot redeem loyalty points" 409)

/-- The part of `createHold` under the lock of its account. -/
def holdPoints (db : LoyaltyDb) (now : Int) (holdId : Uuid) (dto : CreateLoyaltyHoldDto) : Except Failure LoyaltyDb := do
  let (db, account) ← db.ensureAccount dto.customerId
  ensure (account.status = .active) (.domain .loyaltyStateConflict s!"Loyalty account is {account.status}" 409)
  let discountValueVnd ← validatePointRedemption dto.points account.postedPointsBalance account.heldPoints db.settings
  let db ← db.saveAccount dto.customerId
    { account with heldPoints := account.heldPoints + dto.points, version := account.version + 1 }
  ensure (db.holds.lookup holdId = none) (.database "PK_loyalty_holds_id")
  ensure (db.holdOf dto.callerService dto.idempotencyKey = none) (.database "UQ_loyalty_holds_idempotency")
  return db.saveHold holdId {
    customerId := dto.customerId, callerService := dto.callerService, idempotencyKey := dto.idempotencyKey
    sourceRefType := dto.sourceRefType, sourceRefId := dto.sourceRefId, points := dto.points, discountValueVnd
    state := .held, expiresAt := now + (dto.ttlSeconds.getD db.settings.holdTtlSeconds) * 1000 }

def replayHold (db : LoyaltyDb) (existing : LoyaltyHoldEntity) (dto : CreateLoyaltyHoldDto) : Except Failure LoyaltyDb := do
  ensure (existing.asked = dto.asked) (.domain .idempotencyConflict
    s!"Idempotency-Key \"{dto.idempotencyKey}\" was already used with a different loyalty hold payload" 409)
  let (db, _) ← db.ensureAccount existing.customerId
  return db

def createHold (db : LoyaltyDb) (now : Int) (holdId : Uuid) (request : CreateLoyaltyHoldDto) : Except Failure LoyaltyDb := do
  let dto := request.read
  ensure (dto.idempotencyKey ≠ "")
    (.domain .validationError "Idempotency-Key is required for loyalty point hold creation" 422)
  match db.holdOf dto.callerService dto.idempotencyKey with
  | some existing => replayHold db existing dto
  | none => do
    db.holder dto.customerId
    holdPoints db now holdId dto

/-- The account without the points of a hold, with `floor` for what it may not fall below. -/
def LoyaltyAccountEntity.freed (floor : Int → Int) (account : LoyaltyAccountEntity) (points : Int) : LoyaltyAccountEntity :=
  { account with heldPoints := floor (account.heldPoints - points), version := account.version + 1 }

def LoyaltyHoldEntity.moved (hold : LoyaltyHoldEntity) (state : LoyaltyHoldState) : LoyaltyHoldEntity :=
  { hold with state, version := hold.version + 1 }

def LoyaltyDb.freeHold (floor : Int → Int) (db : LoyaltyDb) (holdId : Uuid) (hold : LoyaltyHoldEntity)
    (account : LoyaltyAccountEntity) (state : LoyaltyHoldState) : Except Failure LoyaltyDb := do
  let db ← db.saveAccount hold.customerId (account.freed floor hold.points)
  return db.saveHold holdId (hold.moved state)

def lockHold (db : LoyaltyDb) (holdId : Uuid) : Except Failure LoyaltyHoldEntity :=
  required (db.holds.lookup holdId) (.domain .loyaltyHoldNotFound s!"Loyalty hold {holdId} not found" 404)

/-- A hold that is overdue is not committed, and the transaction that finds it so rolls back. -/
def commitHoldWith (floor : Int → Int) (db : LoyaltyDb) (now : Int) (holdId : Uuid) (orderId : Option Uuid) :
    Except Failure LoyaltyDb := do
  let hold ← lockHold db holdId
  let (db, account) ← db.ensureAccount hold.customerId
  if hold.state = .committed then return db
  else do
    ensure (hold.state ≠ .released) (.domain .loyaltyStateConflict
      s!"Loyalty hold {holdId} was already RELEASED and cannot be committed" 409)
    ensure (hold.state ≠ .expired ∧ now < hold.expiresAt)
      (.domain .loyaltyHoldExpired s!"Loyalty hold {holdId} has expired and cannot be committed" 409)
    let balanceAfter := account.postedPointsBalance - hold.points
    let db ← db.saveAccount hold.customerId { account.freed floor hold.points with
      postedPointsBalance := balanceAfter, lifetimeRedeemedPoints := account.lifetimeRedeemedPoints + hold.points }
    (db.saveHold holdId (hold.moved .committed)).saveTransaction {
      customerId := hold.customerId, transactionType := .redeem, pointsDelta := -hold.points
      balanceBefore := account.postedPointsBalance, balanceAfter, sourceRefId := .hold holdId
      idempotencyKey := .redeemHold holdId, orderId, holdId := some holdId }

def releaseHoldWith (floor : Int → Int) (db : LoyaltyDb) (holdId : Uuid) : Except Failure LoyaltyDb := do
  let hold ← lockHold db holdId
  let (db, account) ← db.ensureAccount hold.customerId
  if hold.state = .released ∨ hold.state = .expired then return db
  else do
    ensure (hold.state ≠ .committed) (.domain .loyaltyHoldAlreadyCommitted
      s!"Loyalty hold {holdId} is already COMMITTED and cannot be released" 409)
    db.freeHold floor holdId hold account .released

/-- One row of the sweep: it is read again under its lock. -/
def expireHoldWith (floor : Int → Int) (db : LoyaltyDb) (holdId : Uuid) : Except Failure LoyaltyDb :=
  match db.holds.lookup holdId with
  | some hold =>
    if hold.state = .held then do
      let (db, account) ← db.ensureAccount hold.customerId
      db.freeHold floor holdId hold account .expired
    else .ok db
  | none => .ok db

def LoyaltyDb.overdue (db : LoyaltyDb) (now : Int) (holdId : Uuid) : Bool :=
  (db.holds.lookup holdId).any fun hold => hold.state = .held ∧ hold.expiresAt ≤ now

/-- The sweep over the overdue holds, in the order the query gives them and no more than `limit`. -/
def expireOverdueHoldsWith (floor : Int → Int) (db : LoyaltyDb) (now : Int) (rows : List Uuid) (limit : Nat) :
    Except Failure LoyaltyDb :=
  ((rows.filter (db.overdue now)).take limit).foldlM (expireHoldWith floor) db

def commitHold (db : LoyaltyDb) (now : Int) (holdId : Uuid) (orderId : Option Uuid) : Except Failure LoyaltyDb :=
  commitHoldWith (max 0) db now holdId orderId

def releaseHold (db : LoyaltyDb) (holdId : Uuid) : Except Failure LoyaltyDb := releaseHoldWith (max 0) db holdId

def expireOverdueHolds (db : LoyaltyDb) (now : Int) (rows : List Uuid) (limit : Nat) : Except Failure LoyaltyDb :=
  expireOverdueHoldsWith (max 0) db now rows limit

end Customer
