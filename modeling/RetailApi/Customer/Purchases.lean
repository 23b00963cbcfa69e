import RetailApi.Base.Keyed
import RetailApi.Customer.Loyalty

/-! What completed sales earn and completed returns take back, and the merge of two customers. -/

namespace Customer

open Transaction Customer

structure CompletedSale where
  eventId : Uuid
  customerId : Uuid
  orderId : Uuid
  orderCode : String
  branchId : Option Uuid := none
  channelType : String := "POS"
  originalOrderTotalVnd : Int
  eligibleNetSpendVnd : Int

/-- The projection of a sale, over what an early return left. -/
def CompletedSale.projection (sale : CompletedSale) (earned : EarnedPoints) : Option PurchaseProjection → PurchaseProjection
  | none => {
    customerId := sale.customerId, orderCode := sale.orderCode, branchId := sale.branchId, channelType := sale.channelType
    completed := true, originalOrderTotal := sale.originalOrderTotalVnd, eligibleNetSpend := earned.eligibleSpendVnd
    earnedPoints := earned.earnedPoints, lastEventId := .event sale.eventId }
  | some projection => { projection with
    customerId := sale.customerId, orderCode := sale.orderCode, branchId := sale.branchId <|> projection.branchId
    completed := true, originalOrderTotal := sale.originalOrderTotalVnd, eligibleNetSpend := earned.eligibleSpendVnd
    earnedPoints := earned.earnedPoints, lastEventId := .event sale.eventId }

/-- Posts points to an account, with the row that says so. -/
def LoyaltyDb.post (db : LoyaltyDb) (account : LoyaltyAccountEntity) (row : LoyaltyTransactionEntity) :
    Except Failure (LoyaltyDb × LoyaltyAccountEntity) := do
  let saved ← db.saveAccount row.customerId (account.posted row.pointsDelta)
  let saved ← saved.saveTransaction row
  return (saved, account.posted row.pointsDelta)

def CompletedSale.earnRow (sale : CompletedSale) (earned : EarnedPoints) (account : LoyaltyAccountEntity) :
    LoyaltyTransactionEntity where
  customerId := sale.customerId
  transactionType := .earn
  pointsDelta := earned.earnedPoints
  balanceBefore := account.postedPointsBalance
  balanceAfter := account.postedPointsBalance + earned.earnedPoints
  sourceRefId := .order sale.orderId
  idempotencyKey := .earnOrder sale.orderId
  orderId := some sale.orderId
  eligibleSpendAmount := some earned.eligibleSpendVnd
  appliedRateAmountPerPoint := some earned.appliedRateVnd

def CompletedSale.deferredRow (sale : CompletedSale) (earned : EarnedPoints) (account : LoyaltyAccountEntity)
    (pointsToReverse : Int) : LoyaltyTransactionEntity where
  customerId := sale.customerId
  transactionType := .earnReversal
  pointsDelta := -pointsToReverse
  balanceBefore := account.postedPointsBalance
  balanceAfter := account.postedPointsBalance - pointsToReverse
  sourceRefId := .deferred sale.orderId
  idempotencyKey := .reversalDeferred sale.orderId
  orderId := some sale.orderId
  appliedRateAmountPerPoint := some earned.appliedRateVnd

def reverseDeferred (db : LoyaltyDb) (sale : CompletedSale) (earned : EarnedPoints) (account : LoyaltyAccountEntity)
    (projection : PurchaseProjection) (preExistingReturnedVnd : Int) : Except Failure (LoyaltyDb × PurchaseProjection) := do
  let returned ← parseVndBigInt preExistingReturnedVnd
  if 0 < returned ∧ projection.reversedPoints = 0 then do
    let pointsToReverse ← calculateReturnPointReversal earned.earnedPoints 0 earned.eligibleSpendVnd preExistingReturnedVnd
      preExistingReturnedVnd
    if 0 < pointsToReverse then do
      let (db, _) ← db.post account (sale.deferredRow earned account pointsToReverse)
      return (db, { projection with reversedPoints := pointsToReverse })
    else return (db, projection)
  else return (db, projection)

/-- Earns the points of a sale, and at once takes back those of returns that came before it. -/
def earn (db : LoyaltyDb) (sale : CompletedSale) (earned : EarnedPoints) (account : LoyaltyAccountEntity)
    (projection : PurchaseProjection) (preExistingReturnedVnd : Int) : Except Failure (LoyaltyDb × PurchaseProjection) :=
  if 0 < earned.earnedPoints then do
    let (db, account) ← db.post account (sale.earnRow earned account)
    reverseDeferred db sale earned account projection preExistingReturnedVnd
  else return (db, projection)

def processCompletedSale (db : LoyaltyDb) (sale : CompletedSale) : Except Failure LoyaltyDb :=
  match db.customer sale.customerId, db.transaction (.earnOrder sale.orderId) with
  | none, _ | _, some _ => .ok db
  | some _, none => do
    let (db, account) ← db.ensureAccount sale.customerId
    let earned ← calculateEarnedPoints sale.eligibleNetSpendVnd db.settings
    let seen := db.projections.lookup sale.orderId
    let (db, projection) ← earn db sale earned account (sale.projection earned seen) ((seen.map (·.returnedAmount)).getD 0)
    return { db with projections := db.projections.insert sale.orderId projection }

structure CompletedReturn where
  returnId : Uuid
  orderId : Uuid
  customerId : Option Uuid
  refundAmountVnd : Int

/-- `PENDING-` and the beginning of the order's id. -/
def pendingCode (orderId : Uuid) : String := s!"PENDING-{orderId}"

def CompletedReturn.pending (ret : CompletedReturn) (customerId : Uuid) (refundVnd : Int) : PurchaseProjection where
  customerId := customerId
  orderCode := pendingCode ret.orderId
  completed := false
  returnedAmount := refundVnd
  lastEventId := .ofReturn ret.returnId

def LoyaltyDb.earnOf (db : LoyaltyDb) (orderId : Uuid) : Option LoyaltyTransactionEntity :=
  db.transactions.find? fun row => row.orderId = some orderId ∧ row.transactionType = .earn

def LoyaltyDb.reversedOf (db : LoyaltyDb) (orderId : Uuid) : Int :=
  ((db.transactions.filter fun row => row.orderId = some orderId ∧ row.transactionType = .earnReversal).map
    fun row => |row.pointsDelta|).sum

def CompletedReturn.reversalRow (ret : CompletedReturn) (customerId : Uuid) (account : LoyaltyAccountEntity)
    (earnTx : LoyaltyTransactionEntity) (pointsToReverse : Int) : LoyaltyTransactionEntity where
  customerId := customerId
  transactionType := .earnReversal
  pointsDelta := -pointsToReverse
  balanceBefore := account.postedPointsBalance
  balanceAfter := account.postedPointsBalance - pointsToReverse
  sourceRefId := .ofReturn ret.returnId
  idempotencyKey := .reversalReturn ret.returnId
  orderId := some ret.orderId
  returnId := some ret.returnId
  appliedRateAmountPerPoint := earnTx.appliedRateAmountPerPoint

structure ReturnOutcome where
  reversedPoints : Int
  replayed : Bool
  deferred : Bool := false

/-- Takes points back for a return of an order that earned. -/
def reverseEarned (db : LoyaltyDb) (ret : CompletedReturn) (projection : PurchaseProjection)
    (earnTx : LoyaltyTransactionEntity) (refundVnd : Int) : Except Failure (LoyaltyDb × ReturnOutcome) := do
  let already := db.reversedOf ret.orderId
  let pointsToReverse ← calculateReturnPointReversal earnTx.pointsDelta already
    (earnTx.eligibleSpendAmount.getD projection.eligibleNetSpend) refundVnd projection.returnedAmount
  let db := { db with
    projections := db.projections.insert ret.orderId { projection with reversedPoints := already + pointsToReverse } }
  if pointsToReverse ≤ 0 then return (db, ⟨0, false, false⟩)
  else do
    let (db, account) ← db.ensureAccount projection.customerId
    let (db, _) ← db.post account (ret.reversalRow projection.customerId account earnTx pointsToReverse)
    return (db, ⟨pointsToReverse, false, false⟩)

def PurchaseProjection.returned (projection : PurchaseProjection) (returnId : Uuid) (returnedAmount : Int) : PurchaseProjection :=
  { projection with returnedAmount, lastEventId := .ofReturn returnId }

def processCompletedReturn (db : LoyaltyDb) (ret : CompletedReturn) : Except Failure (LoyaltyDb × ReturnOutcome) :=
  match db.transaction (.reversalReturn ret.returnId) with
  | some existing => .ok (db, ⟨|existing.pointsDelta|, true, false⟩)
  | none => do
    let refundVnd ← parseVndBigInt ret.refundAmountVnd
    match db.projections.lookup ret.orderId with
    | none =>
      match ret.customerId with
      | none => return (db, ⟨0, false, true⟩)
      | some customerId => return ({ db with
          projections := db.projections.insert ret.orderId (ret.pending customerId refundVnd) }, ⟨0, false, true⟩)
    | some projection =>
      if projection.lastEventId = .ofReturn ret.returnId then return (db, ⟨0, true, false⟩)
      else do
        let prevReturnedVnd ← parseVndBigInt projection.returnedAmount
        let returnedAmount ← toVndNumber (prevReturnedVnd + refundVnd)
        let returned := projection.returned ret.returnId returnedAmount
        match db.earnOf ret.orderId with
        | none => return ({ db with projections := db.projections.insert ret.orderId returned }, ⟨0, false, true⟩)
        | some earnTx => reverseEarned db ret returned earnTx refundVnd

/-- The amounts of `OrderCompletedPayload` and `SalesOrderLifecycleEventPayload`. -/
structure SalePayload where
  orderId : Uuid
  code : String
  branchId : Option Uuid := none
  customerId : Option Uuid
  channelType : String := "POS"
  subtotal : Int
  discountTotal : Int
  grandTotal : Int
  totalAmount : Int

/-- What counts for points: the goods less their discount. -/
def eligibleNetSpend (subtotalVnd discountVnd : Int) : Int :=
  if discountVnd < subtotalVnd then subtotalVnd - discountVnd else 0

def SalePayload.sale (p : SalePayload) (eventId customerId : Uuid) (channelType : String) (originalOrderTotalVnd eligible : Int) :
    CompletedSale where
  eventId := eventId
  customerId := customerId
  orderId := p.orderId
  orderCode := p.code
  branchId := p.branchId
  channelType := channelType
  originalOrderTotalVnd := originalOrderTotalVnd
  eligibleNetSpendVnd := eligible

def columnOr (column other : Int) : Except Failure Int :=
  if column = 0 then .ok other else parseVndBigInt column

def onSalesOrderCompleted (db : LoyaltyDb) (eventId : Uuid) (p : SalePayload) : Except Failure LoyaltyDb :=
  match p.customerId with
  | none => .ok db
  | some customerId => do
    let subtotalVnd ← columnOr p.subtotal (max 0 p.totalAmount)
    let discountVnd ← columnOr p.discountTotal 0
    let grandTotalVnd ← columnOr p.grandTotal (max 0 p.totalAmount)
    let originalOrderTotalVnd ← toVndNumber grandTotalVnd
    let eligible ← toVndNumber (eligibleNetSpend subtotalVnd discountVnd)
    processCompletedSale db (p.sale eventId customerId "POS" originalOrderTotalVnd eligible)

def onSalesCheckoutCompleted (db : LoyaltyDb) (eventId : Uuid) (p : SalePayload) : Except Failure LoyaltyDb :=
  match p.customerId with
  | none => .ok db
  | some customerId => do
    let subtotalVnd ← parseVndBigInt p.subtotal
    let discountVnd ← parseVndBigInt p.discountTotal
    let grandTotalVnd ← parseVndBigInt p.grandTotal
    let originalOrderTotalVnd ← toVndNumber grandTotalVnd
    let eligible ← toVndNumber (eligibleNetSpend subtotalVnd discountVnd)
    processCompletedSale db (p.sale eventId customerId p.channelType originalOrderTotalVnd eligible)

inductive SalesEvent where
  | orderCompleted (eventId : Uuid) (p : SalePayload)
  | checkoutCompleted (eventId : Uuid) (p : SalePayload)
  | returnCompleted (eventId : Uuid) (ret : CompletedReturn)

def deliverSales (db : LoyaltyDb) : SalesEvent → LoyaltyDb
  | .orderCompleted eventId p => commit db (onSalesOrderCompleted db eventId p)
  | .checkoutCompleted eventId p => commit db (onSalesCheckoutCompleted db eventId p)
  | .returnCompleted _ ret => commit db ((processCompletedReturn db ret).map (·.1))

def CustomerEntity.mergedInto (customer : CustomerEntity) (targetId : Uuid) : CustomerEntity :=
  { customer with
    status := .inactive, mergedIntoCustomerId := some targetId, deleted := true, version := customer.version + 1 }

def mergeRow (transactionType : LoyaltyTransactionType) (customerId otherId : Uuid) (key : LoyaltyKey)
    (before pointsDelta : Int) : LoyaltyTransactionEntity where
  customerId := customerId
  transactionType := transactionType
  pointsDelta := pointsDelta
  balanceBefore := before
  balanceAfter := before + pointsDelta
  sourceRefId := .customer otherId
  idempotencyKey := key

/-- Writes the rows of a transfer, when there is anything to transfer. -/
def LoyaltyDb.transfer (db : LoyaltyDb) (sourceId targetId : Uuid) (key : String) (source target : LoyaltyAccountEntity) :
    Except Failure LoyaltyDb :=
  if source.postedPointsBalance = 0 then .ok db
  else do
    let db ← db.saveTransaction
      (mergeRow .mergeOut sourceId targetId (.mergeOut key) source.postedPointsBalance (-source.postedPointsBalance))
    db.saveTransaction (mergeRow .mergeIn targetId sourceId (.mergeIn key) target.postedPointsBalance source.postedPointsBalance)

def LoyaltyAccountEntity.emptied (account : LoyaltyAccountEntity) : LoyaltyAccountEntity :=
  { account with postedPointsBalance := 0, qualifyingPoints := 0, status := .closed, version := account.version + 1 }

def LoyaltyAccountEntity.joined (account source : LoyaltyAccountEntity) : LoyaltyAccountEntity :=
  { account with
    postedPointsBalance := account.postedPointsBalance + source.postedPointsBalance
    lifetimeEarnedPoints := account.lifetimeEarnedPoints + source.lifetimeEarnedPoints
    lifetimeRedeemedPoints := account.lifetimeRedeemedPoints + source.lifetimeRedeemedPoints
    qualifyingPoints := account.qualifyingPoints + source.qualifyingPoints
    version := account.version + 1 }

/-- Moves the points of the source to the target; the source's account, where there is one, is closed. -/
def LoyaltyDb.joinAccounts (db : LoyaltyDb) (sourceId targetId : Uuid) (key : String) : Except Failure (LoyaltyDb × Int) :=
  let target := (db.accounts.lookup targetId).getD {}
  match db.accounts.lookup sourceId with
  | none => do
    let db ← db.saveAccount targetId { target with version := target.version + 1 }
    return (db, 0)
  | some source => do
    let db ← db.transfer sourceId targetId key source target
    let db ← db.saveAccount sourceId source.emptied
    let db ← db.saveAccount targetId (target.joined source)
    return (db, source.postedPointsBalance)

/-- The rest of a merge: the projections move, the source is gone, and the merge is on record. -/
def LoyaltyDb.recordMerge (db : LoyaltyDb) (sourceId targetId : Uuid) (key : String) (source target : CustomerEntity)
    (transferredPoints : Int) : Except Failure LoyaltyDb := do
  ensure (∀ merge ∈ db.merges, merge.idempotencyKey ≠ key) (.database "UQ_customer_merge_idempotency")
  return { db with
    projections := db.projections.mapRows fun _ projection =>
      if projection.customerId = sourceId then { projection with customerId := targetId } else projection
    customers := (db.customers.insert sourceId (source.mergedInto targetId)).insert targetId
      { target with version := target.version + 1 }
    merges := db.merges ++ [⟨sourceId, targetId, key, transferredPoints⟩] }

structure MergeCustomersDto where
  sourceCustomerId : Uuid
  targetCustomerId : Uuid
  idempotencyKey : Option String := none

def MergeCustomersDto.key (dto : MergeCustomersDto) : String :=
  dto.idempotencyKey.getD s!"merge:{dto.sourceCustomerId}:{dto.targetCustomerId}"

def mergeConflict (sourceId targetId : Uuid) (merged : String) : Failure :=
  .domain .customerMergeConflict s!"Source customer '{sourceId}' {merged} merged into '{targetId}'" 409

def LoyaltyDb.mergeOf (db : LoyaltyDb) (dto : MergeCustomersDto) : Option CustomerMergeHistory :=
  db.merges.find? fun merge => merge.idempotencyKey = dto.key ∨ merge.sourceCustomerId = dto.sourceCustomerId

def LoyaltyDb.NoHeld (db : LoyaltyDb) (customerId : Uuid) : Prop :=
  ∀ hold ∈ db.holds.rows, hold.customerId = customerId → hold.state ≠ .held

instance (db : LoyaltyDb) (customerId : Uuid) : Decidable (db.NoHeld customerId) :=
  inferInstanceAs (Decidable (∀ hold ∈ _, _))

/-- What a merge checks of its customers, under the locks on both. -/
def LoyaltyDb.mergeable (db : LoyaltyDb) (sourceId targetId : Uuid) :
    Except Failure (CustomerEntity × CustomerEntity) := do
  let source ← required (db.customers.lookup sourceId) (customerNotFound sourceId)
  let target ← required (db.customers.lookup targetId) (customerNotFound targetId)
  ensure (source.mergedIntoCustomerId = none) (mergeConflict sourceId (source.mergedIntoCustomerId.getD 0) "was already")
  ensure (target.status = .active ∧ target.deleted = false)
    (.domain .customerInactive s!"Target customer '{targetId}' must be ACTIVE to receive a merge" 409)
  let activeSourceHolds := (db.holds.rows.filter fun hold => hold.customerId = sourceId ∧ hold.state = .held).length
  ensure (db.NoHeld sourceId) (.domain .loyaltyStateConflict
    s!"Cannot merge source customer '{sourceId}' while {activeSourceHolds} loyalty hold(s) are active" 409)
  return (source, target)

/-- Whether a merge that is repeated under the locks finds itself done. -/
def LoyaltyDb.mergedAlready (db : LoyaltyDb) (dto : MergeCustomersDto) : Bool :=
  (db.customers.lookup dto.sourceCustomerId).any fun source =>
    source.mergedIntoCustomerId = some dto.targetCustomerId && (db.customers.lookup dto.targetCustomerId).isSome

def mergeCustomers (db : LoyaltyDb) (dto : MergeCustomersDto) : Except Failure LoyaltyDb := do
  ensure (dto.sourceCustomerId ≠ dto.targetCustomerId)
    (.domain .customerMergeConflict "Cannot merge a customer profile into itself" 409)
  match db.mergeOf dto with
  | some existing => do
    ensure (existing.targetCustomerId = dto.targetCustomerId)
      (mergeConflict dto.sourceCustomerId existing.targetCustomerId "has already been")
    return db
  | none =>
    if db.mergedAlready dto = true then return db
    else do
      let (source, target) ← db.mergeable dto.sourceCustomerId dto.targetCustomerId
      let (db, transferred) ← db.joinAccounts dto.sourceCustomerId dto.targetCustomerId dto.key
      db.recordMerge dto.sourceCustomerId dto.targetCustomerId dto.key source target transferred

inductive LoyaltyOperation where
  /-- What other parts of the service do: a profile is written, the settings change. -/
  | putCustomer (customerId : Uuid) (customer : CustomerEntity)
  | putSettings (settings : LoyaltySettingEntity)
  | adjustPoints (customerId : Uuid) (dto : ManualLoyaltyAdjustmentDto)
  | createHold (now : Int) (holdId : Uuid) (dto : CreateLoyaltyHoldDto)
  | commitHold (now : Int) (holdId : Uuid) (orderId : Option Uuid)
  | releaseHold (holdId : Uuid)
  | expireOverdueHolds (now : Int) (rows : List Uuid) (limit : Nat)
  | processCompletedSale (sale : CompletedSale)
  | processCompletedReturn (ret : CompletedReturn)
  | mergeCustomers (dto : MergeCustomersDto)

def performLoyalty (db : LoyaltyDb) : LoyaltyOperation → LoyaltyDb
  | .putCustomer customerId customer => { db with customers := db.customers.insert customerId customer }
  | .putSettings settings => { db with settings }
  | .adjustPoints customerId dto => commit db (adjustPoints db customerId dto)
  | .createHold now holdId dto => commit db (createHold db now holdId dto)
  | .commitHold now holdId orderId => commit db (commitHold db now holdId orderId)
  | .releaseHold holdId => commit db (releaseHold db holdId)
  | .expireOverdueHolds now rows limit => commit db (expireOverdueHolds db now rows limit)
  | .processCompletedSale sale => commit db (processCompletedSale db sale)
  | .processCompletedReturn ret => commit db ((processCompletedReturn db ret).map (·.1))
  | .mergeCustomers dto => commit db (mergeCustomers db dto)

def loyaltyAfter (operations : List LoyaltyOperation) : LoyaltyDb := operations.foldl performLoyalty {}

/-- `SUM(points_delta)` over the ledger of an account. -/
def LoyaltyDb.ledgerSum (db : LoyaltyDb) (customerId : Uuid) : Int :=
  Keyed.total LoyaltyTransactionEntity.customerId LoyaltyTransactionEntity.pointsDelta customerId db.transactions

/-- `SUM(points)` over the holds of an account that are HELD. -/
def LoyaltyDb.activeHoldsSum (db : LoyaltyDb) (customerId : Uuid) : Int :=
  db.holds.sumBy fun _ hold => if hold.customerId = customerId ∧ hold.state = .held then hold.points else 0

structure LoyaltyDiscrepancy where
  customerId : Uuid
  postedPointsBalance : Int
  ledgerSum : Int
  heldPoints : Int
  activeHoldsSum : Int

/-- The second transaction of `reconcileTenantLoyalty`, after its sweep. -/
def reconcileTenantLoyalty (db : LoyaltyDb) : List LoyaltyDiscrepancy :=
  (db.accounts.entries.map fun entry => {
    customerId := entry.1, postedPointsBalance := entry.2.postedPointsBalance, ledgerSum := db.ledgerSum entry.1
    heldPoints := entry.2.heldPoints, activeHoldsSum := db.activeHoldsSum entry.1 : LoyaltyDiscrepancy }).filter fun row =>
      row.postedPointsBalance ≠ row.ledgerSum ∨ row.heldPoints ≠ row.activeHoldsSum

end Customer
