import RetailApi.Sales.Returns

/-! The requests of the returns service, each one transaction, and the runs they make up. -/

namespace Sales

open Transaction JsString Sales

structure CreateReturnItemDto where
  orderItemId : Uuid
  /-- `String(returnQty)` of the number in the request. -/
  returnQty : String
  disposition : Option ReturnDisposition := none
  reason : Option String := none

structure CreateReturnDto where
  orderId : Uuid
  items : List CreateReturnItemDto
  note : Option String := none
  autoApprove : Bool := false
  autoReceive : Bool := false

structure CreateRefundRequestDto where
  idempotencyKey : Option String := none
  amount : Option Int := none
  method : Option RefundMethod := none

structure RestockLine where
  variantId : Uuid
  qty : Int
  unitCost : Int

/-- What `receiveReturnedStock` sends to inventory. -/
structure RestockRequest where
  warehouseId : Uuid
  returnId : Uuid
  code : String
  idempotencyKey : String
  items : List RestockLine

/-- Inventory's answer to a restock: the receipt it posted, or the failure the client raises. -/
abbrev RestockAnswer := RestockRequest → Except Failure Uuid

def ReturnsDb.takeLine (db : ReturnsDb) (line : CalculatedReturnLine) : Except Failure ReturnsDb :=
  db.updateItem line.orderItemId fun item => { item with
    returnedQty := item.returnedQty + line.returnQty, refundedAmount := item.refundedAmount + line.refundAmount }

def CalculatedReturnLine.entity (returnId : Uuid) (line : CalculatedReturnLine) : SalesReturnItemEntity where
  returnId := returnId
  orderItemId := line.orderItemId
  variantId := line.variantId
  skuCode := line.skuCode
  productName := line.productName
  returnQty := line.returnQty
  unitRefundAmount := line.unitRefundAmount
  refundAmount := line.refundAmount
  disposition := line.disposition
  reason := line.reason

def OrderEntity.returnable (order : OrderEntity) : Prop :=
  order.orderStatus = .completed ∨ order.fulfillmentStatus = .fulfilled ∨ order.fulfillmentStatus = .partiallyFulfilled
    ∨ order.fulfillmentStatus = .returned

instance (order : OrderEntity) : Decidable order.returnable := inferInstanceAs (Decidable (_ ∨ _))

/-- The lines of an order as the refund of a return is calculated from them. -/
def ReturnsDb.snapshotsOf (db : ReturnsDb) (orderId : Uuid) : Except Failure (List OriginalOrderLineSnapshot) :=
  (db.itemsOf orderId).mapM snapshotOf

/-- The row of a new return, approved when the request says so. -/
def newReturn (code : String) (actorId : Uuid) (order : OrderEntity) (dto : CreateReturnDto) (total : Int) :
    SalesReturnEntity where
  code := code
  orderId := dto.orderId
  branchId := order.branchId
  warehouseId := order.warehouseId
  shiftId := order.shiftId
  status := if dto.autoApprove || dto.autoReceive then .approved else .requested
  totalRefundAmount := total
  inventoryReceiptId := none
  note := dto.note
  requestedBy := actorId
  approvedBy := if dto.autoApprove || dto.autoReceive then some actorId else none
  receivedBy := none

def ReturnsDb.insertReturn (db : ReturnsDb) (returnId : Uuid) (code : String) (actorId : Uuid) (order : OrderEntity)
    (dto : CreateReturnDto) (calculated : CalculatedReturnResult) : Except Failure ReturnsDb := do
  let total := calculated.totalRefundAmount
  let ret := newReturn code actorId order dto total
  let items : List SalesReturnItemEntity := calculated.lines.map (·.entity returnId)
  ensure (db.returns.lookup returnId = none) (.database "PK_sales_returns_id")
  ensure (0 ≤ total) (.database "CHK_sales_returns_amount")
  ensure (∀ item ∈ items, 0 < item.returnQty ∧ 0 ≤ item.refundAmount) (.database "CHK_sales_return_items_qty")
  return { db with
    returns := db.returns.insert returnId ret
    returnItems := db.returnItems ++ items
    outbox := db.outbox ++ .returnCreated returnId code dto.orderId order.branchId ret.status total ::
      if ret.status = .approved then [.returnApproved returnId code dto.orderId order.branchId total] else [] }

/-- The transaction of `createReturn`, under a fresh return id and document code. -/
def createReturnRow (db : ReturnsDb) (returnId : Uuid) (code : String) (actorId : Uuid) (scope : BranchScope)
    (dto : CreateReturnDto) : Except Failure ReturnsDb := do
  let order ← required (db.orders.lookup dto.orderId) (.domain .orderNotFound s!"Order {dto.orderId} not found" 404)
  ensure (branchAllowed scope order.branchId = true) (.domain .orderNotFound s!"Order {dto.orderId} not found" 404)
  ensure order.returnable (.domain .returnNotEligible
    s!"Order {order.code} with status {order.orderStatus}/{order.fulfillmentStatus} is not eligible for return" 409)
  let originalSnapshots ← db.snapshotsOf dto.orderId
  let calculated ← calculateReturnRefund originalSnapshots <| dto.items.map fun item => {
    orderItemId := item.orderItemId, returnQty := item.returnQty
    disposition := item.disposition.getD .restock, reason := item.reason }
  let db ← calculated.lines.foldlM ReturnsDb.takeLine db
  db.insertReturn returnId code actorId order dto calculated

def approveReturn (db : ReturnsDb) (returnId actorId : Uuid) (scope : BranchScope) : Except Failure ReturnsDb := do
  let ret ← db.lockReturn returnId scope
  if ret.status = .approved ∨ ret.status = .completed then return db
  else do
    ensure (ret.status = .requested) (.domain .returnNotEligible s!"Cannot approve return in status {ret.status}" 409)
    return { db with
      returns := db.returns.insert returnId { ret with status := .approved, approvedBy := some actorId }
      outbox := db.outbox ++ [.returnApproved returnId ret.code ret.orderId ret.branchId ret.totalRefundAmount] }

/-- Gives a line back to its order, with `floor` for what the counters may not fall below. -/
def ReturnsDb.giveBack (floor : Int → Int) (db : ReturnsDb) (line : SalesReturnItemEntity) : Except Failure ReturnsDb :=
  db.updateItem line.orderItemId fun item => { item with
    returnedQty := floor (item.returnedQty - line.returnQty)
    refundedAmount := floor (item.refundedAmount - line.refundAmount) }

def rejectReturnWith (floor : Int → Int) (db : ReturnsDb) (returnId : Uuid) (scope : BranchScope)
    (reason : Option String) : Except Failure ReturnsDb := do
  let ret ← db.lockReturn returnId scope
  if ret.status = .rejected then return db
  else do
    ensure (ret.status ≠ .completed ∧ ret.status ≠ .received)
      (.domain .returnNotEligible s!"Cannot reject return in status {ret.status}" 409)
    let db ← (db.linesOf returnId).foldlM (ReturnsDb.giveBack floor) db
    let note := match reason, ret.note with
      | some reason, some note => if reason = "" then ret.note else if note = "" then reason else s!"{note} | {reason}"
      | some reason, none => if reason = "" then none else reason
      | none, note => note
    return { db with returns := db.returns.insert returnId { ret with status := .rejected, note } }

/-- `GREATEST(0, ...)` on both counters of each line. -/
def rejectReturn (db : ReturnsDb) (returnId : Uuid) (scope : BranchScope) (reason : Option String) :
    Except Failure ReturnsDb :=
  rejectReturnWith (max 0) db returnId scope reason

/-- `costByItem.get(...) ?? 0` over the lines of the order. -/
def costByItem (items : List (Uuid × OrderItemEntity)) : Except Failure (List (Uuid × Int)) :=
  items.mapM fun entry => do
    let cost ← toMoney (some entry.2.unitCostSnapshot)
    return (entry.1, cost)

def restock (db : ReturnsDb) (answer : RestockAnswer) (returnId : Uuid) (ret : SalesReturnEntity)
    (warehouseId : Option Uuid) : Except Failure (Option Uuid) :=
  let restockLines := (db.linesOf returnId).filter (·.disposition = .restock)
  if restockLines = [] ∨ ret.inventoryReceiptId.isSome then .ok ret.inventoryReceiptId
  else do
    let warehouseId ← required warehouseId (.domain .returnWarehouseUnresolved (s!"Return {ret.code} cannot be restocked: "
      ++ "the original sale has no warehouse. It stays approved until it is resolved") 409)
    let costs ← costByItem (db.itemsOf ret.orderId)
    let receiptId ← answer {
      warehouseId, returnId, code := "PN-" ++ ret.code, idempotencyKey := s!"return-receipt:{returnId}"
      items := restockLines.map fun line => {
        variantId := line.variantId, qty := line.returnQty
        unitCost := ((costs.find? (·.1 = line.orderItemId)).map (·.2)).getD 0 } }
    return some receiptId

/-- `orderItems.every(...)`: whether every line of the order is back. -/
def allReturned : List (Uuid × OrderItemEntity) → Except Failure Bool
  | [] => .ok true
  | entry :: rest => do
    let soldMillis ← parseQtyMillis (formatQtyMillis entry.2.qty)
    let returned := formatQtyMillis entry.2.returnedQty
    let retMillis ← if isPositiveNumber returned then parseQtyMillis returned else .ok 0
    if soldMillis ≤ retMillis then allReturned rest else return false

def ReturnsDb.markReturned (db : ReturnsDb) (orderId : Uuid) : ReturnsDb :=
  match db.orders.lookup orderId with
  | none => db
  | some order => { db with
      orders := db.orders.insert orderId { order with fulfillmentStatus := .returned, version := order.version + 1 } }

def SalesReturnEntity.complete (ret : SalesReturnEntity) (warehouseId : Option Uuid) (actorId : Uuid)
    (inventoryReceiptId : Option Uuid) : SalesReturnEntity :=
  { ret with
    warehouseId, status := .completed, receivedBy := some actorId, approvedBy := ret.approvedBy <|> some actorId
    inventoryReceiptId }

def receiveReturn (db : ReturnsDb) (returnId actorId : Uuid) (scope : BranchScope) (answer : RestockAnswer) :
    Except Failure ReturnsDb := do
  let ret ← db.lockReturn returnId scope
  if ret.status = .completed ∨ ret.status = .received then return db
  else do
    ensure (ret.status ≠ .rejected) (.domain .returnNotEligible "Cannot receive a REJECTED return" 409)
    ensure (ret.status ≠ .requested)
      (.domain .returnNotEligible "A return must be approved before it is received" 409)
    let order := db.orders.lookup ret.orderId
    let warehouseId := order.bind (·.warehouseId)
    let inventoryReceiptId ← restock db answer returnId ret warehouseId
    let db := { db with returns := db.returns.insert returnId (ret.complete warehouseId actorId inventoryReceiptId) }
    let returned ← allReturned (db.itemsOf ret.orderId)
    let db := if returned then db.markReturned ret.orderId else db
    return { db with outbox := db.outbox ++
      [.returnCompleted returnId ret.code ret.orderId ret.branchId (order.bind (·.customerId)) ret.totalRefundAmount] }

def Failure.isWarehouseUnresolved : Failure → Bool
  | .domain .returnWarehouseUnresolved _ _ => true
  | _ => false

/-- `createReturn` with the receipt it may ask for right away, in a transaction of its own. A return that
was created stays, whatever becomes of the receipt. -/
def createReturn (db : ReturnsDb) (returnId : Uuid) (code : String) (actorId : Uuid) (scope : BranchScope)
    (dto : CreateReturnDto) (answer : RestockAnswer) : ReturnsDb × Except Failure Unit :=
  match createReturnRow db returnId code actorId scope dto with
  | .error failure => (db, .error failure)
  | .ok created =>
    if dto.autoReceive then
      match receiveReturn created returnId actorId scope answer with
      | .ok received => (received, .ok ())
      | .error failure => (created, if failure.isWarehouseUnresolved then .ok () else .error failure)
    else (created, .ok ())

/-- The caller's open shift at a branch; `latest` is the one opened last. -/
def findCallersOpenShift (cash : CashStore) (staffId branchId : Uuid) (latest : Uuid) : Except Failure Uuid := do
  let mine := cash.shifts.entries.filter fun entry =>
    entry.2.1.staffId = staffId ∧ entry.2.1.branchId = branchId ∧ entry.2.1.status = .open
  let shift ← required (mine.find? (·.1 = latest) <|> mine.head?)
    (.domain .shiftRequired "Cash leaves the current drawer: open a shift at this branch first" 409)
  return shift.1

def refundShift (cash : CashStore) (method : RefundMethod) (actorId branchId latest : Uuid) :
    Except Failure (Option Uuid) :=
  match method with
  | .cash => some <$> findCallersOpenShift cash actorId branchId latest
  | _ => .ok none

def recordRefund (cash : CashStore) (entryId actorId : Uuid) (request : RefundRequestEntity) : Except Failure CashStore :=
  match request.shiftId with
  | some shiftId =>
    if 0 < request.amount then do
      let recorded ← recordCashEntry cash entryId
        ((CashMovement.returnRefund request.orderId request.returnId request.id request.amount).entry shiftId actorId) false
      return recorded.1
    else .ok cash
  | none => .ok cash

def refundKey (returnId : Uuid) (headerIdempotencyKey : Option String) (dto : CreateRefundRequestDto) : String :=
  toLowerCase (trimmed ((headerIdempotencyKey <|> dto.idempotencyKey).getD s!"refund:{returnId}"))

def refundAmountOf (dto : CreateRefundRequestDto) (maxReturnRefundVnd : Int) : Except Failure Int :=
  match dto.amount with
  | some amount => parseVndAmount amount false
  | none => .ok maxReturnRefundVnd

/-- What a refund may still take: of its return, of which it must be the first, and of what the order was paid. -/
def assertRefundable (db : ReturnsDb) (returnId : Uuid) (ret : SalesReturnEntity) (order : OrderEntity)
    (requestedVnd : Int) : Except Failure Unit := do
  let existing := db.refundRequests.filter (·.returnId = returnId)
  let amounts ← existing.mapM fun request => parseVndAmount request.amount
  let already := amounts.sum
  let left := ret.totalRefundAmount - already
  ensure (already + requestedVnd ≤ ret.totalRefundAmount) (.domain .refundAmountExceeded
    s!"Refund request ({requestedVnd}) exceeds remaining refundable amount ({left}) for return {ret.code}" 409)
  ensure (existing = []) (.domain .refundAlreadyRequested s!"Return {ret.code} already has a refund request" 409)
  let orderPaidVnd ← parseVndAmount order.paidAmount
  let orderRefundedVnd ← parseVndAmount order.refundedAmount
  let total := orderRefundedVnd + requestedVnd
  ensure (total ≤ orderPaidVnd) (.domain .refundAmountExceeded
    s!"Total order refunds ({total}) cannot exceed order paid amount ({orderPaidVnd})" 409)

/-- `createRefundRequest`, under the fresh ids of the request and of its cash entry. -/
def createRefundRequest (db : ReturnsDb) (requestId entryId returnId actorId : Uuid) (scope : BranchScope)
    (headerIdempotencyKey : Option String) (dto : CreateRefundRequestDto) (latestShift : Uuid) :
    Except Failure ReturnsDb := do
  let idempotencyKey := refundKey returnId headerIdempotencyKey dto
  let ret ← db.lockReturn returnId scope
  match db.refundRequests.find? (·.idempotencyKey = idempotencyKey) with
  | some existing =>
    ensure (existing.returnId = returnId)
      (.domain .idempotencyConflict "Idempotency-Key was already used for another return" 409)
    return db
  | none =>
    ensure (ret.status ∈ [.approved, .received, .refundRequested, .completed]) (.domain .returnNotEligible
      s!"Cannot request a refund for a {ret.status} return: it must be approved first" 409)
    let order ← required (db.orders.lookup ret.orderId) (.domain .orderNotFound s!"Order {ret.orderId} not found" 404)
    let maxReturnRefundVnd ← parseVndAmount ret.totalRefundAmount
    let requestedVnd ← refundAmountOf dto maxReturnRefundVnd
    assertRefundable db returnId ret order requestedVnd
    let method := dto.method.getD .cash
    let shiftId ← refundShift db.cash method actorId ret.branchId latestShift
    let status : RefundStatus := if method = .cash then .confirmed else .pending
    let amount ← vndNumber requestedVnd
    let refundedAmount ← vndNumber (order.refundedAmount + requestedVnd)
    let request : RefundRequestEntity := {
      id := requestId, returnId, orderId := ret.orderId, branchId := ret.branchId, shiftId, idempotencyKey, amount, method
      status, requestedBy := actorId }
    ensure (∀ other ∈ db.refundRequests, other.id ≠ requestId) (.database "PK_refund_requests_id")
    let paymentStatus : OrderPaymentStatus :=
      if status = .pending then .refundPending
      else if order.paidAmount ≤ refundedAmount then .refunded else .partiallyRefunded
    let cash ← recordRefund db.cash entryId actorId request
    return { db with
      refundRequests := db.refundRequests ++ [request]
      orders := db.orders.insert ret.orderId { order with refundedAmount, paymentStatus, version := order.version + 1 }
      statusHistory := db.statusHistory ++ [{
        orderId := ret.orderId, fromOrderStatus := order.orderStatus, toOrderStatus := order.orderStatus
        fromPaymentStatus := order.paymentStatus, toPaymentStatus := paymentStatus
        fromFulfillmentStatus := order.fulfillmentStatus, toFulfillmentStatus := order.fulfillmentStatus
        reason := s!"REFUND_{status}:{ret.code}", actorId }]
      cash
      outbox := db.outbox ++ [.refundRequested requestId returnId ret.orderId ret.branchId amount method status] }

/-- A line as pricing leaves it on an order: a positive quantity, and a total that is not negative. -/
structure SoldLine where
  variantId : Option Uuid
  sku : String
  name : String
  qty : Int
  baseQty : Int
  unitPrice : Int
  lineNet : Int
  taxAmount : Int
  lineTotal : Int
  unitCostSnapshot : Int
  sold : 0 < qty
  priced : 0 ≤ lineTotal

def SoldLine.entity (line : SoldLine) (orderId : Uuid) : OrderItemEntity where
  orderId := orderId
  variantId := line.variantId
  sku := line.sku
  name := line.name
  qty := line.qty
  baseQty := line.baseQty
  unitPrice := line.unitPrice
  lineNet := line.lineNet
  taxAmount := line.taxAmount
  lineTotal := line.lineTotal
  unitCostSnapshot := line.unitCostSnapshot

/-- Writes a new line of an order, untouched by any return. -/
def ReturnsDb.insertLine (orderId : Uuid) (db : ReturnsDb) (entry : Uuid × SoldLine) : Except Failure ReturnsDb := do
  ensure (db.orderItems.lookup entry.1 = none) (.database "PK_order_items_id")
  return { db with orderItems := db.orderItems.insert entry.1 (entry.2.entity orderId) }

def placeOrder (db : ReturnsDb) (orderId : Uuid) (order : OrderEntity) (lines : List (Uuid × SoldLine)) :
    Except Failure ReturnsDb := do
  ensure (db.orders.lookup orderId = none) (.database "PK_orders_id")
  lines.foldlM (ReturnsDb.insertLine orderId) { db with orders := db.orders.insert orderId order }

inductive ReturnOperation where
  /-- What other parts of the service do: an order is sold, its row moves, a shift changes. -/
  | placeOrder (orderId : Uuid) (order : OrderEntity) (lines : List (Uuid × SoldLine))
  | changeOrder (orderId : Uuid) (order : OrderEntity)
  | shift (operation : ShiftOperation)
  | createReturn (returnId : Uuid) (code : String) (actorId : Uuid) (scope : BranchScope) (dto : CreateReturnDto)
      (answer : RestockAnswer)
  | approveReturn (returnId actorId : Uuid) (scope : BranchScope)
  | rejectReturn (returnId : Uuid) (scope : BranchScope) (reason : Option String)
  | receiveReturn (returnId actorId : Uuid) (scope : BranchScope) (answer : RestockAnswer)
  | createRefundRequest (requestId entryId returnId actorId : Uuid) (scope : BranchScope)
      (headerIdempotencyKey : Option String) (dto : CreateRefundRequestDto) (latestShift : Uuid)

def performReturn (db : ReturnsDb) : ReturnOperation → ReturnsDb
  | .placeOrder orderId order lines => commit db (placeOrder db orderId order lines)
  | .changeOrder orderId order => { db with orders := db.orders.insert orderId order }
  | .shift operation => { db with cash := performShift db.cash operation }
  | .createReturn returnId code actorId scope dto answer =>
    (createReturn db returnId code actorId scope dto answer).1
  | .approveReturn returnId actorId scope => commit db (approveReturn db returnId actorId scope)
  | .rejectReturn returnId scope reason => commit db (rejectReturn db returnId scope reason)
  | .receiveReturn returnId actorId scope answer => commit db (receiveReturn db returnId actorId scope answer)
  | .createRefundRequest requestId entryId returnId actorId scope key dto latestShift =>
    commit db (createRefundRequest db requestId entryId returnId actorId scope key dto latestShift)

def returnsAfter (operations : List ReturnOperation) : ReturnsDb :=
  operations.foldl performReturn {}

end Sales
