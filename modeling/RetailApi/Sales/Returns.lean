import RetailApi.Sales.OrderRows

/-! Returns of sold goods. A return takes quantity and money off the lines of its order at once;
a rejected return gives both back. A refund request pays an approved return out. -/

namespace Sales

open Transaction JsString

inductive ReturnDisposition where
  | restock | damaged | quarantine | noPhysicalReturn
deriving DecidableEq

structure OriginalOrderLineSnapshot where
  orderItemId : Uuid
  variantId : Uuid
  skuCode : String
  productName : String
  soldQty : String
  alreadyReturnedQty : String
  unitPrice : Int
  lineNet : Int
  taxAmount : Int
  lineTotal : Int
  alreadyRefundedAmount : Int

structure ReturnLineRequest where
  orderItemId : Uuid
  returnQty : String
  disposition : ReturnDisposition
  reason : Option String

structure CalculatedReturnLine where
  orderItemId : Uuid
  variantId : Uuid
  skuCode : String
  productName : String
  returnQty : Int
  remainingReturnableAfter : Int
  unitRefundAmount : Int
  refundAmount : Int
  disposition : ReturnDisposition
  reason : Option String

structure CalculatedReturnResult where
  lines : List CalculatedReturnLine
  totalRefundAmount : Int
  isFullOrderReturn : Bool

/-- What is already back of a line; the column reads `0.000` when nothing is. -/
def OriginalOrderLineSnapshot.returnedMillis (orig : OriginalOrderLineSnapshot) : Except Failure Int :=
  if isPositiveNumber orig.alreadyReturnedQty then parseQtyMillis orig.alreadyReturnedQty else .ok 0

/-- `lineMap.get` -/
def lineOf (originalLines : List OriginalOrderLineSnapshot) (orderItemId : Uuid) : Option OriginalOrderLineSnapshot :=
  originalLines.find? (·.orderItemId = orderItemId)

/-- `lineMap.get(...)!`: reading a field of what is not there throws. -/
def lineAt (originalLines : List OriginalOrderLineSnapshot) (orderItemId : Uuid) :
    Except Failure OriginalOrderLineSnapshot :=
  required (lineOf originalLines orderItemId) (.thrown "Cannot read properties of undefined")

def addRequested (first second : Uuid × Int) : Uuid × Int := (first.1, first.2 + second.2)

/-- What a request asks back of each line, repeated lines added up. -/
def requestedMillisByItem (originalLines : List OriginalOrderLineSnapshot) (returnRequests : List ReturnLineRequest) :
    Except Failure (List (Uuid × Int)) :=
  returnRequests.foldlM (fun collected req => do
    let _ ← required (lineOf originalLines req.orderItemId) (.domain .returnNotEligible
      s!"Order item {req.orderItemId} does not belong to the original order" 409)
    let qtyMillis ← parseQtyMillis req.returnQty
    return Merge.insert Prod.fst addRequested (req.orderItemId, qtyMillis) collected) []

def assertReturnable (originalLines : List OriginalOrderLineSnapshot) (requested : Uuid × Int) :
    Except Failure Unit := do
  let orig ← lineAt originalLines requested.1
  let soldMillis ← parseQtyMillis orig.soldQty
  let returnedMillis ← orig.returnedMillis
  let asked := formatQtyMillis requested.2
  let left := formatQtyMillis (max 0 (soldMillis - returnedMillis))
  ensure (requested.2 ≤ soldMillis - returnedMillis) (.domain .returnQuantityExceeded
    s!"Return quantity ({asked}) exceeds remaining returnable quantity ({left}) for SKU {orig.skuCode}" 409)

/-- The loop state of `calculateReturnRefund`. -/
structure ReturnTally where
  cumulativeReturnedMillis : Table Uuid Int := ∅
  cumulativeRefundedVnd : Table Uuid Int := ∅
  totalRefundVnd : Int := 0
  lines : List CalculatedReturnLine := []

namespace ReturnTally

def returnedMillis (tally : ReturnTally) (orderItemId : Uuid) : Int :=
  (tally.cumulativeReturnedMillis.lookup orderItemId).getD 0

def refundedVnd (tally : ReturnTally) (orderItemId : Uuid) : Int :=
  (tally.cumulativeRefundedVnd.lookup orderItemId).getD 0

def enter (tally : ReturnTally) (orig : OriginalOrderLineSnapshot) : Except Failure ReturnTally := do
  let returnedMillis ← orig.returnedMillis
  let refundedVnd ← parseVndAmount orig.alreadyRefundedAmount
  return { tally with
    cumulativeReturnedMillis := tally.cumulativeReturnedMillis.insert orig.orderItemId returnedMillis
    cumulativeRefundedVnd := tally.cumulativeRefundedVnd.insert orig.orderItemId refundedVnd }

end ReturnTally

/-- The share of one return in the money of its line. The return that brings the last unit back takes
what is left, every other one its part rounded to whole VND and never more than what is left. -/
def refundShare (lineTotalVnd reqMillis soldMillis newReturnedMillis maxRemainingRefundVnd : Int) :
    Except Failure Int :=
  if newReturnedMillis = soldMillis then .ok maxRemainingRefundVnd
  else do
    let refundVnd ← roundDivHalfUp (lineTotalVnd * reqMillis) soldMillis
    return min refundVnd maxRemainingRefundVnd

def calculateReturnLine (originalLines : List OriginalOrderLineSnapshot) (tally : ReturnTally)
    (req : ReturnLineRequest) : Except Failure ReturnTally := do
  let orig ← lineAt originalLines req.orderItemId
  let soldMillis ← parseQtyMillis orig.soldQty
  let reqMillis ← parseQtyMillis req.returnQty
  let newReturnedMillis := tally.returnedMillis req.orderItemId + reqMillis
  let lineTotalVnd ← parseVndAmount orig.lineTotal
  let prevRefundedVnd := tally.refundedVnd req.orderItemId
  let refundVnd ← refundShare lineTotalVnd reqMillis soldMillis newReturnedMillis (lineTotalVnd - prevRefundedVnd)
  let unitRefundVnd ← roundDivHalfUp (refundVnd * 1000) reqMillis
  let unitRefundAmount ← vndNumber unitRefundVnd
  let refundAmount ← vndNumber refundVnd
  return {
    cumulativeReturnedMillis := tally.cumulativeReturnedMillis.insert req.orderItemId newReturnedMillis
    cumulativeRefundedVnd := tally.cumulativeRefundedVnd.insert req.orderItemId (prevRefundedVnd + refundVnd)
    totalRefundVnd := tally.totalRefundVnd + refundVnd
    lines := tally.lines ++ [{
      orderItemId := orig.orderItemId, variantId := orig.variantId, skuCode := orig.skuCode
      productName := orig.productName, returnQty := reqMillis
      remainingReturnableAfter := soldMillis - newReturnedMillis, unitRefundAmount, refundAmount
      disposition := req.disposition, reason := req.reason }] }

/-- `originalLines.every(...)`: it stops at the first line that is not wholly back. -/
def isFullOrderReturn (tally : ReturnTally) : List OriginalOrderLineSnapshot → Except Failure Bool
  | [] => .ok true
  | orig :: rest => do
    let soldMillis ← parseQtyMillis orig.soldQty
    if tally.returnedMillis orig.orderItemId = soldMillis then isFullOrderReturn tally rest else return false

def calculateReturnRefund (originalLines : List OriginalOrderLineSnapshot) (returnRequests : List ReturnLineRequest) :
    Except Failure CalculatedReturnResult := do
  ensure (returnRequests ≠ []) (.domain .validationError "Return request must include at least one item" 422)
  let requested ← requestedMillisByItem originalLines returnRequests
  let _ ← requested.mapM (assertReturnable originalLines)
  let start ← originalLines.foldlM ReturnTally.enter {}
  let tally ← returnRequests.foldlM (calculateReturnLine originalLines) start
  let full ← isFullOrderReturn tally originalLines
  let totalRefundAmount ← vndNumber tally.totalRefundVnd
  return { lines := tally.lines, totalRefundAmount, isFullOrderReturn := full }

inductive ReturnStatus where
  | requested | approved | rejected | received | refundRequested | completed
deriving DecidableEq

instance : ToString ReturnStatus where
  toString
    | .requested => "REQUESTED" | .approved => "APPROVED" | .rejected => "REJECTED" | .received => "RECEIVED"
    | .refundRequested => "REFUND_REQUESTED" | .completed => "COMPLETED"

structure SalesReturnEntity where
  code : String
  orderId : Uuid
  branchId : Uuid
  warehouseId : Option Uuid
  shiftId : Option Uuid
  status : ReturnStatus
  totalRefundAmount : Int
  inventoryReceiptId : Option Uuid
  note : Option String
  requestedBy : Uuid
  approvedBy : Option Uuid
  receivedBy : Option Uuid

structure SalesReturnItemEntity where
  returnId : Uuid
  orderItemId : Uuid
  variantId : Uuid
  skuCode : String
  productName : String
  returnQty : Int
  unitRefundAmount : Int
  refundAmount : Int
  disposition : ReturnDisposition
  reason : Option String

inductive RefundMethod where
  | cash | bankTransfer | card | eWallet
deriving DecidableEq

inductive RefundStatus where
  | pending | confirmed | rejected
deriving DecidableEq

instance : ToString RefundStatus where
  toString
    | .pending => "PENDING" | .confirmed => "CONFIRMED" | .rejected => "REJECTED"

structure RefundRequestEntity where
  id : Uuid
  returnId : Uuid
  orderId : Uuid
  branchId : Uuid
  shiftId : Option Uuid
  idempotencyKey : String
  amount : Int
  method : RefundMethod
  status : RefundStatus
  requestedBy : Uuid

inductive ReturnEvent where
  | returnCreated (returnId : Uuid) (code : String) (orderId branchId : Uuid) (status : ReturnStatus) (total : Int)
  | returnApproved (returnId : Uuid) (code : String) (orderId branchId : Uuid) (total : Int)
  | returnCompleted (returnId : Uuid) (code : String) (orderId branchId : Uuid) (customerId : Option Uuid) (total : Int)
  | refundRequested (refundRequestId returnId orderId branchId : Uuid) (amount : Int) (method : RefundMethod)
      (status : RefundStatus)

/-- The tables of one tenant that its returns read and write. -/
structure ReturnsDb where
  orders : Table Uuid OrderEntity := ∅
  orderItems : Table Uuid OrderItemEntity := ∅
  returns : Table Uuid SalesReturnEntity := ∅
  returnItems : List SalesReturnItemEntity := []
  refundRequests : List RefundRequestEntity := []
  statusHistory : List OrderStatusHistoryEntity := []
  cash : CashStore := {}
  outbox : List ReturnEvent := []

namespace ReturnsDb

def itemsOf (db : ReturnsDb) (orderId : Uuid) : List (Uuid × OrderItemEntity) :=
  ((db.orderItems.entries.map fun entry => (entry.1, entry.2)).filter fun entry => entry.2.orderId = orderId).insertionSort
    fun first second => first.1 ≤ second.1

/-- An `UPDATE` of an order line, under `CHK_order_items_returned_non_negative`. -/
def updateItem (db : ReturnsDb) (orderItemId : Uuid) (change : OrderItemEntity → OrderItemEntity) :
    Except Failure ReturnsDb :=
  match db.orderItems.lookup orderItemId with
  | none => .ok db
  | some item => do
    ensure (0 ≤ (change item).returnedQty ∧ 0 ≤ (change item).refundedAmount)
      (.database "CHK_order_items_returned_non_negative")
    return { db with orderItems := db.orderItems.insert orderItemId (change item) }

/-- A return locked for update, hidden outside the caller's branches. -/
def lockReturn (db : ReturnsDb) (returnId : Uuid) (scope : BranchScope) : Except Failure SalesReturnEntity := do
  let ret ← required (db.returns.lookup returnId) (.domain .returnNotFound s!"Return {returnId} not found" 404)
  ensure (branchAllowed scope ret.branchId = true) (.domain .returnNotFound s!"Return {returnId} not found" 404)
  return ret

def linesOf (db : ReturnsDb) (returnId : Uuid) : List SalesReturnItemEntity :=
  db.returnItems.filter (·.returnId = returnId)

end ReturnsDb

/-- The row of a line as `createReturn` reads it: money fails loudly, quantities come as texts. -/
def snapshotOf (entry : Uuid × OrderItemEntity) : Except Failure OriginalOrderLineSnapshot := do
  let lineTotal ← toMoney (some entry.2.lineTotal)
  let unitPrice ← toMoney (some entry.2.unitPrice)
  let lineNet ← toMoney (some entry.2.lineNet)
  let taxAmount ← toMoney (some entry.2.taxAmount)
  let alreadyRefundedAmount ← toMoney (some entry.2.refundedAmount)
  return {
    orderItemId := entry.1, variantId := entry.2.variantId.getD entry.1, skuCode := entry.2.sku
    productName := entry.2.name, soldQty := formatQtyMillis entry.2.qty
    alreadyReturnedQty := formatQtyMillis entry.2.returnedQty, unitPrice, lineNet, taxAmount, lineTotal
    alreadyRefundedAmount }

end Sales
