import RetailApi.Base.JsFraction
import RetailApi.Base.JsNumber
import RetailApi.Base.Merge
import RetailApi.Sales.Shifts
import RetailApi.Sales.Tenders

/-! The rows of one POS checkout: the workflow that remembers how far the saga came, and what
its last step writes, the order with its tenders, cash entry and events. Every transaction
on them is all or nothing. -/

namespace Sales

open Transaction JsString

inductive CheckoutWorkflowState where
  | pendingStock | reserving | reservingStock | stockReserved | awaitingPayment | committingStock | finalizing
  | confirmed | completed | recoveryPending | requiresReconciliation | rejected | cancelled
deriving DecidableEq

instance : ToString CheckoutWorkflowState where
  toString
    | .pendingStock => "PENDING_STOCK" | .reserving => "RESERVING" | .reservingStock => "RESERVING_STOCK"
    | .stockReserved => "STOCK_RESERVED" | .awaitingPayment => "AWAITING_PAYMENT"
    | .committingStock => "COMMITTING_STOCK" | .finalizing => "FINALIZING" | .confirmed => "CONFIRMED"
    | .completed => "COMPLETED" | .recoveryPending => "RECOVERY_PENDING"
    | .requiresReconciliation => "REQUIRES_RECONCILIATION" | .rejected => "REJECTED" | .cancelled => "CANCELLED"

namespace CheckoutWorkflowState

def isFinished : CheckoutWorkflowState → Bool
  | .confirmed | .completed => true
  | _ => false

def isAborted : CheckoutWorkflowState → Bool
  | .cancelled | .rejected => true
  | _ => false

/-- The states that keep a shift from being counted or closed. -/
def isPending : CheckoutWorkflowState → Bool
  | .pendingStock | .reserving | .reservingStock | .stockReserved | .committingStock | .finalizing
  | .recoveryPending => true
  | _ => false

def isStuck : CheckoutWorkflowState → Bool
  | .reservingStock | .stockReserved | .committingStock | .finalizing | .recoveryPending => true
  | _ => false

end CheckoutWorkflowState

inductive DiscountType where
  | none | percent | fixed
deriving DecidableEq

structure CalculatedOrderLine where
  variantId : Uuid
  productId : Uuid
  skuCode : String
  productName : String
  qty : Int
  baseQty : Int
  unitPrice : Int
  lineGross : Int
  itemDiscountAmount : Int
  allocatedOrderDiscount : Int
  lineNet : Int
  taxAmount : Int
  lineTotal : Int
  unitCostSnapshot : Int

structure CalculatedOrderQuote where
  lines : List CalculatedOrderLine
  subtotal : Int
  itemDiscountTotal : Int
  orderDiscountTotal : Int
  promotionDiscountTotal : Int
  shippingFee : Int
  taxTotal : Int
  grandTotal : Int
  couponCode : Option String

/-- `PersistedQuoteJson`: the priced order and what the saga knows of its remote holds. -/
structure PersistedQuote extends CalculatedOrderQuote where
  redeemLoyaltyPoints : Int := 0
  loyaltyHoldId : Option Uuid := none
  loyaltyCommitted : Bool := false
  creditAuthId : Option Uuid := none
  creditAmount : Option Int := none
  creditCommitted : Bool := false

/-- The ids a checkout derives from its tenant and idempotency key. -/
structure CheckoutIds where
  idempotencyKey : String
  checkoutId : Uuid
  orderId : Uuid

structure PayloadLine where
  variantId : Option Uuid
  skuCode : Option String
  qty : Int
  expectedUnitPrice : Option Int
  discountType : DiscountType
  discountValue : Int
deriving DecidableEq

structure PayloadTender where
  method : TenderMethod
  amount : Int
  tenderedCash : Option Int
  status : Option TenderStatus
  verified : Option Bool
  externalRef : Option String
deriving DecidableEq

/-- The canonical payload that `hashPosCheckoutPayload` digests, in place of its digest. -/
structure CheckoutPayload where
  branchId : Uuid
  warehouseId : Option Uuid
  shiftId : Option Uuid
  customerId : Option Uuid
  orderDiscountType : DiscountType
  orderDiscountValue : Int
  couponCode : Option String
  redeemLoyaltyPoints : Int
  shippingFee : Int
  paymentMethod : Option TenderMethod
  tenderedCash : Option Int
  lines : List PayloadLine
  tenders : List PayloadTender
deriving DecidableEq

structure CheckoutWorkflow where
  id : Uuid
  idempotencyKey : String
  requestSha256 : CheckoutPayload
  branchId : Uuid
  warehouseId : Uuid
  paymentMethod : String
  customerName : String
  state : CheckoutWorkflowState
  reservationId : Option Uuid
  orderId : Option Uuid
  lastError : Option String
  shiftId : Option Uuid
  draftId : Option Uuid
  customerId : Option Uuid
  quoteJson : PersistedQuote
  tendersJson : ValidatedTenderSummary
  commitConfirmed : Bool
  retryCount : Nat
  createdBy : Uuid

structure OrderItem where
  line : CalculatedOrderLine
  quantity : Int

structure Order where
  id : Uuid
  code : Nat
  idempotencyKey : Uuid
  requestHash : CheckoutPayload
  branchId : Uuid
  warehouseId : Uuid
  shiftId : Option Uuid
  customerId : Option Uuid
  customerName : String
  paymentStatus : OrderPaymentStatus
  paymentMethod : String
  subtotal : Int
  itemDiscountTotal : Int
  orderDiscountTotal : Int
  promotionDiscountTotal : Int
  couponCode : Option String
  shippingFee : Int
  taxTotal : Int
  grandTotal : Int
  paidAmount : Int
  itemCount : Int
  reservationId : Uuid
  createdBy : Uuid
  items : List OrderItem

structure OrderTender where
  orderId : Uuid
  checkoutId : Uuid
  shiftId : Option Uuid
  /-- `${wf.id}:tender:${idx + 1}` -/
  idempotencyKey : Uuid × Nat
  line : ValidatedTenderLine
  confirmedBy : Option Uuid

inductive SalesEvent where
  | orderCompleted (orderId : Uuid) (code : Nat) (grandTotal : Int) (itemCount : Int) (costAmount : Option Int)
  | checkoutCompleted (orderId : Uuid) (code : Nat) (grandTotal : Int) (paymentStatus : OrderPaymentStatus)
  | tenderRecorded (orderId checkoutId : Uuid) (totalConfirmed totalCashSales totalChangeDue : Int)
  | paymentConfirmed (orderId checkoutId : Uuid) (amount : Int)
  | checkoutReconciliationRequired (checkoutId : Uuid) (retryCount : Nat) (reason : String)

/-- The tables of one tenant that its checkouts read and write. -/
structure SalesDb where
  cash : CashStore := {}
  workflows : List CheckoutWorkflow := []
  orders : List Order := []
  tenders : List OrderTender := []
  /-- The coupon and order of each row of `coupon_usages`. -/
  couponUsages : List (String × Uuid) := []
  convertedDrafts : List Uuid := []
  lastOrderCode : Nat := 0
  outbox : List SalesEvent := []

namespace SalesDb

def findWorkflow (db : SalesDb) (checkoutId : Uuid) : Option CheckoutWorkflow :=
  db.workflows.find? (·.id = checkoutId)

def findOrder (db : SalesDb) (orderId : Uuid) : Option Order := db.orders.find? (·.id = orderId)

/-- `em.save` of an entity that carries its id: an update of that row, or an insert. -/
def saveWorkflow (db : SalesDb) (row : CheckoutWorkflow) : Except Failure SalesDb :=
  if ∃ other ∈ db.workflows, other.id = row.id then
    .ok { db with workflows := db.workflows.map fun other => if other.id = row.id then row else other }
  else if ∃ other ∈ db.workflows, other.idempotencyKey = row.idempotencyKey then
    .error (.database "UQ_checkout_workflow_tenant_idempotency")
  else .ok { db with workflows := db.workflows ++ [row] }

/-- An `UPDATE` by id; a missing row is no row. -/
def updateWorkflow (db : SalesDb) (checkoutId : Uuid) (change : CheckoutWorkflow → CheckoutWorkflow) : SalesDb :=
  { db with workflows := db.workflows.map fun row => if row.id = checkoutId then change row else row }

/-- One usage per coupon and order; whether the coupon may be used is for the coupon rules to say. -/
def redeemCoupon (db : SalesDb) (couponCode : String) (orderId : Uuid) (accepted : Bool) : Except Failure SalesDb :=
  if (couponCode, orderId) ∈ db.couponUsages then .ok db
  else do
    ensure (accepted = true) (.domain .couponInvalid s!"Coupon {couponCode} is invalid or inactive" 409)
    return { db with couponUsages := db.couponUsages ++ [(couponCode, orderId)] }

def claimCoupon (db : SalesDb) (couponCode : Option String) (orderId : Uuid) (accepted : Bool) :
    Except Failure SalesDb :=
  match couponCode with
  | some coupon => db.redeemCoupon coupon orderId accepted
  | none => .ok db

def releaseCouponClaim (db : SalesDb) (orderId : Uuid) : SalesDb :=
  { db with couponUsages := db.couponUsages.filter (·.2 ≠ orderId) }

/-- The shift of a new checkout, with the workflow row already written. -/
def assertShiftOpen (db : SalesDb) (shiftId : Option Uuid) : Except Failure Unit :=
  match shiftId with
  | some shiftId => ensure ((db.cash.shift shiftId).any (·.status = .open))
      (.domain .shiftNotOpen s!"POS shift {shiftId} is not OPEN" 409)
  | none => .ok ()

end SalesDb

def validateBranchAndShift (db : SalesDb) (branchId : Uuid) (shiftId : Option Uuid) : Except Failure Unit := do
  ensure (db.cash.branches.lookup branchId = some true)
    (.domain .unknownBranch s!"Branch {branchId} does not exist or is not active" 400)
  let shiftId ← required shiftId
    (.domain .shiftRequired "A POS sale needs a shift: pick one from GET /pos/shifts/available" 400)
  let shift ← required (db.cash.shift shiftId) (.domain .shiftNotFound s!"POS shift {shiftId} not found" 404)
  ensure (shift.branchId = branchId)
    (.domain .shiftNotOpen s!"POS shift {shiftId} does not belong to branch {branchId}" 409)
  ensure (shift.status = .open)
    (.domain .shiftNotOpen s!"POS shift {shiftId} is {shift.status} and cannot accept sales" 409)

/-- Step 2 of a checkout: the coupon is claimed and the workflow row written, while its shift is OPEN. -/
def createWorkflow (ids : CheckoutIds) (db : SalesDb) (row : CheckoutWorkflow) (couponAccepted : Bool) :
    Except Failure SalesDb := do
  let db ← db.claimCoupon row.quoteJson.couponCode ids.orderId couponAccepted
  let db ← db.saveWorkflow row
  db.assertShiftOpen row.shiftId
  return db

/-- The columns `updateWorkflowState` patches; an outer `none` leaves a column alone. -/
structure WorkflowPatch where
  state : Option CheckoutWorkflowState := none
  reservationId : Option Uuid := none
  quoteJson : Option PersistedQuote := none
  tendersJson : Option ValidatedTenderSummary := none
  commitConfirmed : Option Bool := none
  retryCount : Option Nat := none
  lastError : Option (Option String) := none

def WorkflowPatch.apply (patch : WorkflowPatch) (row : CheckoutWorkflow) : CheckoutWorkflow :=
  { row with
    state := patch.state.getD row.state
    reservationId := patch.reservationId <|> row.reservationId
    quoteJson := patch.quoteJson.getD row.quoteJson
    tendersJson := patch.tendersJson.getD row.tendersJson
    commitConfirmed := patch.commitConfirmed.getD row.commitConfirmed
    retryCount := patch.retryCount.getD row.retryCount
    lastError := patch.lastError.getD row.lastError }

def WorkflowPatch.applyUnlessClosed (patch : WorkflowPatch) (row : CheckoutWorkflow) : CheckoutWorkflow :=
  if row.state.isFinished || row.state.isAborted then row else patch.apply row

def updateWorkflowState (ids : CheckoutIds) (db : SalesDb) (patch : WorkflowPatch) : SalesDb :=
  db.updateWorkflow ids.checkoutId patch.applyUnlessClosed

inductive Ending where
  | cancelled | rejected
deriving DecidableEq

def Ending.state : Ending → CheckoutWorkflowState
  | .cancelled => .cancelled
  | .rejected => .rejected

def CheckoutWorkflow.abort (ending : Ending) (lastError : String) (row : CheckoutWorkflow) : CheckoutWorkflow :=
  { row with state := ending.state, lastError := some lastError }

/-- The transaction that gives up a checkout: it returns the coupon and writes the last state. -/
def abortWorkflow (ids : CheckoutIds) (db : SalesDb) (ending : Ending) (lastError : String) : SalesDb :=
  (db.releaseCouponClaim ids.orderId).updateWorkflow ids.checkoutId (CheckoutWorkflow.abort ending lastError)

def CheckoutWorkflow.escalate (retryCount : Nat) (reason : String) (row : CheckoutWorkflow) : CheckoutWorkflow :=
  { row with state := .requiresReconciliation, retryCount, lastError := some reason }

/-- The reconciliation worker gives a checkout to a person. -/
def escalateWorkflow (ids : CheckoutIds) (db : SalesDb) (retryCount : Nat) (reason : String) : SalesDb :=
  let db := db.updateWorkflow ids.checkoutId (CheckoutWorkflow.escalate retryCount reason)
  { db with outbox := db.outbox ++ [.checkoutReconciliationRequired ids.checkoutId retryCount reason] }

/-- `Math.max(1, Math.round(Number(qty)))` -/
def roundedQuantity (qty : Int) : Int := max 1 ((qty + 500) / 1000)

/-- The cost of the goods, `Math.round(qty * unit)` per line; unknown when no line has a cost. -/
def costAmountOf (lines : List CalculatedOrderLine) : Option Int :=
  let costed := lines.filter (0 < ·.unitCostSnapshot)
  if costed.isEmpty then none
  else some (costed.foldl (fun total line => JsNumber.add total
    (JsNumber.mathRound (JsNumber.nearest (JsNumber.nearest (line.qty / 1000) * line.unitCostSnapshot)))) 0)

structure FinalizeInput where
  reservationId : Uuid
  orderId : Uuid
  quote : PersistedQuote
  tenderSummary : ValidatedTenderSummary
  actorId : Uuid

structure Finalized where
  wf : CheckoutWorkflow
  orderCode : Option Nat
  alreadyDone : Bool

def FinalizeInput.order (input : FinalizeInput) (wf : CheckoutWorkflow) (code : Nat) : Order :=
  let items := input.quote.lines.map fun line => { line, quantity := roundedQuantity line.qty : OrderItem }
  { id := input.orderId, code, idempotencyKey := wf.id, requestHash := wf.requestSha256, branchId := wf.branchId
    warehouseId := wf.warehouseId, shiftId := wf.shiftId, customerId := wf.customerId, customerName := wf.customerName
    paymentStatus := input.tenderSummary.paymentStatus, paymentMethod := wf.paymentMethod
    subtotal := input.quote.subtotal, itemDiscountTotal := input.quote.itemDiscountTotal
    orderDiscountTotal := input.quote.orderDiscountTotal
    promotionDiscountTotal := input.quote.promotionDiscountTotal, couponCode := input.quote.couponCode
    shippingFee := input.quote.shippingFee, taxTotal := input.quote.taxTotal, grandTotal := input.quote.grandTotal
    paidAmount := input.tenderSummary.totalConfirmed, itemCount := (items.map (·.quantity)).sum
    reservationId := input.reservationId, createdBy := wf.createdBy, items }

def FinalizeInput.tenders (input : FinalizeInput) (wf : CheckoutWorkflow) : List OrderTender :=
  input.tenderSummary.tenders.zipIdx.map fun (line, idx) =>
    { orderId := input.orderId, checkoutId := wf.id, shiftId := wf.shiftId, idempotencyKey := (wf.id, idx + 1), line
      confirmedBy := if line.status = .confirmed then some input.actorId else none }

def FinalizeInput.events (input : FinalizeInput) (wf : CheckoutWorkflow) (order : Order) : List SalesEvent :=
  let summary := input.tenderSummary
  [.orderCompleted input.orderId order.code order.grandTotal order.itemCount (costAmountOf input.quote.lines),
    .checkoutCompleted input.orderId order.code order.grandTotal summary.paymentStatus,
    .tenderRecorded input.orderId wf.id summary.totalConfirmed summary.totalCashSales summary.totalChangeDue] ++
  if summary.allConfirmed then [.paymentConfirmed input.orderId wf.id summary.totalConfirmed] else []

/-- The cash part of the payment is one entry in the drawer the cashier picked. -/
def recordSaleCash (cash : CashStore) (wf : CheckoutWorkflow) (input : FinalizeInput) (entryId : Uuid) :
    Except Failure CashStore := do
  let drawerCash ← cashSaleDrawerAmount input.tenderSummary.tenders
  match wf.shiftId with
  | some shiftId =>
    if 0 < drawerCash then do
      let recorded ← recordCashEntry cash entryId
        ((CashMovement.sale input.orderId drawerCash).entry shiftId wf.createdBy) false
      return recorded.1
    else return cash
  | none => return cash

/-- Step 6 of a checkout, one transaction: the order, its tenders, the drawer, the workflow and the events. -/
def finalizeCheckout (ids : CheckoutIds) (db : SalesDb) (input : FinalizeInput) (couponAccepted : Bool)
    (entryId : Uuid) : Except Failure (SalesDb × Finalized) := do
  let wf ← required (db.findWorkflow ids.checkoutId)
    (.domain .orderNotFound s!"Checkout workflow {ids.checkoutId} not found" 404)
  let existingOrder := db.findOrder (wf.orderId.getD input.orderId)
  if existingOrder.isSome || wf.state.isFinished then
    let orderCode := existingOrder.map (·.code)
    if wf.state.isFinished then return (db, { wf, orderCode, alreadyDone := true })
    else do
      let wf := { wf with
        state := .confirmed, orderId := some ((existingOrder.map (·.id)).getD input.orderId) }
      let db ← db.saveWorkflow wf
      return (db, { wf, orderCode, alreadyDone := true })
  else do
    let code := db.lastOrderCode + 1
    let db := { db with lastOrderCode := code }
    let db ← db.claimCoupon input.quote.couponCode input.orderId couponAccepted
    let order := input.order wf code
    ensure (∀ other ∈ db.orders, other.idempotencyKey ≠ order.idempotencyKey)
      (.database "UQ_orders_tenant_idempotency_key")
    ensure (∀ tender ∈ input.tenders wf, ∀ other ∈ db.tenders, other.idempotencyKey ≠ tender.idempotencyKey)
      (.database "UQ_order_tenders_idempotency")
    let cash ← recordSaleCash db.cash wf input entryId
    let wf := { wf with
      state := .confirmed, orderId := some input.orderId, reservationId := some input.reservationId
      commitConfirmed := true, quoteJson := input.quote, lastError := none }
    let db ← SalesDb.saveWorkflow { db with
      cash, orders := db.orders ++ [order], tenders := db.tenders ++ input.tenders wf
      convertedDrafts := db.convertedDrafts ++ wf.draftId.toList
      outbox := db.outbox ++ input.events wf order } wf
    return (db, { wf, orderCode := some code, alreadyDone := false })

end Sales
