import RetailApi.Inventory.Reservations
import RetailApi.Sales.Checkout
import RetailApi.Sales.Coupons

/-! Orders before they are shipped: the rules of the order aggregate, and the transactions
that edit a draft, confirm it with a reservation, and cancel it. -/

namespace Sales

open Transaction JsString

def validateOrderStateCombination (orderStatus : CommercialOrderStatus) (paymentStatus : OrderPaymentStatus)
    (fulfillmentStatus : OrderFulfillmentStatus) : Except Failure Unit := do
  ensure (orderStatus = .draft → fulfillmentStatus = .unfulfilled) (.domain .orderInvalidState
    s!"A DRAFT order cannot have fulfillmentStatus={fulfillmentStatus}" 409)
  ensure (orderStatus = .cancelled → fulfillmentStatus ≠ .reserved ∧ fulfillmentStatus ≠ .fulfilled)
    (.domain .orderInvalidState s!"A CANCELLED order cannot retain fulfillmentStatus={fulfillmentStatus}" 409)
  ensure (orderStatus = .completed → fulfillmentStatus = .fulfilled ∨ fulfillmentStatus = .returned)
    (.domain .orderInvalidState s!"A COMPLETED order must be FULFILLED or RETURNED, got {fulfillmentStatus}" 409)
  ensure (orderStatus = .completed → paymentStatus ≠ .unpaid)
    (.domain .orderInvalidState "A COMPLETED order cannot have paymentStatus=UNPAID" 409)

def assertCanCancelOrder (orderStatus : CommercialOrderStatus) (fulfillmentStatus : OrderFulfillmentStatus) :
    Except Failure Unit := do
  ensure (orderStatus ≠ .cancelled) (.domain .orderAlreadyCancelled "Order is already CANCELLED" 409)
  ensure (orderStatus ≠ .completed ∧ fulfillmentStatus ≠ .fulfilled) (.domain .orderAlreadyCompleted
    "Fulfilled or completed orders cannot be cancelled; use the Return workflow instead" 409)

/-- The client's `version` against the stored one, when it sent one. -/
def OrderEntity.assertVersion (order : OrderEntity) (version : Option Nat) : Except Failure Unit :=
  ensure (∀ expected ∈ version, order.version = expected) (.domain .resourceVersionConflict
    s!"Order {order.code} version mismatch (expected {version.getD 0}, actual {order.version})" 409)

/-- An order handed to the carrier is not cancelled: it comes back through a return. -/
def assertNotShipped (order : OrderEntity) : Except Failure Unit :=
  ensure (order.fulfillmentStage ≠ some .shipping)
    (.domain .orderInvalidState s!"Order {order.code} is already shipped: use a return instead" 409)

namespace OrderEntity

/-- `new OrderAggregate(...)` of a row. -/
def assertLegal (order : OrderEntity) : Except Failure Unit :=
  validateOrderStateCombination order.orderStatus order.paymentStatus order.fulfillmentStatus

/-- DRAFT or PENDING: what may still be edited and confirmed. -/
def isOpen (order : OrderEntity) : Bool := order.orderStatus = .draft || order.orderStatus = .pending

def assertEditable (order : OrderEntity) (expectedVersion : Option Nat) : Except Failure Unit := do
  order.assertVersion expectedVersion
  ensure (order.isOpen = true)
    (.domain .orderInvalidState s!"Order {order.code} in status {order.orderStatus} cannot be edited" 409)

def assertCanConfirm (order : OrderEntity) : Except Failure Unit :=
  ensure (order.isOpen = true)
    (.domain .orderInvalidState s!"Cannot confirm order in status {order.orderStatus}" 409)

/-- The row after `confirmWithReservation`. -/
def confirmed (order : OrderEntity) (warehouseId reservationId : Uuid) : OrderEntity :=
  { order with
    warehouseId := some warehouseId, reservationId := some reservationId, orderStatus := .confirmed
    fulfillmentStatus := .reserved, version := order.version + 1 }

def confirmWithReservation (order : OrderEntity) (warehouseId reservationId : Uuid) : Except Failure OrderEntity := do
  order.assertLegal
  order.assertCanConfirm
  (order.confirmed warehouseId reservationId).assertLegal
  return order.confirmed warehouseId reservationId

/-- The row after `cancel`; the reservation it names stays on it. -/
def cancelled (order : OrderEntity) (reason : Option String) : OrderEntity :=
  { order with
    orderStatus := .cancelled, fulfillmentStatus := .unfulfilled, fulfillmentStage := none
    cancelReason := some (reason.getD "CANCELLED_BY_USER"), version := order.version + 1 }

def cancel (order : OrderEntity) (reason : Option String) : Except Failure OrderEntity := do
  order.assertLegal
  assertCanCancelOrder order.orderStatus order.fulfillmentStatus
  (order.cancelled reason).assertLegal
  return order.cancelled reason

end OrderEntity

/-- `SalesOrderLifecycleEventPayload` -/
structure OrderLifecycle where
  orderId : Uuid
  code : String
  branchId : Uuid
  channelType : String
  orderStatus : CommercialOrderStatus
  paymentStatus : OrderPaymentStatus
  fulfillmentStatus : OrderFulfillmentStatus
  subtotal : Int
  discountTotal : Int
  taxTotal : Int
  grandTotal : Int
  actorId : Uuid

inductive OrderEvent where
  | confirmed (payload : OrderLifecycle)
  | cancelled (payload : OrderLifecycle)

/-- One order with its lines, and the tables its transactions write to. -/
structure OrderDb where
  order : Option OrderEntity := none
  items : List OrderItemEntity := []
  history : List OrderStatusHistoryEntity := []
  coupons : CouponsDb := {}
  outbox : List OrderEvent := []

def OrderEntity.lifecycle (order : OrderEntity) (orderId actorId : Uuid) : OrderLifecycle where
  orderId := orderId
  code := order.code
  branchId := order.branchId
  channelType := order.channelType
  orderStatus := order.orderStatus
  paymentStatus := order.paymentStatus
  fulfillmentStatus := order.fulfillmentStatus
  subtotal := order.subtotal
  discountTotal := order.itemDiscountTotal + order.orderDiscountTotal + order.promotionDiscountTotal
  taxTotal := order.taxTotal
  grandTotal := order.grandTotal
  actorId := actorId

def transitionOf (before after : OrderEntity) (orderId actorId : Uuid) (reason : String) : OrderStatusHistoryEntity where
  orderId := orderId
  fromOrderStatus := before.orderStatus
  toOrderStatus := after.orderStatus
  fromPaymentStatus := before.paymentStatus
  toPaymentStatus := after.paymentStatus
  fromFulfillmentStatus := before.fulfillmentStatus
  toFulfillmentStatus := after.fulfillmentStatus
  reason := reason
  actorId := actorId

structure OrderQuote extends CalculatedOrderQuote where
  orderDiscountType : DiscountType
  orderDiscountValue : Int

def OrderQuote.itemCount (quote : OrderQuote) : Int := (quote.lines.map fun line => roundedQuantity line.qty).sum

def OrderQuote.items (quote : OrderQuote) (orderId : Uuid) : List OrderItemEntity :=
  quote.lines.map fun line => {
    orderId, variantId := some line.variantId, sku := line.skuCode, name := line.productName, qty := line.qty
    baseQty := line.baseQty, unitPrice := line.unitPrice, lineNet := line.lineNet, taxAmount := line.taxAmount
    lineTotal := line.lineTotal, unitCostSnapshot := line.unitCostSnapshot }

def OrderEntity.priced (order : OrderEntity) (quote : OrderQuote) : OrderEntity :=
  { order with
    subtotal := quote.subtotal, itemDiscountTotal := quote.itemDiscountTotal
    orderDiscountType := quote.orderDiscountType, orderDiscountValue := quote.orderDiscountValue
    orderDiscountTotal := quote.orderDiscountTotal, promotionDiscountTotal := quote.promotionDiscountTotal
    shippingFee := quote.shippingFee, taxTotal := quote.taxTotal, grandTotal := quote.grandTotal
    totalAmount := quote.grandTotal, itemCount := quote.itemCount }

inductive InitialStatus where
  | draft | pending

def InitialStatus.orderStatus : InitialStatus → CommercialOrderStatus
  | .draft => .draft
  | .pending => .pending

structure CreateOmnichannelOrderDto where
  branchId : Uuid
  channelType : String
  customerId : Option Uuid := none
  customerName : Option String := none
  initialStatus : Option InitialStatus := none
  note : Option String := none

/-- The rows `createOmnichannelOrder` writes for an order and its lines. -/
def createdOrder (orderId : Uuid) (code : String) (dto : CreateOmnichannelOrderDto) (warehouseId : Option Uuid)
    (quote : OrderQuote) (coupons : CouponsDb) : OrderDb where
  order := some (OrderEntity.priced {
    code, branchId := dto.branchId, warehouseId, channelType := dto.channelType, customerId := dto.customerId
    customerName := some (dto.customerName.getD "Omnichannel Customer")
    orderStatus := (dto.initialStatus.getD .pending).orderStatus, paymentStatus := .unpaid
    fulfillmentStatus := .unfulfilled, couponCode := quote.couponCode, note := dto.note } quote)
  items := quote.items orderId
  coupons := coupons

def orderNotFound (orderId : Uuid) : Failure := .domain .orderNotFound s!"Order {orderId} not found" 404

def OrderDb.visible (db : OrderDb) (scope : BranchScope) : Option OrderEntity :=
  db.order.filter fun order => branchAllowed scope order.branchId

structure UpdateDraftOrderDto where
  customerName : Option String := none
  lines : Option (List PosCartLineDto) := none
  orderDiscountType : Option DiscountType := none
  orderDiscountValue : Option Int := none
  shippingFee : Option Int := none
  note : Option String := none
  expectedVersion : Option Nat := none
  version : Option Nat := none

/-- The draft with the texts of an edit, its version counted up. -/
def OrderEntity.edited (order : OrderEntity) (dto : UpdateDraftOrderDto) : OrderEntity :=
  { order with
    customerName := dto.customerName <|> order.customerName, note := dto.note <|> order.note
    version := order.version + 1 }

/-- The transaction of `updateDraftOrder`; with a quote it replaces the lines and the totals. -/
def updateDraft (orderId : Uuid) (db : OrderDb) (scope : BranchScope) (dto : UpdateDraftOrderDto)
    (quote : Option OrderQuote) : Except Failure OrderDb := do
  let order ← required (db.visible scope) (orderNotFound orderId)
  order.assertLegal
  order.assertEditable (dto.expectedVersion <|> dto.version)
  match quote with
  | some quote => return { db with order := some ((order.edited dto).priced quote), items := quote.items orderId }
  | none => return { db with order := some (order.edited dto) }

/-- The transaction of `confirmOrder`, once the stock is reserved. -/
def confirmReserved (orderId : Uuid) (db : OrderDb) (actorId warehouseId reservationId : Uuid) :
    Except Failure OrderDb := do
  let locked ← required db.order (orderNotFound orderId)
  if locked.orderStatus = .confirmed then return db
  let confirmed ← locked.confirmWithReservation warehouseId reservationId
  return { db with
    order := some confirmed
    history := db.history ++ [transitionOf locked confirmed orderId actorId "ORDER_CONFIRMED_AND_RESERVED"]
    outbox := db.outbox ++ [.confirmed (confirmed.lifecycle orderId actorId)] }

/-- The locked row of a cancellation; one that is gone or CANCELLED leaves nothing to do. -/
def OrderDb.cancellable (db : OrderDb) : Option OrderEntity := db.order.filter (·.orderStatus ≠ .cancelled)

/-- The transaction of `cancelOrder`. -/
def cancelLocked (orderId : Uuid) (db : OrderDb) (actorId : Uuid) (reason : Option String) : Except Failure OrderDb :=
  match db.cancellable with
  | none => .ok db
  | some locked => do
    assertNotShipped locked
    let cancelled ← locked.cancel reason
    let coupons ← releaseCouponClaimWithinTransaction db.coupons orderId
    return { db with
      order := some cancelled, coupons
      history := db.history ++ [transitionOf locked cancelled orderId actorId (reason.getD "ORDER_CANCELLED")]
      outbox := db.outbox ++ [.cancelled (cancelled.lifecycle orderId actorId)] }

/-- The key inventory knows a line by: the variant, or the SKU code of a line without one. -/
def inventoryStockKey (variantId : Option Uuid) (skuCode : String) : Inventory.Text :=
  match variantId with
  | some id => .ofUuid id
  | none => .word skuCode

structure SkuQty where
  skuKey : Inventory.Text
  millis : Int

def SkuQty.combine (existing added : SkuQty) : SkuQty := { existing with millis := existing.millis + added.millis }

def OrderItemEntity.skuQty (item : OrderItemEntity) : Except Failure SkuQty := do
  let millis ← parseQtyMillis (formatQtyMillis item.baseQty)
  return ⟨inventoryStockKey item.variantId item.sku, millis⟩

/-- `qtyBySku`: the base quantities of the lines, added up by stock key. -/
def qtyBySku (items : List OrderItemEntity) : Except Failure (List SkuQty) :=
  items.foldlM (fun collected item => do
    let line ← item.skuQty
    return Merge.insert SkuQty.skuKey SkuQty.combine line collected) []

def reserveRequest (orderId branchId warehouseId : Uuid) (quantities : List SkuQty) :
    Inventory.CreateWarehouseReservationRequest where
  callerService := .sales
  sourceRefType := .order
  sourceRefId := orderId
  branchId := some (.ofUuid branchId)
  noExpiry := true
  lines := quantities.map fun line => {
    warehouseId := some (.ofUuid warehouseId), skuId := line.skuKey, qty := formatQtyMillis line.millis }

end Sales
