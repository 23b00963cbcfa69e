import RetailApi.Sales.Orders

/-! One order as a system: edits, confirmations and cancellations of it, action by action. A confirmation reads the order,
reserves its stock outside any transaction and then writes the status; a cancellation reads it, gives the stock back and then
writes. -/

namespace Sales

open Process Transaction Inventory

/-- The reservation inventory keeps under the key of an order. -/
structure OrderReservation where
  id : Uuid
  state : HoldState
  requestSha256 : ReservationPayload
deriving DecidableEq

structure OrderWorld where
  db : OrderDb := {}
  reservation : Option OrderReservation := none

/-- An order row and its lines, as one transaction reads them. -/
structure OrderRead where
  order : OrderEntity
  items : List OrderItemEntity

structure OrderDetails extends OrderRead where
  history : List OrderStatusHistoryEntity

structure QuoteRequest where
  branchId : Uuid
  customerId : Option Uuid
  lines : List PosCartLineDto
  orderDiscountType : DiscountType
  orderDiscountValue : Int
  couponCode : Option String
  shippingFee : Int
  permissions : List String

inductive ReserveFailure where
  | conflict
  | insufficientStock
  | unavailable
deriving DecidableEq

inductive OrderAction where
  | findOrder
  | resolveAndQuoteLines (request : QuoteRequest)
  | updateDraft (scope : BranchScope) (dto : UpdateDraftOrderDto) (quote : Option OrderQuote)
  | resolveSaleWarehouse (branchId : Uuid) (warehouseId : Option Uuid)
  | reserveWarehouseStock (req : CreateWarehouseReservationRequest)
  /-- The call still has the order as it read it; the transaction looks at the stored one. -/
  | confirmReserved (read : OrderRead) (actorId warehouseId reservationId : Uuid)
  | releaseWarehouseReservation (reservationId : Uuid) (reason : String)
  | cancelLocked (actorId : Uuid) (reason : Option String)
  | getOrderDetails (scope : BranchScope)

def OrderAction.Answer : OrderAction → Type
  | .findOrder => Option OrderRead
  | .resolveAndQuoteLines _ => Except Failure OrderQuote
  | .updateDraft .. | .confirmReserved .. | .cancelLocked .. => Except Failure Unit
  | .resolveSaleWarehouse .. => Except Failure Uuid
  | .reserveWarehouseStock _ => Except ReserveFailure Uuid
  | .releaseWarehouseReservation .. => Unit
  | .getOrderDetails _ => Except Failure OrderDetails

def orderSignature : Signature := ⟨OrderAction, OrderAction.Answer⟩

def inventoryUnavailable : Failure := .thrown "Stock cannot be checked right now, please try again"

structure OrderChoice where
  delivery : Delivery := .answered
  newId : Uuid := 0
  saleWarehouse : Except Failure Uuid := .error inventoryUnavailable
  quote : Except Failure OrderQuote := .error (.domain .validationError "Order must contain at least one line item" 422)

/-- `POST /internal/v1/reservations` under the key of the order: the reservation there is, or a new one. -/
def reserveUnderKey (reservation : Option OrderReservation) (newId : Uuid)
    (req : CreateWarehouseReservationRequest) : Except ReserveFailure (OrderReservation) :=
  match normalizeReservationLines req.lines with
  | .error _ => .error .unavailable
  | .ok lines =>
    match reservation with
    | some existing =>
      if existing.requestSha256 = payloadOf req lines then .ok existing else .error .conflict
    | none => .ok ⟨newId, .held, payloadOf req lines⟩

/-- The reservation after a call, and what the client makes of the answer. Stock is only looked at for a new one. -/
def performReserve (reservation : Option OrderReservation) (choice : OrderChoice)
    (req : CreateWarehouseReservationRequest) : Option OrderReservation × Except ReserveFailure Uuid :=
  match choice.delivery, reserveUnderKey reservation choice.newId req with
  | .failed, _ => (reservation, .error .unavailable)
  | .refused, .ok kept =>
    if reservation.isSome then (some kept, .ok kept.id) else (none, .error .insufficientStock)
  | .lost, .ok kept => (some kept, .error .unavailable)
  | .answered, .ok kept => (some kept, .ok kept.id)
  | .lost, .error _ => (reservation, .error .unavailable)
  | _, .error failure => (reservation, .error failure)

/-- A release; one that inventory refuses, like one that never arrives, changes nothing. -/
def performRelease (reservation : Option OrderReservation) (delivery : Delivery) (reservationId : Uuid) :
    Option OrderReservation :=
  if delivery.arrives then
    reservation.map fun existing =>
      if existing.id = reservationId then { existing with state := existing.state.release?.getD existing.state }
      else existing
  else reservation

def settleOrder (world : OrderWorld) (outcome : Except Failure OrderDb) : OrderWorld × Except Failure Unit :=
  match outcome with
  | .ok db => ({ world with db }, .ok ())
  | .error failure => (world, .error failure)

/-- `getOrderDetails` -/
def orderDetails (orderId : Uuid) (db : OrderDb) (scope : BranchScope) : Except Failure OrderDetails := do
  let order ← required (db.visible scope) (orderNotFound orderId)
  return { order, items := db.items, history := db.history }

def performOrder (orderId : Uuid) : (action : OrderAction) → OrderChoice → OrderWorld → OrderWorld × action.Answer
  | .findOrder, _, world => (world, world.db.order.map fun order => ⟨order, world.db.items⟩)
  | .resolveAndQuoteLines _, choice, world => (world, choice.quote)
  | .updateDraft scope dto quote, _, world => settleOrder world (updateDraft orderId world.db scope dto quote)
  | .resolveSaleWarehouse _ _, choice, world => (world, choice.saleWarehouse)
  | .reserveWarehouseStock req, choice, world =>
    let (reservation, answer) := performReserve world.reservation choice req
    ({ world with reservation }, answer)
  | .confirmReserved _ actorId warehouseId reservationId, _, world =>
    settleOrder world (confirmReserved orderId world.db actorId warehouseId reservationId)
  | .releaseWarehouseReservation reservationId _, choice, world =>
    ({ world with reservation := performRelease world.reservation choice.delivery reservationId }, ())
  | .cancelLocked actorId reason, _, world => settleOrder world (cancelLocked orderId world.db actorId reason)
  | .getOrderDetails scope, _, world => (world, orderDetails orderId world.db scope)

abbrev OrderSaga := Saga orderSignature Failure

def checked {α : Type} (outcome : Except Failure α) : OrderSaga α :=
  match outcome with
  | .ok value => pure value
  | .error failure => throw failure

def getOrderDetails (scope : BranchScope) : OrderSaga OrderDetails :=
  attempt (S := orderSignature) (.getOrderDetails scope) id

def readVisible (orderId : Uuid) (scope : BranchScope) : OrderSaga OrderRead :=
  attempt (S := orderSignature) .findOrder fun read : Option OrderRead =>
    required (read.filter fun read => branchAllowed scope read.order.branchId) (orderNotFound orderId)

def assertDraft (order : OrderEntity) : Except Failure Unit :=
  ensure (order.isOpen = true)
    (.domain .orderInvalidState s!"Order {order.code} in status {order.orderStatus} cannot be edited" 409)

def OrderEntity.quoteRequest (order : OrderEntity) (dto : UpdateDraftOrderDto) (lines : List PosCartLineDto)
    (permissions : List String) : QuoteRequest where
  branchId := order.branchId
  customerId := order.customerId
  lines := lines
  orderDiscountType := dto.orderDiscountType.getD order.orderDiscountType
  orderDiscountValue := dto.orderDiscountValue.getD order.orderDiscountValue
  couponCode := order.couponCode
  shippingFee := dto.shippingFee.getD order.shippingFee
  permissions := permissions

def nextQuote (order : OrderEntity) (dto : UpdateDraftOrderDto) (permissions : List String) :
    OrderSaga (Option OrderQuote) :=
  match dto.lines with
  | some lines =>
    some <$> attempt (S := orderSignature) (.resolveAndQuoteLines (order.quoteRequest dto lines permissions)) id
  | none => pure none

def updateDraftOrder (orderId : Uuid) (permissions : List String) (scope : BranchScope) (dto : UpdateDraftOrderDto) :
    OrderSaga OrderDetails := do
  let current ← readVisible orderId scope
  checked (assertDraft current.order)
  let quote ← nextQuote current.order dto permissions
  attempt (S := orderSignature) (.updateDraft scope dto quote) id
  getOrderDetails scope

structure ConfirmOrderDto where
  warehouseId : Option Uuid := none
  version : Option Nat := none

/-- The checks of `confirmOrder` on the order it read. -/
def assertConfirmable (order : OrderEntity) (dto : ConfirmOrderDto) : Except Failure Unit := do
  order.assertVersion dto.version
  order.assertLegal
  order.assertCanConfirm

def ReserveFailure.raised : ReserveFailure → Failure
  | .conflict => .thrown "Idempotency-Key already used with a different reservation payload"
  | .insufficientStock => .domain .insufficientStock "Insufficient warehouse stock to confirm order" 409
  | .unavailable => inventoryUnavailable

def reserveWarehouseStock (req : CreateWarehouseReservationRequest) : OrderSaga Uuid :=
  attempt (S := orderSignature) (.reserveWarehouseStock req) fun answer : Except ReserveFailure Uuid =>
    answer.mapError ReserveFailure.raised

/-- `confirmOrder` of an order that it read as not confirmed. -/
def confirmRead (orderId actorId : Uuid) (scope : BranchScope) (dto : ConfirmOrderDto) (read : OrderRead) :
    OrderSaga OrderDetails := do
  checked (assertConfirmable read.order dto)
  let warehouseId ← attempt (S := orderSignature)
    (.resolveSaleWarehouse read.order.branchId (dto.warehouseId <|> read.order.warehouseId)) id
  let quantities ← checked (qtyBySku read.items)
  let reservationId ← reserveWarehouseStock (reserveRequest orderId read.order.branchId warehouseId quantities)
  attempt (S := orderSignature) (.confirmReserved read actorId warehouseId reservationId) id
  getOrderDetails scope

def confirmOrder (orderId actorId : Uuid) (scope : BranchScope) (dto : ConfirmOrderDto) : OrderSaga OrderDetails := do
  let read ← readVisible orderId scope
  if read.order.orderStatus = .confirmed then getOrderDetails scope
  else confirmRead orderId actorId scope dto read

structure CancelOrderDto where
  reason : Option String := none
  version : Option Nat := none

def assertCancellable (order : OrderEntity) (dto : CancelOrderDto) : Except Failure Unit := do
  order.assertVersion dto.version
  assertNotShipped order
  assertCanCancelOrder order.orderStatus order.fulfillmentStatus

def OrderEntity.heldReservation (order : OrderEntity) : Option Uuid :=
  if order.fulfillmentStatus = .reserved then order.reservationId else none

/-- The release before the cancelling transaction; the client never raises. -/
def releaseHeld (order : OrderEntity) (dto : CancelOrderDto) : OrderSaga Unit :=
  match order.heldReservation with
  | some reservationId => attempt (S := orderSignature)
      (.releaseWarehouseReservation reservationId (dto.reason.getD "ORDER_CANCELLED")) .ok
  | none => pure ()

/-- `cancelOrder` of an order that it read as not cancelled. -/
def cancelRead (actorId : Uuid) (scope : BranchScope) (dto : CancelOrderDto) (order : OrderEntity) :
    OrderSaga OrderDetails := do
  checked (assertCancellable order dto)
  releaseHeld order dto
  attempt (S := orderSignature) (.cancelLocked actorId dto.reason) id
  getOrderDetails scope

/-- `cancelOrder` of the order it read. -/
def cancelFound (actorId : Uuid) (scope : BranchScope) (dto : CancelOrderDto) (order : OrderEntity) :
    OrderSaga OrderDetails :=
  if order.orderStatus = .cancelled then getOrderDetails scope else cancelRead actorId scope dto order

def cancelOrder (orderId actorId : Uuid) (scope : BranchScope) (dto : CancelOrderDto) : OrderSaga OrderDetails := do
  let read ← readVisible orderId scope
  cancelFound actorId scope dto read.order

inductive OrderCall where
  | updateDraftOrder (permissions : List String) (scope : BranchScope) (dto : UpdateDraftOrderDto)
  | confirmOrder (actorId : Uuid) (scope : BranchScope) (dto : ConfirmOrderDto)
  | cancelOrder (actorId : Uuid) (scope : BranchScope) (dto : CancelOrderDto)

def OrderCall.saga (orderId : Uuid) : OrderCall → OrderSaga OrderDetails
  | .updateDraftOrder permissions scope dto => Sales.updateDraftOrder orderId permissions scope dto
  | .confirmOrder actorId scope dto => Sales.confirmOrder orderId actorId scope dto
  | .cancelOrder actorId scope dto => Sales.cancelOrder orderId actorId scope dto

/-- Nothing else happens to the order: its reservation has no expiry. -/
def orderMachine (orderId : Uuid) :
    Machine orderSignature OrderWorld OrderChoice OrderCall Empty (Except Failure OrderDetails) where
  program call := (call.saga orderId).run
  perform := performOrder orderId
  environment world _ := world

abbrev OrderPool := Pool orderSignature OrderWorld OrderCall (Except Failure OrderDetails)

abbrev OrderInput := Input OrderCall OrderChoice Empty

structure NewOrder where
  orderId : Uuid
  code : String
  dto : CreateOmnichannelOrderDto
  warehouseId : Option Uuid
  quote : OrderQuote
  coupons : CouponsDb

def NewOrder.world (new : NewOrder) : OrderWorld where
  db := createdOrder new.orderId new.code new.dto new.warehouseId new.quote new.coupons

def orderAfter (new : NewOrder) (inputs : List OrderInput) : OrderPool :=
  Run.after (orderMachine new.orderId).step { shared := new.world } inputs

def OrderPool.returned (pool : OrderPool) (thread : Nat) : Option OrderDetails :=
  match pool.running thread with
  | some (.done (.ok details)) => some details
  | _ => none

end Sales
