import RetailApi.Sales.Orders
import RetailApi.Sales.ReturnOperations

/-! Orders on their way out: fulfilments and what they carry, the steps of the order
screen, and the payments recorded against an order. -/

namespace Sales

open Transaction JsString

inductive FulfillmentRowStatus where
  | pending | confirmed | shipped | delivered | completed | cancelled
deriving DecidableEq

inductive FulfillmentType where
  | posPickup | delivery | shipping
deriving DecidableEq

structure OrderFulfillmentEntity where
  id : Uuid
  code : String
  branchId : Uuid
  warehouseId : Option Uuid
  reservationId : Option Uuid
  fulfillmentType : FulfillmentType
  status : FulfillmentRowStatus
  carrierCode : Option String
  trackingNumber : Option String
  createdBy : Uuid

/-- A row of `fulfillment_items`; its `numeric(18,3)` column is held in thousandths. -/
structure FulfillmentItemEntity where
  fulfillmentId : Uuid
  orderItemId : Uuid
  skuCode : String
  qty : Int

inductive OrderTenderMethod where
  | cash | bankTransfer | card | eWallet | cod | marketplace
deriving DecidableEq

inductive OrderTenderKind where
  | payment | refund
deriving DecidableEq

structure OrderTenderEntity where
  id : Uuid
  shiftId : Option Uuid
  idempotencyKey : String
  method : OrderTenderMethod
  amount : Int
  tenderedCash : Int
  confirmedBy : Uuid
  kind : OrderTenderKind
  note : Option String

/-- `OrderCompletedPayload`, without its times. -/
structure OrderCompletedPayload where
  orderId : Uuid
  code : String
  branchId : Uuid
  customerId : Option Uuid
  subtotal : Int
  discountTotal : Int
  taxTotal : Int
  grandTotal : Int
  totalAmount : Int
  itemCount : Int
  createdBy : Uuid
  items : List OrderItemEntity

inductive LifecycleEvent where
  | packing (payload : OrderLifecycle)
  | shipped (payload : OrderLifecycle) (shippingProviderId : Option Uuid) (trackingCode : Option String)
  | fulfillmentCompleted (fulfillmentId : Uuid) (code : String) (branchId : Uuid) (warehouseId : Option Uuid)
  | orderCompleted (payload : OrderCompletedPayload)
  | tenderRecorded (shiftId : Option Uuid) (totalConfirmed totalCashSales : Int)
  | paymentConfirmed (amount : Int)

structure LifecycleDb extends OrderDb where
  /-- The `id` column of `order_items`, row by row. -/
  itemIds : List Uuid := []
  fulfillments : List OrderFulfillmentEntity := []
  fulfillmentItems : List FulfillmentItemEntity := []
  tenders : List OrderTenderEntity := []
  cash : CashStore := {}
  shippingProviders : Table Uuid String := ∅
  events : List LifecycleEvent := []

namespace LifecycleDb

def lines (db : LifecycleDb) : List (Uuid × OrderItemEntity) := db.itemIds.zip db.items

def fulfillment (db : LifecycleDb) (id : Uuid) : Option OrderFulfillmentEntity := db.fulfillments.find? (·.id = id)

end LifecycleDb

/-- Validates that a fulfillment shipment can be created for this order. -/
def OrderEntity.assertCanCreateFulfillment (order : OrderEntity) : Except Failure Unit :=
  ensure (order.orderStatus ≠ .cancelled ∧ order.orderStatus ≠ .draft) (.domain .fulfillmentInvalidState
    s!"Cannot create fulfillment for order in status {order.orderStatus}" 409)

/-- The row after `markFulfilled`: a paid order is completed with it. -/
def OrderEntity.fulfilled (order : OrderEntity) : OrderEntity :=
  { order with
    fulfillmentStatus := .fulfilled, orderStatus := if order.paymentStatus = .paid then .completed else order.orderStatus
    fulfillmentStage := none, version := order.version + 1 }

def OrderEntity.markFulfilled (order : OrderEntity) : Except Failure OrderEntity := do
  order.assertLegal
  order.fulfilled.assertLegal
  return order.fulfilled

/-- `effectiveAmounts(...).paidAmount`; a row from before the total columns counts as paid in full when it is PAID. -/
def OrderEntity.effectivePaid (order : OrderEntity) : Int :=
  if order.grandTotal = 0 ∧ 0 < order.totalAmount ∧ order.paymentStatus = .paid then order.totalAmount else order.paidAmount

/-- `effectiveAmounts(...).subtotal` -/
def OrderEntity.effectiveSubtotal (order : OrderEntity) : Int :=
  if order.grandTotal = 0 ∧ 0 < order.totalAmount then order.totalAmount else order.subtotal

/-- The event of `emitOrderCompleted`. -/
def LifecycleDb.orderCompleted (db : LifecycleDb) (orderId actorId : Uuid) (order : OrderEntity) : LifecycleEvent :=
  .orderCompleted {
    orderId, code := order.code, branchId := order.branchId, customerId := order.customerId
    subtotal := order.effectiveSubtotal
    discountTotal := order.itemDiscountTotal + order.orderDiscountTotal + order.promotionDiscountTotal
    taxTotal := order.taxTotal, grandTotal := if order.grandTotal = 0 then order.totalAmount else order.grandTotal
    totalAmount := order.totalAmount, itemCount := order.itemCount, createdBy := actorId, items := db.items }

structure CreateFulfillmentItemDto where
  orderItemId : Uuid
  /-- The number as `String` writes it. -/
  qty : String
deriving DecidableEq

structure CreateFulfillmentDto where
  warehouseId : Option Uuid := none
  fulfillmentType : Option FulfillmentType := none
  carrierCode : Option String := none
  trackingNumber : Option String := none
  items : List CreateFulfillmentItemDto := []

structure FulfillmentIds where
  id : Uuid
  code : String

/-- The lines a new fulfilment is asked for: those of the request, or all of the order. -/
def LifecycleDb.lineInputs (db : LifecycleDb) (dto : CreateFulfillmentDto) : List CreateFulfillmentItemDto :=
  if dto.items = [] then db.lines.map fun line => ⟨line.1, formatQtyMillis line.2.qty⟩ else dto.items

def LifecycleDb.fulfillmentItem (db : LifecycleDb) (fulfillmentId : Uuid) (orderCode : String)
    (input : CreateFulfillmentItemDto) : Except Failure FulfillmentItemEntity := do
  let orig ← required (db.lines.find? (·.1 = input.orderItemId)) (.domain .validationError
    s!"Order item {input.orderItemId} does not belong to order {orderCode}" 422)
  let qty ← parseQtyMillis input.qty
  return { fulfillmentId, orderItemId := orig.1, skuCode := orig.2.sku, qty }

/-- D2: stock leaves the warehouse the order reserved from; another one is refused. -/
def OrderEntity.assertShipsFrom (order : OrderEntity) (warehouseId : Option Uuid) : Except Failure Unit :=
  ensure (∀ asked ∈ warehouseId, ∀ reserved ∈ order.warehouseId, asked = reserved)
    (.thrown "A fulfillment ships from the warehouse the order reserved its stock in")

def OrderEntity.fulfillment (order : OrderEntity) (ids : FulfillmentIds) (actorId : Uuid) (fulfillmentType : FulfillmentType)
    (status : FulfillmentRowStatus) (carrierCode trackingNumber : Option String) : OrderFulfillmentEntity where
  id := ids.id
  code := ids.code
  branchId := order.branchId
  warehouseId := order.warehouseId
  reservationId := order.reservationId
  fulfillmentType := fulfillmentType
  status := status
  carrierCode := carrierCode
  trackingNumber := trackingNumber
  createdBy := actorId

/-- An order and the lines of a fulfilment it is asked for. -/
structure AdmittedFulfillment where
  order : OrderEntity
  items : List FulfillmentItemEntity

/-- What `createFulfillment` checks before it is done. -/
def admitFulfillment (orderId fulfillmentId : Uuid) (db : LifecycleDb) (scope : BranchScope) (dto : CreateFulfillmentDto) :
    Except Failure AdmittedFulfillment := do
  let order ← required (db.visible scope) (orderNotFound orderId)
  order.assertShipsFrom dto.warehouseId
  order.assertLegal
  order.assertCanCreateFulfillment
  let items ← (db.lineInputs dto).mapM (db.fulfillmentItem fulfillmentId order.code)
  return { order, items }

/-- The transaction of `createFulfillment`. -/
def createFulfillment (orderId : Uuid) (ids : FulfillmentIds) (db : LifecycleDb) (actorId : Uuid) (scope : BranchScope)
    (dto : CreateFulfillmentDto) : Except Failure LifecycleDb := do
  let admitted ← admitFulfillment orderId ids.id db scope dto
  return { db with
    fulfillments := db.fulfillments ++ [admitted.order.fulfillment ids actorId (dto.fulfillmentType.getD .delivery) .pending
      dto.carrierCode dto.trackingNumber]
    fulfillmentItems := db.fulfillmentItems ++ admitted.items }

def fulfillmentNotFound (fulfillmentId : Uuid) : Failure :=
  .domain .fulfillmentNotFound s!"Fulfillment {fulfillmentId} not found" 404

/-- A fulfilment and its order as the first transaction of `confirmFulfillment` reads them. -/
structure FulfillmentRead where
  fulfillment : OrderFulfillmentEntity
  order : OrderEntity

def readFulfillment (db : LifecycleDb) (fulfillmentId : Uuid) (scope : BranchScope) : Except Failure FulfillmentRead := do
  let fulfillment ← required (db.fulfillment fulfillmentId) (fulfillmentNotFound fulfillmentId)
  let order ← required (db.visible scope) (fulfillmentNotFound fulfillmentId)
  return { fulfillment, order }

def LifecycleDb.completedRows (db : LifecycleDb) (fulfillmentId : Uuid) : List OrderFulfillmentEntity :=
  db.fulfillments.map fun row => if row.id = fulfillmentId then { row with status := .completed } else row

/-- The events of a confirmed fulfilment, the order's own first if it completes the order. -/
def LifecycleDb.confirmedEvents (db : LifecycleDb) (orderId actorId : Uuid) (locked fulfilled : OrderEntity)
    (fulfillment : OrderFulfillmentEntity) : List LifecycleEvent :=
  (if locked.orderStatus ≠ .completed ∧ fulfilled.orderStatus = .completed then [db.orderCompleted orderId actorId fulfilled]
    else []) ++
  [.fulfillmentCompleted fulfillment.id fulfillment.code fulfilled.branchId fulfillment.warehouseId]

/-- The last transaction of `confirmFulfillment`. -/
def confirmLocked (orderId : Uuid) (db : LifecycleDb) (actorId fulfillmentId : Uuid) : Except Failure LifecycleDb := do
  let lockedF ← required (db.fulfillment fulfillmentId) (fulfillmentNotFound fulfillmentId)
  match db.order with
  | none => return { db with fulfillments := db.completedRows fulfillmentId }
  | some locked =>
    let fulfilled ← locked.markFulfilled
    return { db with
      fulfillments := db.completedRows fulfillmentId
      order := some fulfilled
      history := db.history ++ [transitionOf locked fulfilled orderId actorId s!"FULFILLMENT_CONFIRMED:{lockedF.code}"]
      events := db.events ++ db.confirmedEvents orderId actorId locked fulfilled lockedF }

/-- `order.fulfillmentStage ?? order.fulfillmentStatus` -/
def OrderEntity.stageText (order : OrderEntity) : String :=
  match order.fulfillmentStage with
  | some .packing => "PACKING"
  | some .shipping => "SHIPPING"
  | none => toString order.fulfillmentStatus

def invalidTransition (order : OrderEntity) (action : String) : Failure :=
  .domain .orderInvalidState s!"Cannot {action} order {order.code} in status {order.orderStatus}/{order.stageText}" 409

/-- The row of an order that every step of the screen starts from. -/
def LifecycleDb.lock (db : LifecycleDb) (orderId : Uuid) (scope : BranchScope) (version : Nat) :
    Except Failure OrderEntity := do
  let order ← required (db.visible scope) (orderNotFound orderId)
  order.assertVersion (some version)
  return order

/-- A history row that leaves the order and payment status. -/
def stageHistory (order : OrderEntity) (orderId actorId : Uuid) (reason : String) : OrderStatusHistoryEntity :=
  transitionOf order order orderId actorId reason

def OrderEntity.staged (order : OrderEntity) (stage : FulfillmentStage) : OrderEntity :=
  { order with fulfillmentStage := some stage, version := order.version + 1 }

/-- `confirmed` and still in the warehouse: `unfulfilled` becomes `packing`. -/
def pack (orderId : Uuid) (db : LifecycleDb) (actorId : Uuid) (scope : BranchScope) (version : Nat) :
    Except Failure LifecycleDb := do
  let order ← db.lock orderId scope version
  ensure (order.orderStatus = .confirmed ∧ order.fulfillmentStage = none ∧ order.fulfillmentStatus ≠ .fulfilled ∧
    order.fulfillmentStatus ≠ .returned) (invalidTransition order "pack")
  return { db with
    order := some (order.staged .packing)
    history := db.history ++ [stageHistory order orderId actorId "PACK"]
    events := db.events ++ [.packing ((order.staged .packing).lifecycle orderId actorId)] }

def LifecycleDb.createFulfillmentRow (db : LifecycleDb) (ids : FulfillmentIds) (order : OrderEntity) (actorId : Uuid)
    (fulfillmentType : FulfillmentType) (status : FulfillmentRowStatus) (carrierCode trackingNumber : Option String) :
    Except Failure LifecycleDb := do
  let items ← db.lines.mapM fun line => do
    let qty ← parseQtyMillis (formatQtyMillis line.2.qty)
    return { fulfillmentId := ids.id, orderItemId := line.1, skuCode := line.2.sku, qty : FulfillmentItemEntity }
  return { db with
    fulfillments := db.fulfillments ++ [order.fulfillment ids actorId fulfillmentType status carrierCode trackingNumber]
    fulfillmentItems := db.fulfillmentItems ++ items }

structure ShipOrderDto where
  version : Nat
  shippingProviderId : Option Uuid := none
  trackingCode : Option String := none

/-- The code of the provider of a shipment, when it names one. -/
def LifecycleDb.providerCode (db : LifecycleDb) : Option Uuid → Except Failure (Option String)
  | none => .ok none
  | some providerId => some <$> required (db.shippingProviders.lookup providerId)
      (.domain .validationError s!"Shipping provider {providerId} not found" 422)

/-- `packing` becomes `shipping`: the order's fulfilment row is created already shipped. -/
def ship (orderId : Uuid) (ids : FulfillmentIds) (db : LifecycleDb) (actorId : Uuid) (scope : BranchScope)
    (dto : ShipOrderDto) : Except Failure LifecycleDb := do
  let order ← db.lock orderId scope dto.version
  ensure (order.orderStatus = .confirmed ∧ order.fulfillmentStage = some .packing) (invalidTransition order "ship")
  let providerCode ← db.providerCode dto.shippingProviderId
  let db ← db.createFulfillmentRow ids order actorId .delivery .shipped providerCode dto.trackingCode
  return { db with
    order := some (order.staged .shipping)
    history := db.history ++ [stageHistory order orderId actorId "SHIP"]
    events := db.events ++
      [.shipped ((order.staged .shipping).lifecycle orderId actorId) dto.shippingProviderId dto.trackingCode] }

/-- The fulfilments of an order that are not confirmed yet. -/
def LifecycleDb.openRows (db : LifecycleDb) : List Uuid :=
  (db.fulfillments.filter fun row => row.status = .pending ∨ row.status = .shipped).map (·.id)

/-- The first transaction of `complete`: the fulfilments to confirm, one made for the order if it has none. -/
def openForCompletion (orderId : Uuid) (ids : FulfillmentIds) (db : LifecycleDb) (actorId : Uuid) (scope : BranchScope)
    (version : Nat) : Except Failure (LifecycleDb × List Uuid) := do
  let order ← db.lock orderId scope version
  ensure (order.orderStatus = .confirmed ∧ order.fulfillmentStatus ≠ .fulfilled ∧ order.fulfillmentStatus ≠ .returned)
    (invalidTransition order "complete")
  if db.openRows = [] then
    ensure (order.fulfillmentStage ≠ some .shipping) (invalidTransition order "complete")
    let db ← db.createFulfillmentRow ids order actorId .posPickup .pending none none
    return (db, [ids.id])
  else return (db, db.openRows)

structure RecordPaymentDto where
  method : OrderTenderMethod
  amount : Int
  shiftId : Option Uuid := none
  note : Option String := none

namespace RecordPaymentDto

def refund (dto : RecordPaymentDto) : Bool := dto.amount < 0

def value (dto : RecordPaymentDto) : Int := |dto.amount|

end RecordPaymentDto

structure PaymentIds where
  tenderId : Uuid
  entryId : Uuid
  latestShift : Uuid := 0

/-- The text of a uuid: 32 hexadecimal digits in five groups. -/
def uuidText (id : Uuid) : String :=
  let digits := (List.range 32).map fun place => Nat.digitChar (id / 16 ^ (31 - place) % 16)
  let group := fun (start length : Nat) => String.ofList ((digits.drop start).take length)
  "-".intercalate [group 0 8, group 8 4, group 12 4, group 16 4, group 20 12]

/-- The key of a tender of the order: `pay:${id}:${key}`, cut to the width of its column. -/
def tenderKey (orderId : Uuid) (key : String) : String :=
  let text := uuidText orderId
  String.ofList (s!"pay:{text}:{key}".toList.take 128)

/-- A shift the caller picked for cash: it must be OPEN and of the order's branch. -/
def assertOpenShiftOfBranch (cash : CashStore) (shiftId branchId : Uuid) : Except Failure Unit := do
  let shift ← required (cash.shift shiftId) (.domain .shiftNotFound s!"POS shift {shiftId} not found" 404)
  ensure (shift.branchId = branchId ∧ shift.status = .open)
    (.domain .shiftNotOpen s!"POS shift {shiftId} is not an OPEN shift of this branch" 409)

def cashShift (cash : CashStore) (actorId branchId latest : Uuid) (dto : RecordPaymentDto) :
    Except Failure (Option Uuid) :=
  if dto.method = .cash then
    match dto.shiftId with
    | some picked =>
      if dto.refund then some <$> findCallersOpenShift cash actorId branchId latest
      else do
        assertOpenShiftOfBranch cash picked branchId
        return some picked
    | none => some <$> findCallersOpenShift cash actorId branchId latest
  else .ok none

def recordCash (cash : CashStore) (orderId actorId : Uuid) (ids : PaymentIds) (dto : RecordPaymentDto)
    (shiftId : Option Uuid) : Except Failure CashStore :=
  match shiftId with
  | none => .ok cash
  | some shiftId => do
    let recorded ← recordCashEntry cash ids.entryId {
      shiftId, kind := if dto.refund then .cashRefund else .cashSale
      amount := if dto.refund then -dto.value else dto.value
      reason := if dto.refund then some "order_refund" else none
      orderId := some orderId, tenderId := some ids.tenderId, staffId := actorId, sourceKey := .tender ids.tenderId } false
    return recorded.1

/-- The payment columns of an order, and its completion with the last payment of delivered goods. -/
def OrderEntity.withPayment (order : OrderEntity) (dto : RecordPaymentDto) : OrderEntity :=
  let nextPaid :=
    if dto.refund then JsNumber.sub order.effectivePaid dto.value else JsNumber.add order.effectivePaid dto.value
  let nextStatus : OrderPaymentStatus :=
    if dto.refund then if nextPaid = 0 then .refunded else .partiallyRefunded
    else if order.totalAmount ≤ nextPaid then .paid else .partiallyPaid
  { order with
    paidAmount := nextPaid
    refundedAmount := if dto.refund then JsNumber.add order.refundedAmount dto.value else order.refundedAmount
    paymentStatus := nextStatus
    orderStatus := if nextStatus = .paid ∧ order.orderStatus = .confirmed ∧ order.fulfillmentStatus = .fulfilled then .completed
      else order.orderStatus
    version := order.version + 1 }

def OrderEntity.assertPayable (order : OrderEntity) (dto : RecordPaymentDto) : Except Failure Unit := do
  ensure (order.orderStatus ≠ .cancelled ∧ order.orderStatus ≠ .draft) (invalidTransition order "record a payment for")
  if dto.refund then
    ensure (dto.value ≤ order.effectivePaid) (.domain .paymentExceedsDue
      s!"Refund {dto.value} exceeds what was paid ({order.effectivePaid})" 409)
  else
    let due := JsNumber.sub order.totalAmount order.effectivePaid
    ensure (dto.value ≤ due) (.domain .paymentExceedsDue s!"Payment {dto.value} exceeds what is due ({due})" 409)

def RecordPaymentDto.tender (dto : RecordPaymentDto) (ids : PaymentIds) (actorId : Uuid) (key : String)
    (shiftId : Option Uuid) : OrderTenderEntity where
  id := ids.tenderId
  shiftId := shiftId
  idempotencyKey := key
  method := dto.method
  amount := dto.value
  tenderedCash := if dto.method = .cash ∧ dto.refund = false then dto.value else 0
  confirmedBy := actorId
  kind := if dto.refund then .refund else .payment
  note := dto.note

/-- The events of a recorded payment; a refund tells nothing but the completion of its order. -/
def LifecycleDb.paymentEvents (db : LifecycleDb) (orderId actorId : Uuid) (order paid : OrderEntity)
    (dto : RecordPaymentDto) (shiftId : Option Uuid) : List LifecycleEvent :=
  (if dto.refund then []
    else .tenderRecorded shiftId dto.value (if shiftId.isSome then dto.value else 0) ::
      if paid.paymentStatus = .paid then [.paymentConfirmed paid.paidAmount] else []) ++
  (if order.orderStatus ≠ .completed ∧ paid.orderStatus = .completed then [db.orderCompleted orderId actorId paid] else [])

structure RecordedPayment where
  order : OrderEntity
  tender : OrderTenderEntity
  replayed : Bool

/-- The transaction of `recordPayment`. -/
def recordPayment (orderId : Uuid) (ids : PaymentIds) (db : LifecycleDb) (actorId : Uuid) (scope : BranchScope)
    (key : String) (dto : RecordPaymentDto) : Except Failure (LifecycleDb × RecordedPayment) := do
  let order ← required (db.visible scope) (orderNotFound orderId)
  match db.tenders.find? (·.idempotencyKey = tenderKey orderId key) with
  | some existing => return (db, ⟨order, existing, true⟩)
  | none =>
    order.assertPayable dto
    let shiftId ← cashShift db.cash actorId order.branchId ids.latestShift dto
    let cash ← recordCash db.cash orderId actorId ids dto shiftId
    let tender := dto.tender ids actorId (tenderKey orderId key) shiftId
    let paid := order.withPayment dto
    return ({ db with
      order := some paid, cash, tenders := db.tenders ++ [tender]
      history := db.history ++
        [transitionOf order paid orderId actorId (if dto.refund then "REFUND_RECORDED" else "PAYMENT_RECORDED")]
      events := db.events ++ db.paymentEvents orderId actorId order paid dto shiftId }, ⟨paid, tender, false⟩)

end Sales
