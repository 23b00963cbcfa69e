import RetailApi.Insight.Projections

/-! The events that sales emits for an order, as they reach the projections. -/

namespace Insight

/-- `SalesOrderLifecycleEventPayload`, of an order of a branch. -/
structure LifecyclePayload where
  id : Uuid
  channelType : String
  subtotal : Scaled
  discountTotal : Scaled
  taxTotal : Scaled
  grandTotal : Scaled
  actorId : String
  occurredAt : Int
  sentAt : Int

/-- `OrderCompletedPayload`; an order has items. The older services leave the amounts out. -/
structure CompletedPayload where
  id : Uuid
  customerId : Option (Option Uuid) := none
  cachedGroupId : Option String := none
  channelType : String
  subtotal : Option Scaled := none
  discountTotal : Option Scaled := none
  taxTotal : Option Scaled := none
  grandTotal : Option Scaled := none
  totalAmount : Scaled
  createdBy : String
  completedAt : Int
  sentAt : Int
  items : List OrderItemEventInput
  filled : items ≠ []

def CompletedPayload.Priced (payload : CompletedPayload) : Prop :=
  payload.subtotal.isSome ∧ payload.discountTotal.isSome ∧ payload.taxTotal.isSome ∧ payload.grandTotal.isSome

def lifecycleEvent (orderId branchId : Uuid) (status : OrderStatus) (payload : LifecyclePayload) : OrderEvent :=
  { id := some payload.id
    status
    orderId
    branchId := some branchId
    channelType := some payload.channelType
    actorId := some payload.actorId
    subtotal := some payload.subtotal
    discountTotal := some payload.discountTotal
    taxTotal := some payload.taxTotal
    grandTotal := some payload.grandTotal
    occurredAt := some payload.occurredAt
    sentAt := payload.sentAt }

def completedEvent (orderId branchId : Uuid) (payload : CompletedPayload) : OrderEvent :=
  { id := some payload.id
    status := .completed
    orderId
    branchId := some branchId
    channelType := some payload.channelType
    customerId := payload.customerId
    cachedGroupId := payload.cachedGroupId
    createdBy := some payload.createdBy
    subtotal := payload.subtotal
    discountTotal := payload.discountTotal
    taxTotal := payload.taxTotal
    grandTotal := payload.grandTotal
    totalAmount := some payload.totalAmount
    completedAt := some payload.completedAt
    sentAt := payload.sentAt
    items := payload.items }

/-- `sales.checkout.completed`: a lifecycle payload that names the customer, without items. -/
def checkoutEvent (orderId branchId : Uuid) (customerId : Option Uuid) (cachedGroupId : Option String)
    (payload : LifecyclePayload) : OrderEvent :=
  { lifecycleEvent orderId branchId .completed payload with customerId := some customerId, cachedGroupId }

inductive OrderEnd where
  | completed (payload : CompletedPayload) (priced : payload.Priced)
  | cancelled (payload : LifecyclePayload)

def OrderEnd.event (orderId branchId : Uuid) : OrderEnd → OrderEvent
  | .completed payload _ => completedEvent orderId branchId payload
  | .cancelled payload => lifecycleEvent orderId branchId .cancelled payload

/-- The orders of sales by the events they emit: an order that is created, perhaps confirmed, and perhaps ended; a sale at the
counter; and a sale of the older services. A completed order is never cancelled. -/
inductive EmittedOrder where
  | lifecycle (created : LifecyclePayload) (confirmed : Option LifecyclePayload) (ended : Option OrderEnd)
  | counter (completed : CompletedPayload) (checkout : LifecyclePayload) (customerId : Option Uuid) (cachedGroupId : Option String)
  | sold (completed : CompletedPayload)

def EmittedOrder.events (orderId branchId : Uuid) : EmittedOrder → List OrderEvent
  | .lifecycle created confirmed ended => lifecycleEvent orderId branchId .created created ::
    (confirmed.map (lifecycleEvent orderId branchId .confirmed)).toList ++ (ended.map (·.event orderId branchId)).toList
  | .counter completed checkout customerId cachedGroupId =>
    [completedEvent orderId branchId completed, checkoutEvent orderId branchId customerId cachedGroupId checkout]
  | .sold completed => [completedEvent orderId branchId completed]

end Insight
