import RetailApi.Sales.Fulfillments

/-! The two ways an order is paid back: the order screen records a negative payment, and the
returns service requests the refund of a return. Both write the same row of `orders`. -/

namespace Sales

open Transaction

/-- The tables of the returns service with the tenders of all orders. -/
structure RefundsDb extends ReturnsDb where
  /-- A row of `order_tenders` with its `order_id`. -/
  tenders : List (Uuid × OrderTenderEntity) := []
  events : List (Uuid × LifecycleEvent) := []

namespace RefundsDb

/-- An order as `recordPayment` reads it. -/
def lifecycle (db : RefundsDb) (orderId : Uuid) : LifecycleDb where
  order := db.orders.lookup orderId
  items := (db.itemsOf orderId).map (·.2)
  itemIds := (db.itemsOf orderId).map (·.1)
  tenders := db.tenders.map (·.2)
  cash := db.cash

/-- Writes back what `recordPayment` changed: the row, the drawer, and what it added. -/
def withLifecycle (db : RefundsDb) (orderId : Uuid) (after : LifecycleDb) : RefundsDb :=
  { db with
    orders := match after.order with
      | some order => db.orders.insert orderId order
      | none => db.orders
    tenders := db.tenders ++ (after.tenders.drop db.tenders.length).map fun tender => (orderId, tender)
    cash := after.cash
    statusHistory := db.statusHistory ++ after.history
    events := db.events ++ after.events.map fun event => (orderId, event) }

end RefundsDb

inductive RefundOperation where
  | returns (operation : ReturnOperation)
  | recordPayment (orderId : Uuid) (ids : PaymentIds) (actorId : Uuid) (scope : BranchScope) (key : String)
      (dto : RecordPaymentDto)

def recordOrderPayment (db : RefundsDb) (orderId : Uuid) (ids : PaymentIds) (actorId : Uuid) (scope : BranchScope)
    (key : String) (dto : RecordPaymentDto) : Except Failure RefundsDb := do
  let recorded ← recordPayment orderId ids (db.lifecycle orderId) actorId scope key dto
  return db.withLifecycle orderId recorded.1

def performRefund (db : RefundsDb) : RefundOperation → RefundsDb
  | .returns operation => { db with toReturnsDb := performReturn db.toReturnsDb operation }
  | .recordPayment orderId ids actorId scope key dto =>
    commit db (recordOrderPayment db orderId ids actorId scope key dto)

end Sales
