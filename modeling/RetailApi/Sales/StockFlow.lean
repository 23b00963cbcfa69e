import RetailApi.Inventory.LegacyStock
import RetailApi.Sales.CheckoutSystem
import RetailApi.Sales.Orders

/-! What a POS sale tells inventory: the reservation it asks for under the id of its workflow,
and the completed order it announces under the id of the order. -/

namespace Sales

open Transaction Inventory

def CalculatedOrderLine.skuQty (line : CalculatedOrderLine) : Except Failure SkuQty := do
  let millis ← parseQtyMillis (formatQtyMillis line.baseQty)
  return ⟨inventoryStockKey (some line.variantId) line.skuCode, millis⟩

/-- The request of `executeReserveStep`; its source is the workflow. -/
def checkoutReserveRequest (checkoutId branchId : Uuid) (lines : List ReservationLineInput) :
    CreateWarehouseReservationRequest where
  callerService := .sales
  sourceRefType := .order
  sourceRefId := checkoutId
  branchId := some (.ofUuid branchId)
  lines := lines

/-- The `sales.order.completed` event of an order. -/
def Order.completedPayload (order : Order) : Inventory.OrderCompletedPayload where
  orderId := order.id
  branchId := order.branchId
  items := order.items.map fun item => { sku := item.line.skuCode, quantity := roundedQuantity item.line.qty }

/-- What a POS sale does to the warehouse store: its lines are reserved and the reservation is committed. -/
def sellFromWarehouse (store : Store) (reservationId : Uuid) (now : Nat) (idempotencyKey : String)
    (req : CreateWarehouseReservationRequest) : Store :=
  perform (perform store (.reserve reservationId now idempotencyKey req))
    (.commitReservation reservationId none)

end Sales
