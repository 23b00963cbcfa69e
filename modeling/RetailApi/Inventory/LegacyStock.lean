import RetailApi.Inventory.Operations

/-! The older stock store, by branch and SKU code, and the consumer of `sales.order.completed`, which skips an order of the
warehouse flow and deducts any other from its hold or from what other holds leave free. -/

namespace Inventory

open Transaction

structure LegacyKey where
  branchId : Uuid
  sku : String
deriving DecidableEq

/-- The columns of `stock_item`. -/
structure StockItem where
  quantityOnHand : Int
  quantityReserved : Int

/-- `CHK_stock_item_quantities` -/
def StockItem.Legal (item : StockItem) : Prop :=
  0 ≤ item.quantityReserved ∧ item.quantityReserved ≤ item.quantityOnHand

instance (item : StockItem) : Decidable item.Legal := inferInstanceAs (Decidable (_ ∧ _))

structure SkuLine where
  sku : String
  quantity : Int
deriving DecidableEq

inductive StockReservationStatus where
  | held | committed | released | expired
deriving DecidableEq

/-- A hold of the older store with its `stock_reservation_item` rows, one per SKU and of a positive quantity. -/
structure StockReservation where
  branchId : Uuid
  status : StockReservationStatus
  items : List SkuLine
  distinct : (items.map (·.sku)).Nodup
  positive : ∀ line ∈ items, 0 < line.quantity

inductive LedgerRefType where
  | sale | saleShortfall
deriving DecidableEq

/-- A row of `inventory_ledger`. -/
structure InventoryLedgerRow where
  branchId : Uuid
  sku : String
  changeQty : Int
  balanceAfter : Int
  refType : LedgerRefType
  refId : Uuid
deriving DecidableEq

/-- The older tables of one tenant; `UQ_stock_reservation_tenant_order` keys the holds by order. -/
structure LegacyStock where
  stockItems : Table LegacyKey { item : StockItem // item.Legal } := ∅
  reservations : Table Uuid StockReservation := ∅
  ledger : List InventoryLedgerRow := []

namespace LegacyStock

def stockItem (legacy : LegacyStock) (key : LegacyKey) : Option StockItem := (legacy.stockItems.lookup key).map (·.1)

/-- `quantity_on_hand - quantity_reserved`, nothing where there is no row. -/
def free (legacy : LegacyStock) (key : LegacyKey) : Int :=
  ((legacy.stockItem key).map fun item => item.quantityOnHand - item.quantityReserved).getD 0

def reservedQty (legacy : LegacyStock) (key : LegacyKey) : Int :=
  ((legacy.stockItem key).map (·.quantityReserved)).getD 0

def insertLedger (legacy : LegacyStock) (row : InventoryLedgerRow) : LegacyStock :=
  { legacy with ledger := legacy.ledger ++ [row] }

def writeStockItem (legacy : LegacyStock) (key : LegacyKey) (item : StockItem) : Except Failure LegacyStock :=
  if legal : item.Legal then .ok { legacy with stockItems := legacy.stockItems.insert key ⟨item, legal⟩ }
  else .error (.database "CHK_stock_item_quantities")

end LegacyStock

/-- What the handler reads of `OrderCompletedPayload`. -/
structure OrderCompletedPayload where
  orderId : Uuid
  branchId : Uuid
  items : List SkuLine

def SkuLine.combine (existing line : SkuLine) : SkuLine := { existing with quantity := existing.quantity + line.quantity }

/-- `compareSku`: SKUs compare by their bytes. -/
def orderLines (lines : List SkuLine) : List SkuLine := lines.insertionSort fun left right => left.sku ≤ right.sku

/-- One line per SKU, in the order in which stock rows are locked. -/
def mergeLines (lines : List SkuLine) : List SkuLine :=
  orderLines (lines.foldl (fun merged line => Merge.insert SkuLine.sku SkuLine.combine line merged) [])

/-- `UPDATE stock_item ... RETURNING quantity_on_hand`, and the ledger row of the sale. -/
def deduct (legacy : LegacyStock) (orderId branchId : Uuid) (sku : String) (take fromHold : Int) :
    Except Failure LegacyStock := do
  let item ← required (legacy.stockItem ⟨branchId, sku⟩) .undefinedRow
  let written ← legacy.writeStockItem ⟨branchId, sku⟩
    ⟨item.quantityOnHand - take, item.quantityReserved - fromHold⟩
  return written.insertLedger ⟨branchId, sku, -take, item.quantityOnHand - take, .sale, orderId⟩

/-- A line that nothing is held for takes at most what other holds leave free; the gap is on record. -/
def deductFree (orderId branchId : Uuid) (legacy : LegacyStock) (line : SkuLine) : Except Failure LegacyStock :=
  let free := legacy.free ⟨branchId, line.sku⟩
  let take := min line.quantity (max 0 free)
  let noted := if take < line.quantity then legacy.insertLedger ⟨branchId, line.sku, 0, free, .saleShortfall, orderId⟩
    else legacy
  if take = 0 then .ok noted else deduct noted orderId branchId line.sku take 0

def deductHeld (orderId branchId : Uuid) (legacy : LegacyStock) (line : SkuLine) : Except Failure LegacyStock :=
  deduct legacy orderId branchId line.sku line.quantity line.quantity

def LegacyStock.markCommitted (legacy : LegacyStock) (orderId : Uuid) (row : StockReservation) : LegacyStock :=
  { legacy with reservations := legacy.reservations.insert orderId { row with status := .committed } }

/-- `ReservationsService.commit` -/
def commitCompleted (legacy : LegacyStock) (order : OrderCompletedPayload) : Except Failure LegacyStock :=
  match legacy.reservations.lookup order.orderId with
  | none => (mergeLines order.items).foldlM (deductFree order.orderId order.branchId) legacy
  | some row =>
    match row.status with
    | .committed => .ok legacy
    | .held => do
      let deducted ← (orderLines row.items).foldlM (deductHeld order.orderId row.branchId) legacy
      return deducted.markCommitted order.orderId row
    | .released | .expired => do
      let deducted ← (mergeLines order.items).foldlM (deductFree order.orderId row.branchId) legacy
      return deducted.markCommitted order.orderId row

/-- The inventory database: the warehouse store, the older store and the inbox. -/
structure InventoryDb where
  store : Store := {}
  legacy : LegacyStock := {}
  inbox : List Uuid := []

/-- `source_ref_type = 'ORDER' AND source_ref_id = $2` -/
def hasWarehouseReservation (store : Store) (orderId : Uuid) : Bool :=
  store.reservations.rows.any fun row => row.sourceRefType = .order ∧ row.sourceRefId = orderId

/-- `OrderCompletedHandler.onCompleted` -/
def onCompleted (db : InventoryDb) (order : OrderCompletedPayload) : Except Failure InventoryDb :=
  if hasWarehouseReservation db.store order.orderId then .ok db
  else do
    let legacy ← commitCompleted db.legacy order
    return { db with legacy }

structure CompletedEvent where
  id : Uuid
  payload : OrderCompletedPayload

/-- `handleBody`: the inbox row and the handler in one transaction; a duplicate is skipped, a failure is redelivered. -/
def handleCompleted (db : InventoryDb) (event : CompletedEvent) : InventoryDb :=
  if event.id ∈ db.inbox then db
  else commit db (onCompleted { db with inbox := db.inbox ++ [event.id] } event.payload)

end Inventory
