import RetailApi.Base.JsFraction
import RetailApi.Base.Table
import RetailApi.Inventory.Domain

/-! The tables of one tenant's warehouse store and the statements that write them.
A row that carries a `CHECK` constraint is a subtype, so the store never holds a row
the database would refuse. -/

namespace Inventory

open Transaction

/-- `UQ_stock_balance_tenant_wh_sku`: balances are keyed by warehouse and SKU. -/
structure Key where
  warehouseId : Uuid
  skuId : Uuid
deriving DecidableEq

inductive WarehouseKind where
  | branch | central | quarantine
deriving DecidableEq

inductive ActiveStatus where
  | active | inactive
deriving DecidableEq

structure Warehouse where
  code : String
  kind : WarehouseKind
  branchId : Option Uuid
  isDefault : Bool
  status : ActiveStatus

/-- A row of `catalog_sku_projection`. -/
structure CatalogSku where
  skuId : Uuid
  skuCode : Text
  name : String
  status : ActiveStatus

/-- The bound of a `NUMERIC(18,3)` column, in thousandths. -/
def numericLimit : Int := 10 ^ 18

/-- The columns of `stock_balance`. -/
structure Balance where
  onHandQty : Int := 0
  reservedQty : Int := 0
  inTransitQty : Int := 0
  avgUnitCost : Int := 0
  valuationAmount : Int := 0
  version : Nat := 0
deriving DecidableEq

/-- `CHK_stock_balance_non_negative`, `CHK_stock_balance_reserved_lte_on_hand`,
`CHK_stock_balance_valuation_non_negative` and the column widths. -/
def Balance.Legal (balance : Balance) : Prop :=
  (0 ≤ balance.onHandQty ∧ 0 ≤ balance.reservedQty ∧ 0 ≤ balance.inTransitQty) ∧
    balance.reservedQty ≤ balance.onHandQty ∧ (0 ≤ balance.avgUnitCost ∧ 0 ≤ balance.valuationAmount) ∧
    balance.onHandQty < numericLimit ∧ balance.inTransitQty < numericLimit

instance (balance : Balance) : Decidable balance.Legal := inferInstanceAs (Decidable (_ ∧ _))

abbrev BalanceRow := { balance : Balance // balance.Legal }

inductive MovementType where
  | manualReceipt | purchaseReceipt | returnReceipt | manualIssue
  | transferDispatch | transferReceipt | transferCancel | transferLostIn | transferLoss
  | stocktakeAdjustment | saleCommit
deriving DecidableEq

inductive ReferenceType where
  | stockReceipt | stockIssue | stockTransfer | stockTake | order | transfer | return_
deriving DecidableEq

/-- The columns of `stock_balance_ledger` that the service computes. -/
structure LedgerRow where
  key : Key
  movementType : MovementType
  qtyBefore : Int
  qtyDelta : Int
  onHandAfter : Int
  reservedAfter : Int
  unitCost : Int
  avgCostAfter : Int
  referenceType : ReferenceType
  referenceId : Uuid
deriving DecidableEq

/-- `CHK_stock_balance_ledger_nonzero` and the column widths. -/
def LedgerRow.Legal (row : LedgerRow) : Prop :=
  row.qtyDelta ≠ 0 ∧ row.onHandAfter < numericLimit

instance (row : LedgerRow) : Decidable row.Legal := inferInstanceAs (Decidable (_ ∧ _))

inductive ReceiptSource where
  | manual | purchaseOrder | return_ | adjustment
deriving DecidableEq

inductive ReceiptStatus where
  | draft | pendingApproval | posted | cancelled
deriving DecidableEq

instance : ToString ReceiptStatus where
  toString
    | .draft => "DRAFT" | .pendingApproval => "PENDING_APPROVAL" | .posted => "POSTED" | .cancelled => "CANCELLED"

/-- A row of `stock_receipt_item`; `CHK_stock_receipt_item_qty`. -/
structure StockReceiptItem where
  skuId : Uuid
  qty : Int
  unitCost : Int
  legal : 0 < qty ∧ 0 ≤ unitCost ∧ qty < numericLimit

structure StockReceipt where
  code : String
  warehouseId : Uuid
  sourceType : ReceiptSource
  purchaseOrderId : Option Uuid
  supplierId : Option Uuid
  status : ReceiptStatus
  idempotencyKey : Option String
  items : List StockReceiptItem

inductive IssueStatus where
  | draft | posted | cancelled
deriving DecidableEq

instance : ToString IssueStatus where
  toString
    | .draft => "DRAFT" | .posted => "POSTED" | .cancelled => "CANCELLED"

inductive IssueReason where
  | manualWithdrawal | damaged | disposal | sample | supplierReturn

/-- A row of `stock_issue_item`; `CHK_stock_issue_item_qty`. Its cost is only ever an
average of a balance row, which is not negative. -/
structure StockIssueItem where
  skuId : Uuid
  qty : Int
  unitCost : Int
  legal : 0 < qty ∧ qty < numericLimit

structure StockIssue where
  code : String
  warehouseId : Uuid
  reasonCode : IssueReason
  status : IssueStatus
  idempotencyKey : Option String
  items : List StockIssueItem

inductive TransferStatus where
  | draft | dispatched | partiallyReceived | received | discrepancy | cancelled
deriving DecidableEq

instance : ToString TransferStatus where
  toString
    | .draft => "DRAFT" | .dispatched => "DISPATCHED" | .partiallyReceived => "PARTIALLY_RECEIVED"
    | .received => "RECEIVED" | .discrepancy => "DISCREPANCY" | .cancelled => "CANCELLED"

/-- A row of `stock_transfer_item`; `CHK_stock_transfer_item_qty`. -/
structure StockTransferItem where
  skuId : Uuid
  transferQty : Int
  dispatchedQty : Int
  receivedQty : Int
  discrepancyQty : Int
  unitCost : Int
  legal : 0 < transferQty ∧ 0 ≤ dispatchedQty ∧ 0 ≤ receivedQty ∧ 0 ≤ discrepancyQty ∧
    receivedQty + discrepancyQty ≤ dispatchedQty ∧ 0 ≤ unitCost ∧ transferQty < numericLimit

def StockTransferItem.remaining (item : StockTransferItem) : Int :=
  item.dispatchedQty - item.receivedQty - item.discrepancyQty

/-- A transfer with its lines; `CHK_stock_transfer_warehouses` and
`UQ_stock_transfer_item_sku`. -/
structure StockTransfer where
  code : String
  fromWarehouseId : Uuid
  toWarehouseId : Uuid
  status : TransferStatus
  items : List StockTransferItem
  apart : fromWarehouseId ≠ toWarehouseId
  distinct : (items.map (·.skuId)).Nodup

inductive StocktakeStatus where
  | draft | counting | approved | cancelled
deriving DecidableEq

instance : ToString StocktakeStatus where
  toString
    | .draft => "DRAFT" | .counting => "COUNTING" | .approved => "APPROVED" | .cancelled => "CANCELLED"

/-- A row of `stock_take_item`; `CHK_stock_take_item_counted`. -/
structure StocktakeItem where
  skuId : Uuid
  snapshotOnHandQty : Int
  snapshotReservedQty : Int
  snapshotVersion : Nat
  countedQty : Option Int
  varianceQty : Option Int
  legal : ∀ counted, countedQty = some counted → 0 ≤ counted

/-- A stocktake with its lines; `UQ_stock_take_item_sku`. -/
structure Stocktake where
  code : String
  warehouseId : Uuid
  status : StocktakeStatus
  items : List StocktakeItem
  distinct : (items.map (·.skuId)).Nodup

inductive ReservationState where
  | held | committed | released | expired
deriving DecidableEq

instance : ToString ReservationState where
  toString
    | .held => "HELD" | .committed => "COMMITTED" | .released => "RELEASED" | .expired => "EXPIRED"

inductive CallerService where
  | sales | inventory | integration
deriving DecidableEq

/-- A row of `warehouse_reservation_line`; `CHK_warehouse_reservation_line_qty`. -/
structure ReservationLine where
  key : Key
  qty : Int
  legal : 0 < qty

/-- The payload `hashReservationRequest` digests. SHA-256 is taken as free of
collisions, so the stored digest is the payload itself. -/
structure ReservationPayload where
  callerService : CallerService
  sourceRefType : ReferenceType
  sourceRefId : Uuid
  branchId : Option Text
  noExpiry : Bool
  lines : List (Option Text × Text × Int)
deriving DecidableEq

structure WarehouseReservation where
  callerService : CallerService
  idempotencyKey : String
  requestSha256 : ReservationPayload
  sourceRefType : ReferenceType
  sourceRefId : Uuid
  state : ReservationState
  expiresAt : Option Nat
  lines : List ReservationLine

inductive PurchaseOrderStatus where
  | draft | approved | partiallyReceived | received | cancelled
deriving DecidableEq

instance : ToString PurchaseOrderStatus where
  toString
    | .draft => "DRAFT" | .approved => "APPROVED" | .partiallyReceived => "PARTIALLY_RECEIVED"
    | .received => "RECEIVED" | .cancelled => "CANCELLED"

/-- A row of `purchase_order_item`; `CHK_purchase_order_item_qty`. -/
structure PurchaseOrderItem where
  skuId : Uuid
  orderedQty : Int
  receivedQty : Int
  unitCost : Int
  legal : 0 < orderedQty ∧ 0 ≤ receivedQty ∧ receivedQty ≤ orderedQty ∧ 0 ≤ unitCost

/-- A purchase order with its lines; `UQ_purchase_order_item_sku`. -/
structure PurchaseOrder where
  code : String
  supplierId : Uuid
  warehouseId : Uuid
  status : PurchaseOrderStatus
  totalAmount : Int
  items : List PurchaseOrderItem
  distinct : (items.map (·.skuId)).Nodup

/-- Events in the outbox. `stockChanged` carries the ledger row it announces. -/
inductive Event where
  | stockChanged (row : LedgerRow)
  | stockBelowMin (key : Key) (available minQuantity : Int)
  | stockReceived (receiptId : Uuid) (purchaseOrderId supplierId : Option Uuid) (totalAmount : Int)
  | stockIssued (issueId : Uuid)
  | transferDispatched (transferId : Uuid)
  | transferReceived (transferId : Uuid) (status : TransferStatus)
  | stocktakeAdjusted (stockTakeId : Uuid)
  | reservationConfirmed (reservationId : Uuid)
  | reservationCommitted (reservationId : Uuid)
  | reservationReleased (reservationId : Uuid)
  | reservationExpired (reservationId : Uuid)
  | purchaseOrderApproved (purchaseOrderId supplierId : Uuid) (totalAmount : Int)

/-- Master data and documents: everything but the stock books and the outbox. -/
structure Records where
  warehouses : Table Uuid Warehouse := ∅
  catalogSkus : List CatalogSku := []
  /-- `min_qty` of `stock_threshold` -/
  thresholds : Table Key Int := ∅
  suppliers : Table Uuid ActiveStatus := ∅
  receipts : Table Uuid StockReceipt := ∅
  issues : Table Uuid StockIssue := ∅
  transfers : Table Uuid StockTransfer := ∅
  stocktakes : Table Uuid Stocktake := ∅
  reservations : Table Uuid WarehouseReservation := ∅
  purchaseOrders : Table Uuid PurchaseOrder := ∅

structure Store extends Records where
  balances : Table Key BalanceRow := ∅
  ledger : List LedgerRow := []
  outbox : List Event := []

namespace Store

/-- The balance columns of a key, zero where there is no row. -/
def balance (store : Store) (key : Key) : Balance :=
  match store.balances.lookup key with
  | some row => row.1
  | none => {}

def onHandQty (store : Store) (key : Key) : Int := (store.balance key).onHandQty
def reservedQty (store : Store) (key : Key) : Int := (store.balance key).reservedQty
def inTransitQty (store : Store) (key : Key) : Int := (store.balance key).inTransitQty

/-- Writes one balance row, if the row constraints allow it. -/
def writeBalance (store : Store) (key : Key) (balance : Balance) : Except Failure Store :=
  if legal : balance.Legal then
    .ok { store with balances := store.balances.insert key ⟨balance, legal⟩ }
  else .error (.database "CHK_stock_balance")

/-- `INSERT INTO stock_balance ... ON CONFLICT DO UPDATE SET ...` -/
def upsertBalance (store : Store) (key : Key) (fresh : Balance) (change : Balance → Balance) : Except Failure Store :=
  match store.balances.lookup key with
  | none => store.writeBalance key fresh
  | some row => store.writeBalance key { change row.1 with version := row.1.version + 1 }

/-- `UPDATE stock_balance SET ... WHERE key AND guard`; no matching row changes nothing. -/
def updateBalance (store : Store) (key : Key) (guard : Balance → Bool) (change : Balance → Balance) :
    Except Failure Store :=
  match store.balances.lookup key with
  | none => .ok store
  | some row =>
    if guard row.1 then store.writeBalance key { change row.1 with version := row.1.version + 1 } else .ok store

/-- `UPDATE stock_balance ... RETURNING`, whose first row the caller then reads. -/
def updateBalanceReturning (store : Store) (key : Key) (guard : Balance → Bool) (change : Balance → Balance) :
    Except Failure (Store × Balance) := do
  let row ← required (store.balances.lookup key) .undefinedRow
  ensure (guard row.1 = true) .undefinedRow
  let store ← store.updateBalance key guard change
  return (store, store.balance key)

def insertLedger (store : Store) (row : LedgerRow) : Except Failure Store := do
  ensure row.Legal (.database "CHK_stock_balance_ledger_nonzero")
  return { store with ledger := store.ledger ++ [row] }

def emit (store : Store) (event : Event) : Store :=
  { store with outbox := store.outbox ++ [event] }

/-- A ledger row together with its `inventory.stock.changed` event. -/
def recordMovement (store : Store) (row : LedgerRow) : Except Failure Store := do
  let store ← store.insertLedger row
  return store.emit (.stockChanged row)

/-- `BigInt(Math.round(Number(minQty) * 1000))` of a stored minimum, in thousandths. -/
def minMilliOf (minQty : Int) : Int :=
  JsNumber.mathRound (JsNumber.nearest (JsNumber.nearest (minQty / 1000) * 1000))

/-- D21: one alert when available stock falls from at or above the minimum to below it. -/
def emitBelowMinOnCrossing (store : Store) (key : Key) (availableBefore availableAfter : Int) : Store :=
  if availableBefore ≤ availableAfter then store
  else
    match (store.thresholds.lookup key).map minMilliOf with
    | none => store
    | some minMilli =>
      if 0 < minMilli ∧ minMilli ≤ availableBefore ∧ availableAfter < minMilli then
        store.emit (.stockBelowMin key availableAfter minMilli)
      else store

end Store

def assertActiveWarehouse (store : Store) (warehouseId : Uuid) : Except Failure Warehouse := do
  let warehouse ← required (store.warehouses.lookup warehouseId)
    (.domain .warehouseNotFound s!"Warehouse {warehouseId} not found" 404)
  ensure (warehouse.status = .active) (.domain .warehouseInactive
    s!"Warehouse {warehouse.code} ({warehouseId}) is INACTIVE and cannot accept stock operations" 409)
  return warehouse

/-- The stored SKU a text names: `sku_id::text = $2 OR sku_code = $2`, first row found.
A text the projection does not know stands for itself. -/
def assertCatalogSkuEligible (store : Store) (skuId : Text) : Except Failure Text :=
  match store.catalogSkus.find? fun row => Text.ofUuid row.skuId = skuId ∨ row.skuCode = skuId with
  | none => .ok skuId
  | some row => do
    ensure (row.status = .active) (.domain .skuNotSellable
      s!"SKU {skuId} ({row.skuCode}) has status INACTIVE and is not eligible for stock operations" 409)
    return Text.ofUuid row.skuId

end Inventory
