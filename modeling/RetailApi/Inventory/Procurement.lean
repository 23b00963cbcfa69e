import RetailApi.Inventory.Receiving

/-! Purchase orders: ordered lines, and receiving against them through a posted stock receipt. -/

namespace Inventory

open Transaction

structure CreatePurchaseOrderItem where
  skuId : Text
  orderedQty : String
  unitCost : Int
  conversionFactor : Option String := none

structure CreatePurchaseOrderDto where
  code : String
  supplierId : Uuid
  warehouseId : Uuid
  items : List CreatePurchaseOrderItem

structure ReceivePurchaseOrderLine where
  skuId : Text
  qty : String
  unitCost : Option Int := none

/-- Duplicate SKUs of an order add up and keep the last cost. -/
def mergePurchaseOrderItem (merged : List MergedReceiptLine) (item : CreatePurchaseOrderItem) :
    Except Failure (List MergedReceiptLine) := do
  let _ ← parseConversionFactorToTenThousandths item.conversionFactor
  let baseQtyMilli ← convertToBaseQtyMilli item.orderedQty item.conversionFactor
  let unitCostVnd ← parseMoneyToVnd item.unitCost
  return Merge.insert MergedReceiptLine.skuId
    (fun existing line => { existing with
      baseQtyMilli := existing.baseQtyMilli + line.baseQtyMilli, unitCostVnd := line.unitCostVnd })
    ⟨item.skuId, baseQtyMilli, unitCostVnd⟩ merged

/-- A line as `CHK_purchase_order_item_qty` admits it. -/
def checkedPurchaseOrderItem (skuId : Uuid) (orderedQty receivedQty unitCost : Int) :
    Except Failure PurchaseOrderItem :=
  if legal : 0 < orderedQty ∧ 0 ≤ receivedQty ∧ receivedQty ≤ orderedQty ∧ 0 ≤ unitCost then
    .ok { skuId, orderedQty, receivedQty, unitCost, legal }
  else .error (.database "CHK_purchase_order_item_qty")

def createPurchaseOrder (store : Store) (poId : Uuid) (dto : CreatePurchaseOrderDto) : Except Failure Store := do
  let _ ← assertActiveWarehouse store dto.warehouseId
  let supplier ← required (store.suppliers.lookup dto.supplierId)
    (.domain .supplierNotFound s!"Supplier {dto.supplierId} not found" 404)
  ensure (supplier = .active) (.domain .supplierInactive s!"Supplier {dto.supplierId} is INACTIVE" 409)
  let merged ← dto.items.foldlM mergePurchaseOrderItem []
  let sortedLines := merged.insertionSort fun left right => left.skuId.le right.skuId = true
  let totalAmount ← vndToNumber (sortedLines.map fun line => valueOf line.baseQtyMilli line.unitCostVnd).sum
  ensure (store.purchaseOrders.lookup poId = none) (.database "PK_purchase_order_id")
  ensure (∀ row ∈ store.purchaseOrders.rows, row.code ≠ dto.code) (.database "UQ_purchase_order_tenant_code")
  let items ← sortedLines.mapM fun line => do
    let skuId ← line.skuId.toUuid
    let unitCost ← vndToNumber line.unitCostVnd
    checkedPurchaseOrderItem skuId line.baseQtyMilli 0 unitCost
  if distinct : (items.map (·.skuId)).Nodup then
    let order : PurchaseOrder := {
      code := dto.code, supplierId := dto.supplierId, warehouseId := dto.warehouseId
      status := .draft, totalAmount, items, distinct }
    return { store with purchaseOrders := store.purchaseOrders.insert poId order }
  else throw (.database "UQ_purchase_order_item_sku")

def findPurchaseOrder (store : Store) (poId : Uuid) : Except Failure PurchaseOrder :=
  required (store.purchaseOrders.lookup poId)
    (.domain .purchaseOrderNotFound s!"Purchase order {poId} not found" 404)

def Store.putPurchaseOrder (store : Store) (poId : Uuid) (order : PurchaseOrder) : Store :=
  { store with purchaseOrders := store.purchaseOrders.insert poId order }

def approvePurchaseOrder (store : Store) (poId : Uuid) : Except Failure Store := do
  let header ← findPurchaseOrder store poId
  if header.status = .approved then return store
  ensure (header.status = .draft)
    (.domain .purchaseOrderInvalidState s!"Cannot approve purchase order in state {header.status}" 409)
  let store := store.putPurchaseOrder poId { header with status := .approved }
  return store.emit (.purchaseOrderApproved poId header.supplierId header.totalAmount)

theorem PurchaseOrder.setItem_skus (items : List PurchaseOrderItem) (item : PurchaseOrderItem) :
    (items.map fun old => if old.skuId = item.skuId then item else old).map (·.skuId) = items.map (·.skuId) :=
  Rows.keys_save item items

/-- `UPDATE purchase_order_item`: the line of the SKU becomes `item`. -/
def PurchaseOrder.setItem (order : PurchaseOrder) (item : PurchaseOrderItem) : PurchaseOrder :=
  { order with
    items := order.items.map fun old => if old.skuId = item.skuId then item else old
    distinct := by
      rw [PurchaseOrder.setItem_skus]
      exact order.distinct }

/-- `itemBySku.get(skuId)`: the lines as they were read before the loop, keyed by the printed id. -/
def itemBySku (items : List PurchaseOrderItem) (skuId : Text) : Option PurchaseOrderItem :=
  items.find? fun item => Text.ofUuid item.skuId = skuId

/-- One request line, validated against the lines `header` read before the loop. -/
def receivePurchaseOrderLine (header : PurchaseOrder) (progress : PurchaseOrder × List CreateStockReceiptItem)
    (reqLine : ReceivePurchaseOrderLine) : Except Failure (PurchaseOrder × List CreateStockReceiptItem) := do
  let dbItem ← required (itemBySku header.items reqLine.skuId) (.domain .overReceiptNotAllowed
    s!"SKU {reqLine.skuId} is not on purchase order {header.code}" 409)
  let remaining := dbItem.orderedQty - dbItem.receivedQty
  let receiveNow ← parseQtyToMilli reqLine.qty false false
  ensure (receiveNow ≤ remaining) (.domain .overReceiptNotAllowed
    (s!"Cannot receive {formatMilliToQty receiveNow} for SKU {reqLine.skuId}; remaining ordered quantity is "
      ++ s!"{formatMilliToQty remaining}") 409)
  let unitCost ← parseMoneyToVnd (reqLine.unitCost.getD dbItem.unitCost)
  let received ← checkedPurchaseOrderItem dbItem.skuId dbItem.orderedQty (dbItem.receivedQty + receiveNow)
    dbItem.unitCost
  let receiptItem : CreateStockReceiptItem :=
    { skuId := reqLine.skuId, qty := formatMilliToQty receiveNow, unitCost := some unitCost }
  return (progress.1.setItem received, progress.2 ++ [receiptItem])

/-- What is received when the request lists no lines: everything still open. -/
def openPurchaseOrderLine (item : PurchaseOrderItem) : ReceivePurchaseOrderLine :=
  { skuId := Text.ofUuid item.skuId, qty := formatMilliToQty (item.orderedQty - item.receivedQty)
    unitCost := some item.unitCost }

/-- Receives goods against a purchase order; `receiptId` and `receiptCode` are those of the receipt it posts. -/
def receivePurchaseOrder (store : Store) (poId : Uuid) (receiptId : Uuid) (receiptCode : String)
    (lines : List ReceivePurchaseOrderLine) (idempotencyKey : Option String) : Except Failure Store := do
  let header ← findPurchaseOrder store poId
  match findReceiptByKey store (cleanKey idempotencyKey) with
  | some (_, replayed) =>
    ensure (replayed.purchaseOrderId = some poId)
      (.domain .idempotencyConflict "Idempotency-Key was already used for another document" 409)
    return store
  | none =>
    ensure (header.status = .approved ∨ header.status = .partiallyReceived)
      (.domain .purchaseOrderInvalidState s!"Cannot receive against purchase order in state {header.status}" 409)
    let incomingLines :=
      if lines.isEmpty then (orderBySku (·.skuId) header.items).map openPurchaseOrderLine else lines
    let (order, receiptItems) ← incomingLines.foldlM (receivePurchaseOrderLine header) (header, [])
    let (store, _) ← createReceiptInTx (store.putPurchaseOrder poId order) receiptId
      { code := receiptCode, warehouseId := header.warehouseId, sourceType := .purchaseOrder
        purchaseOrderId := some poId, supplierId := some header.supplierId
        autoPost := true, items := receiptItems } idempotencyKey
    let nextStatus : PurchaseOrderStatus :=
      if order.items.all fun item => item.orderedQty ≤ item.receivedQty then .received else .partiallyReceived
    return store.putPurchaseOrder poId { order with status := nextStatus }

end Inventory
