import RetailApi.Inventory.Lines

/-! Stock receipts: merging the lines of a request, and posting them into the balances
at moving-average cost. -/

namespace Inventory

open Transaction JsString

/-- `idempotencyKey?.trim() ?? null` -/
def trimmedKey (idempotencyKey : Option String) : Option String :=
  idempotencyKey.map trimmed

/-- `idempotencyKey?.trim() || null` -/
def cleanKey (idempotencyKey : Option String) : Option String :=
  (trimmedKey idempotencyKey).filter (· ≠ "")

/-- A posted document answers a call that carries its own, non-empty key again. -/
def isReplayOf (storedKey incomingKey : Option String) : Prop :=
  storedKey ≠ none ∧ storedKey ≠ some "" ∧ storedKey = trimmedKey incomingKey

instance (storedKey incomingKey : Option String) : Decidable (isReplayOf storedKey incomingKey) :=
  inferInstanceAs (Decidable (_ ∧ _))

structure CreateStockReceiptItem where
  skuId : Text
  qty : String
  unitCost : Option Int := none
  conversionFactor : Option String := none

structure CreateStockReceiptDto where
  code : String
  warehouseId : Uuid
  sourceType : ReceiptSource := .manual
  purchaseOrderId : Option Uuid := none
  supplierId : Option Uuid := none
  autoPost : Bool := false
  items : List CreateStockReceiptItem

structure MergedReceiptLine where
  skuId : Text
  baseQtyMilli : Int
  unitCostVnd : Int

/-- Weighted average unit cost across duplicate lines in the same receipt. -/
def MergedReceiptLine.combine (existing line : MergedReceiptLine) : MergedReceiptLine :=
  let totalQty := existing.baseQtyMilli + line.baseQtyMilli
  let totalVal := existing.baseQtyMilli * existing.unitCostVnd + line.baseQtyMilli * line.unitCostVnd
  { existing with baseQtyMilli := totalQty, unitCostVnd := (totalVal + totalQty / 2) / totalQty }

def mergeReceiptItem (store : Store) (merged : List MergedReceiptLine) (item : CreateStockReceiptItem) :
    Except Failure (List MergedReceiptLine) := do
  let resolvedSkuId ← assertCatalogSkuEligible store item.skuId
  let _ ← parseConversionFactorToTenThousandths item.conversionFactor
  let baseQtyMilli ← convertToBaseQtyMilli item.qty item.conversionFactor
  let unitCostVnd ← parseMoneyToVnd (item.unitCost.getD 0)
  return Merge.insert MergedReceiptLine.skuId MergedReceiptLine.combine ⟨resolvedSkuId, baseQtyMilli, unitCostVnd⟩ merged

/-- `INSERT INTO stock_receipt_item` -/
def insertReceiptItem (line : MergedReceiptLine) : Except Failure StockReceiptItem := do
  let skuId ← line.skuId.toUuid
  let unitCost ← vndToNumber line.unitCostVnd
  if legal : 0 < line.baseQtyMilli ∧ 0 ≤ unitCost ∧ line.baseQtyMilli < numericLimit then
    return { skuId, qty := line.baseQtyMilli, unitCost, legal }
  else throw (.database "CHK_stock_receipt_item_qty")

def StockReceipt.movementType (receipt : StockReceipt) : MovementType :=
  match receipt.sourceType with
  | .purchaseOrder => .purchaseReceipt
  | .return_ => .returnReceipt
  | _ => .manualReceipt

inductive PostDecision where
  | proceed | idempotentReplay
deriving DecidableEq

def evaluateStockReceiptPostTransition (receiptId : Uuid) (receipt : StockReceipt)
    (incomingIdempotencyKey : Option String) : Except Failure PostDecision := do
  if receipt.status = .posted then
    ensure (isReplayOf receipt.idempotencyKey incomingIdempotencyKey)
      (.domain .stockReceiptAlreadyPosted
        s!"Stock receipt {receipt.code} ({receiptId}) has already been posted" 409)
    return .idempotentReplay
  else
    ensure (receipt.status = .draft ∨ receipt.status = .pendingApproval)
      (.domain .stockReceiptInvalidState s!"Cannot post stock receipt in state {receipt.status}" 409)
    return .proceed

/-- One line of a receipt: the balance is read again for every line. -/
def postReceiptItem (receiptId : Uuid) (receipt : StockReceipt) (store : Store) (item : StockReceiptItem) :
    Except Failure Store := do
  let _ ← assertCatalogSkuEligible store (Text.ofUuid item.skuId)
  let key : Key := ⟨receipt.warehouseId, item.skuId⟩
  let old := store.balance key
  let valuation ← computeWeightedAverageCostOnReceipt old.onHandQty old.avgUnitCost item.qty item.unitCost
  let store ← store.upsertBalance key
    { onHandQty := valuation.newOnHandMilli, avgUnitCost := valuation.newAvgCostVnd,
      valuationAmount := valuation.newValuationVnd, version := 1 }
    fun row => { row with
      onHandQty := valuation.newOnHandMilli, avgUnitCost := valuation.newAvgCostVnd,
      valuationAmount := valuation.newValuationVnd }
  store.recordMovement {
    key, movementType := receipt.movementType
    qtyBefore := old.onHandQty, qtyDelta := item.qty
    onHandAfter := valuation.newOnHandMilli, reservedAfter := old.reservedQty
    unitCost := item.unitCost, avgCostAfter := valuation.newAvgCostVnd
    referenceType := .stockReceipt, referenceId := receiptId }

/-- `UQ_stock_receipt_idempotency` for the row `receiptId`. -/
def receiptKeyFree (store : Store) (receiptId : Uuid) (key : Option String) : Prop :=
  key = none ∨ ∀ entry ∈ store.receipts.entries, entry.1 ≠ receiptId → entry.2.idempotencyKey ≠ key

instance (store : Store) (receiptId : Uuid) (key : Option String) : Decidable (receiptKeyFree store receiptId key) :=
  inferInstanceAs (Decidable (_ ∨ _))

def postReceiptInTx (store : Store) (receiptId : Uuid) (idempotencyKey : Option String) : Except Failure Store := do
  let receipt ← required (store.receipts.lookup receiptId)
    (.domain .stockReceiptNotFound s!"Stock receipt {receiptId} not found" 404)
  let decision ← evaluateStockReceiptPostTransition receiptId receipt idempotencyKey
  if decision = .idempotentReplay then return store
  let _ ← assertActiveWarehouse store receipt.warehouseId
  let items := orderBySku (·.skuId) receipt.items
  let store ← items.foldlM (postReceiptItem receiptId receipt) store
  let key := receipt.idempotencyKey <|> trimmedKey idempotencyKey
  ensure (receiptKeyFree store receiptId key) (.database "UQ_stock_receipt_idempotency")
  let store := { store with
    receipts := store.receipts.insert receiptId { receipt with status := .posted, idempotencyKey := key } }
  let total ← vndToNumber (items.map fun item => valueOf item.qty item.unitCost).sum
  return store.emit (.stockReceived receiptId receipt.purchaseOrderId receipt.supplierId total)

/-- The receipt already created under this key (replay lookup). -/
def findReceiptByKey (store : Store) (key : Option String) : Option (Uuid × StockReceipt) :=
  (store.receipts.entries.find? fun entry => key ≠ none ∧ entry.2.idempotencyKey = key).map fun entry =>
    (entry.1, entry.2)

/-- Creates a receipt under the fresh id `receiptId`; the result names the receipt that answers the request. -/
def createReceiptInTx (store : Store) (receiptId : Uuid) (dto : CreateStockReceiptDto)
    (idempotencyKey : Option String) : Except Failure (Store × Uuid) := do
  let key := cleanKey idempotencyKey
  match findReceiptByKey store key with
  | some (existing, _) => return (store, existing)
  | none =>
    let _ ← assertActiveWarehouse store dto.warehouseId
    let merged ← dto.items.foldlM (mergeReceiptItem store) []
    let sortedLines := merged.insertionSort fun left right => left.skuId.le right.skuId = true
    ensure (store.receipts.lookup receiptId = none) (.database "PK_stock_receipt_id")
    ensure (∀ row ∈ store.receipts.rows, row.code ≠ dto.code) (.database "UQ_stock_receipt_tenant_code")
    let items ← sortedLines.mapM insertReceiptItem
    let receipt : StockReceipt := {
      code := dto.code, warehouseId := dto.warehouseId, sourceType := dto.sourceType
      purchaseOrderId := dto.purchaseOrderId, supplierId := dto.supplierId
      status := .draft, idempotencyKey := key, items }
    let store := { store with receipts := store.receipts.insert receiptId receipt }
    if dto.autoPost then
      let store ← postReceiptInTx store receiptId key
      return (store, receiptId)
    return (store, receiptId)

def createReceipt (store : Store) (receiptId : Uuid) (dto : CreateStockReceiptDto) (idempotencyKey : Option String) :
    Except Failure Store := do
  let created ← createReceiptInTx store receiptId dto idempotencyKey
  return created.1

def postReceipt (store : Store) (receiptId : Uuid) (idempotencyKey : Option String) : Except Failure Store :=
  postReceiptInTx store receiptId idempotencyKey

end Inventory
