import RetailApi.Inventory.Lines

/-! Stocktakes: snapshots are taken when a SKU enters the count, and approval sets the
on-hand quantities to what was counted. -/

namespace Inventory

open Transaction StocktakeItem

structure CreateStocktakeDto where
  code : String
  warehouseId : Uuid
  skuIds : List Text := []

structure CountLine where
  skuId : Text
  countedQty : String

def StocktakeItem.atSnapshot (skuId : Uuid) (snapshot : Balance) : StocktakeItem :=
  { skuId, snapshotOnHandQty := snapshot.onHandQty, snapshotReservedQty := snapshot.reservedQty
    snapshotVersion := snapshot.version, countedQty := none, varianceQty := none, legal := by simp }

/-- `UPDATE stock_take_item SET counted_qty, variance_qty`: the variance is against the line's snapshot. -/
def StocktakeItem.count (item : StocktakeItem) (counted : Int) (nonnegative : 0 ≤ counted) : StocktakeItem :=
  { item with
    countedQty := some counted
    varianceQty := some (counted - item.snapshotOnHandQty)
    legal := by
      intro other same
      exact Option.some.inj same ▸ nonnegative }

theorem Stocktake.setItem_skus (items : List StocktakeItem) (item : StocktakeItem) :
    (items.map fun old => if old.skuId = item.skuId then item else old).map (·.skuId) = items.map (·.skuId) :=
  Rows.keys_save item items

def Stocktake.setItem (stocktake : Stocktake) (item : StocktakeItem) : Stocktake :=
  { stocktake with
    items := stocktake.items.map fun old => if old.skuId = item.skuId then item else old
    distinct := by
      rw [Stocktake.setItem_skus]
      exact stocktake.distinct }

/-- `INSERT INTO stock_take_item`; `UQ_stock_take_item_sku`. -/
def Stocktake.addItem (stocktake : Stocktake) (item : StocktakeItem) : Except Failure Stocktake :=
  if distinct : ((stocktake.items ++ [item]).map (·.skuId)).Nodup then
    .ok { stocktake with items := stocktake.items ++ [item], distinct }
  else .error (.database "UQ_stock_take_item_sku")

def createStocktake (store : Store) (stockTakeId : Uuid) (dto : CreateStocktakeDto) : Except Failure Store := do
  let _ ← assertActiveWarehouse store dto.warehouseId
  ensure (store.stocktakes.lookup stockTakeId = none) (.database "PK_stock_take_id")
  ensure (∀ row ∈ store.stocktakes.rows, row.code ≠ dto.code) (.database "UQ_stock_take_tenant_code")
  let empty : Stocktake :=
    { code := dto.code, warehouseId := dto.warehouseId, status := .draft, items := [], distinct := by simp }
  let skuIds := dto.skuIds.dedup.insertionSort fun left right => left.le right = true
  let stocktake ← skuIds.foldlM (fun stocktake text => do
    let skuId ← text.toUuid
    stocktake.addItem (.atSnapshot skuId (store.balance ⟨dto.warehouseId, skuId⟩))) empty
  return { store with stocktakes := store.stocktakes.insert stockTakeId stocktake }

def findStocktake (store : Store) (stockTakeId : Uuid) : Except Failure Stocktake :=
  required (store.stocktakes.lookup stockTakeId)
    (.domain .stocktakeNotFound s!"Stocktake {stockTakeId} not found" 404)

/-- One counted line: the snapshot is kept unless the line is new or a refresh is asked for. -/
def recordCount (store : Store) (refreshSnapshot : Bool) (stocktake : Stocktake) (line : CountLine) :
    Except Failure Stocktake := do
  let skuId ← line.skuId.toUuid
  let counted ← parseQtyToMilli line.countedQty true false
  if nonnegative : 0 ≤ counted then
    let fresh := atSnapshot skuId (store.balance ⟨stocktake.warehouseId, skuId⟩)
    match stocktake.items.find? (·.skuId = skuId) with
    | some existing =>
      return stocktake.setItem ((if refreshSnapshot then fresh else existing).count counted nonnegative)
    | none => stocktake.addItem (fresh.count counted nonnegative)
  else throw (.database "CHK_stock_take_item_counted")

def recordCounts (store : Store) (stockTakeId : Uuid) (counts : List CountLine) (refreshSnapshot : Bool) :
    Except Failure Store := do
  let header ← findStocktake store stockTakeId
  ensure (header.status = .draft ∨ header.status = .counting)
    (.domain .stocktakeInvalidState s!"Cannot record counts on stocktake in state {header.status}" 409)
  let stocktake ← counts.foldlM (recordCount store refreshSnapshot) header
  return { store with
    stocktakes := store.stocktakes.insert stockTakeId { stocktake with status := .counting } }

/-- One line of an approval. A hold or release does not make a count stale (D21): only the
on-hand quantity is compared with the snapshot. -/
def approveStocktakeItem (stockTakeId : Uuid) (header : Stocktake) (forceRebase : Bool) (store : Store)
    (item : StocktakeItem) : Except Failure Store := do
  let counted ← required item.countedQty
    (.domain .stocktakeInvalidState s!"SKU {item.skuId} is missing a counted quantity" 409)
  let key : Key := ⟨header.warehouseId, item.skuId⟩
  let current := store.balance key
  ensure (current.onHandQty = item.snapshotOnHandQty ∨ forceRebase = true) (.domain .stocktakeStaleSnapshot
    (s!"Stock for SKU {item.skuId} changed while counting (snapshot version {item.snapshotVersion}, current "
      ++ s!"version {current.version}). Re-count or pass forceRebase=true.") 409)
  ensure (current.reservedQty ≤ counted) (.domain .stocktakeBelowReserved
    (s!"Counted quantity ({formatMilliToQty counted}) for SKU {item.skuId} is below active reserved quantity "
      ++ s!"({formatMilliToQty current.reservedQty})") 409)
  let variance := counted - current.onHandQty
  if variance = 0 then return store
  let avgCost ← vndToNumber current.avgUnitCost
  let newValuation ← vndToNumber (if counted = 0 then 0 else valueOf counted current.avgUnitCost)
  let store ← store.upsertBalance key
    { onHandQty := counted, avgUnitCost := avgCost, valuationAmount := newValuation, version := 1 }
    fun row => { row with onHandQty := counted, valuationAmount := newValuation }
  store.recordMovement {
    key, movementType := .stocktakeAdjustment
    qtyBefore := current.onHandQty, qtyDelta := variance
    onHandAfter := counted, reservedAfter := current.reservedQty
    unitCost := avgCost, avgCostAfter := avgCost
    referenceType := .stockTake, referenceId := stockTakeId }

/-- The stored variance becomes the one against the balance at approval. -/
def StocktakeItem.settle (locked : Store) (warehouseId : Uuid) (item : StocktakeItem) : StocktakeItem :=
  { item with varianceQty := item.countedQty.map fun counted => counted - locked.onHandQty ⟨warehouseId, item.skuId⟩ }

theorem StocktakeItem.settle_skus (locked : Store) (warehouseId : Uuid) (items : List StocktakeItem) :
    (items.map (settle locked warehouseId)).map (·.skuId) = items.map (·.skuId) := by
  simp [settle]

def approveStocktake (store : Store) (stockTakeId : Uuid) (forceRebase : Bool) : Except Failure Store := do
  let header ← findStocktake store stockTakeId
  ensure (header.status = .counting) (.domain .stocktakeInvalidState
    s!"Cannot approve stocktake in state {header.status}; counts must be recorded first" 409)
  let _ ← assertActiveWarehouse store header.warehouseId
  ensure (header.items ≠ [])
    (.domain .stocktakeInvalidState "Cannot approve stocktake with zero counted items" 409)
  let locked := store
  let store ← (orderBySku (·.skuId) header.items).foldlM (approveStocktakeItem stockTakeId header forceRebase) store
  let approved : Stocktake := { header with
    status := .approved
    items := header.items.map (settle locked header.warehouseId)
    distinct := by
      rw [settle_skus]
      exact header.distinct }
  let store := { store with stocktakes := store.stocktakes.insert stockTakeId approved }
  return store.emit (.stocktakeAdjusted stockTakeId)

end Inventory
