import RetailApi.Inventory.Operations

/-! Minimum levels. The stock screen of a branch announces a minimum that is above what is
available; the plain edit of a threshold announces nothing. -/

namespace Inventory

open Transaction

/-- The minimum of a request, once its maximum is seen to be no less. -/
def parseMinimum (message minQty : String) (maxQty : Option String) : Except Failure Int := do
  let minMilli ← parseQtyToMilli minQty true false
  let maxMilli ← maxQty.mapM fun text => parseQtyToMilli text true false
  ensure (∀ most ∈ maxMilli, minMilli ≤ most) (.domain .invalidQuantity message 400)
  return minMilli

def Store.putThreshold (store : Store) (key : Key) (minMilli : Int) : Store :=
  { store with thresholds := store.thresholds.insert key minMilli }

structure UpsertStockThresholdDto where
  warehouseId : Uuid
  skuId : Uuid
  minQty : String
  maxQty : Option String := none

def upsertThreshold (store : Store) (dto : UpsertStockThresholdDto) : Except Failure Store := do
  let minMilli ← parseMinimum "maxQty must be greater than or equal to minQty" dto.minQty dto.maxQty
  let _ ← assertActiveWarehouse store dto.warehouseId
  return store.putThreshold ⟨dto.warehouseId, dto.skuId⟩ minMilli

structure UpsertBranchThresholdDto where
  branchId : Uuid
  variantId : Uuid
  /-- `String(dto.minQuantity)` -/
  minQuantity : String
  maxQuantity : Option String := none

/-- `ORDER BY is_default DESC, code ASC LIMIT 1` over the active warehouses of a branch -/
def warehouseOfBranch (store : Store) (branchId : Uuid) : Except Failure Uuid :=
  let live := store.warehouses.entries.filter fun entry => entry.2.branchId = some branchId ∧ entry.2.status = .active
  let sorted := live.insertionSort fun left right =>
    left.2.isDefault = true ∧ right.2.isDefault = false ∨ left.2.isDefault = right.2.isDefault ∧ left.2.code ≤ right.2.code
  required (sorted.head?.map (·.1)) (.domain .warehouseNotFound s!"Branch {branchId} has no active warehouse" 400)

def upsertBranchThreshold (store : Store) (dto : UpsertBranchThresholdDto) : Except Failure Store := do
  let minMilli ← parseMinimum "maxQuantity must be greater than or equal to minQuantity" dto.minQuantity dto.maxQuantity
  let warehouseId ← warehouseOfBranch store dto.branchId
  let key : Key := ⟨warehouseId, dto.variantId⟩
  let store := store.putThreshold key minMilli
  let available := store.onHandQty key - store.reservedQty key
  -- `available < dto.minQuantity`, of two doubles
  return if JsNumber.nearest (available / 1000) < JsNumber.nearest (minMilli / 1000) then store.emit (.stockBelowMin key available minMilli) else store

/-- What inventory is asked for: stock operations and edits of the minimum levels. -/
inductive StockRequest where
  | operation (operation : Operation)
  | upsertThreshold (dto : UpsertStockThresholdDto)
  | upsertBranchThreshold (dto : UpsertBranchThresholdDto)

def performRequest (store : Store) : StockRequest → Store
  | .operation operation => perform store operation
  | .upsertThreshold dto => commit store (Inventory.upsertThreshold store dto)
  | .upsertBranchThreshold dto => commit store (Inventory.upsertBranchThreshold store dto)

end Inventory
