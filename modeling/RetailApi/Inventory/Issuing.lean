import RetailApi.Inventory.Receiving

/-! Stock issues: unreserved stock leaves a warehouse. All lines are checked against
the balances as they were locked before the first deduction. -/

namespace Inventory

open Transaction

structure CreateStockIssueItem where
  skuId : Text
  qty : String

structure CreateStockIssueDto where
  code : String
  warehouseId : Uuid
  reasonCode : IssueReason := .manualWithdrawal
  autoPost : Bool := false
  items : List CreateStockIssueItem

/-- One line of an issue, deducted from the balances `locked` in the first pass. -/
def postIssueItem (issueId : Uuid) (issue : StockIssue) (locked : Store) (store : Store) (item : StockIssueItem) :
    Except Failure Store := do
  let key : Key := ⟨issue.warehouseId, item.skuId⟩
  let bal := locked.balance key
  let valuation ← computeValuationAfterDeduction bal.onHandQty bal.avgUnitCost item.qty
  let store ← store.updateBalance key
    (fun row => item.qty ≤ row.onHandQty - row.reservedQty)
    (fun row => { row with onHandQty := valuation.newOnHandMilli, valuationAmount := valuation.newValuationVnd })
  let availBefore := bal.onHandQty - bal.reservedQty
  let store := store.emitBelowMinOnCrossing key availBefore (availBefore - item.qty)
  store.recordMovement {
    key, movementType := .manualIssue
    qtyBefore := bal.onHandQty, qtyDelta := -item.qty
    onHandAfter := valuation.newOnHandMilli, reservedAfter := bal.reservedQty
    unitCost := bal.avgUnitCost, avgCostAfter := valuation.newAvgCostVnd
    referenceType := .stockIssue, referenceId := issueId }

/-- `UQ_stock_issue_idempotency` for the row `issueId`. -/
def issueKeyFree (store : Store) (issueId : Uuid) (key : Option String) : Prop :=
  key = none ∨ ∀ entry ∈ store.issues.entries, entry.1 ≠ issueId → entry.2.idempotencyKey ≠ key

instance (store : Store) (issueId : Uuid) (key : Option String) : Decidable (issueKeyFree store issueId key) :=
  inferInstanceAs (Decidable (_ ∨ _))

def postIssueInTx (store : Store) (issueId : Uuid) (idempotencyKey : Option String) : Except Failure Store := do
  let issue ← required (store.issues.lookup issueId)
    (.domain .stockIssueNotFound s!"Stock issue {issueId} not found" 404)
  if issue.status = .posted then
    ensure (isReplayOf issue.idempotencyKey idempotencyKey)
      (.domain .stockIssueAlreadyPosted s!"Stock issue {issue.code} ({issueId}) has already been posted" 409)
    return store
  ensure (issue.status = .draft) (.domain .stockIssueInvalidState s!"Cannot post stock issue in state {issue.status}" 409)
  let _ ← assertActiveWarehouse store issue.warehouseId
  let items := orderBySku (·.skuId) issue.items
  let locked := store
  let available (item : StockIssueItem) : Int :=
    locked.onHandQty ⟨issue.warehouseId, item.skuId⟩ - locked.reservedQty ⟨issue.warehouseId, item.skuId⟩
  ensure (∀ item ∈ items, item.qty ≤ available item)
    (.domain .insufficientStock "Insufficient available unreserved stock to post stock issue" 409)
  let store ← items.foldlM (postIssueItem issueId issue locked) store
  let key := issue.idempotencyKey <|> trimmedKey idempotencyKey
  ensure (issueKeyFree store issueId key) (.database "UQ_stock_issue_idempotency")
  let costed := issue.items.map fun item =>
    { item with unitCost := (locked.balance ⟨issue.warehouseId, item.skuId⟩).avgUnitCost }
  let store := { store with
    issues := store.issues.insert issueId { issue with status := .posted, idempotencyKey := key, items := costed } }
  return store.emit (.stockIssued issueId)

/-- `INSERT INTO stock_issue_item` -/
def insertIssueItem (line : NormalizedSkuQtyLine) : Except Failure StockIssueItem := do
  let skuId ← line.skuId.toUuid
  if legal : 0 < line.qtyMilli ∧ line.qtyMilli < numericLimit then
    return { skuId, qty := line.qtyMilli, unitCost := 0, legal }
  else throw (.database "CHK_stock_issue_item_qty")

def findIssueByKey (store : Store) (key : Option String) : Option Uuid :=
  (store.issues.entries.find? fun entry => key ≠ none ∧ entry.2.idempotencyKey = key).map (·.1)

def createIssue (store : Store) (issueId : Uuid) (dto : CreateStockIssueDto) (idempotencyKey : Option String) :
    Except Failure Store := do
  let key := cleanKey idempotencyKey
  match findIssueByKey store key with
  | some _ => return store
  | none =>
    let _ ← assertActiveWarehouse store dto.warehouseId
    let normalizedLines ← normalizeAndSortWarehouseLines
      (dto.items.map fun item => ⟨Text.ofUuid dto.warehouseId, item.skuId, item.qty⟩)
    ensure (store.issues.lookup issueId = none) (.database "PK_stock_issue_id")
    ensure (∀ row ∈ store.issues.rows, row.code ≠ dto.code) (.database "UQ_stock_issue_tenant_code")
    let items ← normalizedLines.mapM insertIssueItem
    let issue : StockIssue := {
      code := dto.code, warehouseId := dto.warehouseId, reasonCode := dto.reasonCode
      status := .draft, idempotencyKey := key, items }
    let store := { store with issues := store.issues.insert issueId issue }
    if dto.autoPost then postIssueInTx store issueId key else return store

def postIssue (store : Store) (issueId : Uuid) (idempotencyKey : Option String) : Except Failure Store :=
  postIssueInTx store issueId idempotencyKey

end Inventory
