import RetailApi.Inventory.Lines

/-! Stock transfers: goods leave the source on dispatch, travel as in-transit stock of
the destination, and end there, as a recorded discrepancy, or back at the source. -/

namespace Inventory

open Transaction

structure CreateStockTransferItem where
  skuId : Text
  qty : String

structure CreateStockTransferDto where
  code : String
  fromWarehouseId : Text
  toWarehouseId : Text
  items : List CreateStockTransferItem

structure ReceiveStockTransferLine where
  skuId : Text
  receivedQty : String
  discrepancyQty : Option String := none

structure ReceiveStockTransferDto where
  items : List ReceiveStockTransferLine := []
  resolveDiscrepancy : Bool := false

def assertValidStockTransferWarehouses (fromWarehouseId toWarehouseId : Text) : Except Failure Unit :=
  ensure (fromWarehouseId ≠ toWarehouseId)
    (.domain .transferSameWarehouse "Source and destination warehouses must be different" 400)

/-- D18: quarantine stock may only leave to a BRANCH warehouse, and moving into or out of
quarantine needs `inventory.approve`. -/
def assertTransferKindsAllowed (fromKind toKind : WarehouseKind) (canApprove : Bool) : Except Failure Unit := do
  ensure (¬(fromKind = .quarantine ∧ toKind ≠ .branch))
    (.domain .transferQuarantineNotAllowed "Quarantine stock can only be transferred into a BRANCH warehouse" 409)
  ensure (¬((fromKind = .quarantine ∨ toKind = .quarantine) ∧ canApprove = false))
    (.domain .permissionDenied
      "inventory.approve is required to transfer stock into or out of a QUARANTINE warehouse" 403)

def assertCanDispatchStockTransfer (status : TransferStatus) : Except Failure Unit :=
  ensure (status = .draft) (.domain .transferInvalidState s!"Cannot dispatch stock transfer in state {status}" 409)

/-- A transfer can be cancelled while it is a draft or has units on the road (D17). -/
def assertCanCancelStockTransfer (status : TransferStatus) : Except Failure Unit :=
  ensure (status = .draft ∨ status = .dispatched ∨ status = .partiallyReceived)
    (.domain .transferInvalidState s!"Cannot cancel stock transfer in state {status}" 409)

def TransferStatus.isOpen (status : TransferStatus) : Bool :=
  status = .dispatched || status = .partiallyReceived || status = .discrepancy

/-- A line as `CHK_stock_transfer_item_qty` admits it. -/
def checkedTransferItem (skuId : Uuid) (transferQty dispatchedQty receivedQty discrepancyQty unitCost : Int) :
    Except Failure StockTransferItem :=
  if legal : 0 < transferQty ∧ 0 ≤ dispatchedQty ∧ 0 ≤ receivedQty ∧ 0 ≤ discrepancyQty ∧
      receivedQty + discrepancyQty ≤ dispatchedQty ∧ 0 ≤ unitCost ∧ transferQty < numericLimit then
    .ok { skuId, transferQty, dispatchedQty, receivedQty, discrepancyQty, unitCost, legal }
  else .error (.database "CHK_stock_transfer_item_qty")

def StockTransfer.item (transfer : StockTransfer) (skuId : Uuid) : Option StockTransferItem :=
  transfer.items.find? (·.skuId = skuId)

theorem StockTransfer.setItem_skus (items : List StockTransferItem) (item : StockTransferItem) :
    (items.map fun old => if old.skuId = item.skuId then item else old).map (·.skuId) = items.map (·.skuId) :=
  Rows.keys_save item items

/-- `UPDATE stock_transfer_item`: the line of the SKU becomes `item`. -/
def StockTransfer.setItem (transfer : StockTransfer) (item : StockTransferItem) : StockTransfer :=
  { transfer with
    items := transfer.items.map fun old => if old.skuId = item.skuId then item else old
    distinct := by
      rw [StockTransfer.setItem_skus]
      exact transfer.distinct }

def Store.putTransfer (store : Store) (transferId : Uuid) (transfer : StockTransfer) : Store :=
  { store with transfers := store.transfers.insert transferId transfer }

def findTransfer (store : Store) (transferId : Uuid) : Except Failure StockTransfer :=
  required (store.transfers.lookup transferId)
    (.domain .transferNotFound s!"Stock transfer {transferId} not found" 404)

def createTransfer (store : Store) (transferId : Uuid) (dto : CreateStockTransferDto) (canApprove : Bool) :
    Except Failure Store := do
  assertValidStockTransferWarehouses dto.fromWarehouseId dto.toWarehouseId
  let fromWarehouseId ← dto.fromWarehouseId.toUuid
  let toWarehouseId ← dto.toWarehouseId.toUuid
  let source ← assertActiveWarehouse store fromWarehouseId
  let destination ← assertActiveWarehouse store toWarehouseId
  assertTransferKindsAllowed source.kind destination.kind canApprove
  let normalized ← normalizeAndSortWarehouseLines
    (dto.items.map fun item => ⟨dto.fromWarehouseId, item.skuId, item.qty⟩)
  ensure (store.transfers.lookup transferId = none) (.database "PK_stock_transfer_id")
  ensure (∀ row ∈ store.transfers.rows, row.code ≠ dto.code) (.database "UQ_stock_transfer_tenant_code")
  let items ← normalized.mapM fun line => do
    let skuId ← line.skuId.toUuid
    checkedTransferItem skuId line.qtyMilli 0 0 0 0
  if apart : fromWarehouseId ≠ toWarehouseId then
    if distinct : (items.map (·.skuId)).Nodup then
      return store.putTransfer transferId
        { code := dto.code, fromWarehouseId, toWarehouseId, status := .draft, items, apart, distinct }
    else throw (.database "UQ_stock_transfer_item_sku")
  else throw (.database "CHK_stock_transfer_warehouses")

/-- One line of a dispatch: off the source's shelf, into the destination's in-transit counter. -/
def dispatchTransferItem (transferId : Uuid) (header : StockTransfer) (locked : Store) (store : Store)
    (item : StockTransferItem) : Except Failure Store := do
  let source : Key := ⟨header.fromWarehouseId, item.skuId⟩
  let destination : Key := ⟨header.toWarehouseId, item.skuId⟩
  let srcBal := locked.balance source
  let valuation ← computeValuationAfterDeduction srcBal.onHandQty srcBal.avgUnitCost item.transferQty
  let availBefore := srcBal.onHandQty - srcBal.reservedQty
  let store := store.emitBelowMinOnCrossing source availBefore (availBefore - item.transferQty)
  let store ← store.updateBalance source
    (fun row => item.transferQty ≤ row.onHandQty - row.reservedQty)
    (fun row => { row with onHandQty := valuation.newOnHandMilli, valuationAmount := valuation.newValuationVnd })
  let store ← store.upsertBalance destination { inTransitQty := item.transferQty, version := 1 }
    fun row => { row with inTransitQty := row.inTransitQty + item.transferQty }
  store.recordMovement {
    key := source, movementType := .transferDispatch
    qtyBefore := srcBal.onHandQty, qtyDelta := -item.transferQty
    onHandAfter := valuation.newOnHandMilli, reservedAfter := srcBal.reservedQty
    unitCost := srcBal.avgUnitCost, avgCostAfter := valuation.newAvgCostVnd
    referenceType := .stockTransfer, referenceId := transferId }

/-- The line of a dispatched transfer: all of it on the road, at the source's cost. -/
def dispatchLine (header : StockTransfer) (locked : Store) (item : StockTransferItem) :
    Except Failure StockTransferItem :=
  checkedTransferItem item.skuId item.transferQty item.transferQty item.receivedQty item.discrepancyQty
    (locked.balance ⟨header.fromWarehouseId, item.skuId⟩).avgUnitCost

def dispatchTransfer (store : Store) (transferId : Uuid) : Except Failure Store := do
  let header ← findTransfer store transferId
  assertCanDispatchStockTransfer header.status
  let _ ← assertActiveWarehouse store header.fromWarehouseId
  let _ ← assertActiveWarehouse store header.toWarehouseId
  let items := orderBySku (·.skuId) header.items
  let locked := store
  let available (item : StockTransferItem) : Int :=
    locked.onHandQty ⟨header.fromWarehouseId, item.skuId⟩ - locked.reservedQty ⟨header.fromWarehouseId, item.skuId⟩
  ensure (∀ item ∈ items, item.transferQty ≤ available item)
    (.domain .insufficientStock "Insufficient available stock at source warehouse to dispatch transfer" 409)
  let store ← items.foldlM (dispatchTransferItem transferId header locked) store
  -- the loop never reads the transfer lines, so their own updates stand together here
  let dispatched ← header.items.mapM (dispatchLine header locked)
  if distinct : (dispatched.map (·.skuId)).Nodup then
    let store := store.putTransfer transferId { header with status := .dispatched, items := dispatched, distinct }
    return store.emit (.transferDispatched transferId)
  else throw (.database "UQ_stock_transfer_item_sku")

/-- The stock side of one received line: `cleared` leaves the destination's in-transit counter and
`receiveNow` of it goes on hand at the dispatch cost. -/
def clearInTransit (store : Store) (transferId : Uuid) (destination : Key) (unitCost receiveNow cleared : Int) :
    Except Failure Store :=
  let old := store.balance destination
  if 0 < receiveNow then do
    let valuation ← computeWeightedAverageCostOnReceipt old.onHandQty old.avgUnitCost receiveNow unitCost
    let store ← store.recordMovement {
      key := destination, movementType := .transferReceipt
      qtyBefore := old.onHandQty, qtyDelta := receiveNow
      onHandAfter := valuation.newOnHandMilli, reservedAfter := old.reservedQty
      unitCost, avgCostAfter := valuation.newAvgCostVnd
      referenceType := .stockTransfer, referenceId := transferId }
    store.updateBalance destination (fun _ => true) fun row => { row with
      onHandQty := row.onHandQty + receiveNow, inTransitQty := row.inTransitQty - cleared
      avgUnitCost := valuation.newAvgCostVnd, valuationAmount := valuation.newValuationVnd }
  else if 0 < cleared then
    store.updateBalance destination (fun _ => true) fun row => { row with
      inTransitQty := row.inTransitQty - cleared
      avgUnitCost := old.avgUnitCost, valuationAmount := old.valuationAmount }
  else .ok store

/-- One request line of a receipt, validated against the line as it is now. -/
def receiveTransferLine (transferId : Uuid) (header : StockTransfer) (resolveDiscrepancy : Bool) (store : Store)
    (reqLine : ReceiveStockTransferLine) : Except Failure Store := do
  let skuId ← reqLine.skuId.toUuid
  let transfer ← findTransfer store transferId
  let dbItem ← required (transfer.item skuId) (.domain .transferQuantityMismatch
    s!"SKU {reqLine.skuId} is not part of transfer {header.code}" 409)
  let receiveNow ← parseQtyToMilli reqLine.receivedQty true false
  let discrepancyNow ← parseQtyToMilli (reqLine.discrepancyQty.getD "0.000") true false
  let cleared := receiveNow + discrepancyNow
  ensure (0 < cleared ∨ resolveDiscrepancy = true) (.domain .transferQuantityMismatch
    s!"Must receive or record discrepancy for a positive quantity on SKU {reqLine.skuId}" 409)
  let remaining := dbItem.remaining
  ensure (cleared ≤ remaining) (.domain .transferQuantityMismatch
    (s!"Cannot receive/resolve {formatMilliToQty cleared} for SKU {reqLine.skuId}; only "
      ++ s!"{formatMilliToQty remaining} remains in transit") 409)
  let destination : Key := ⟨header.toWarehouseId, skuId⟩
  let old := store.balance destination
  ensure (cleared ≤ old.inTransitQty) (.domain .transferQuantityMismatch
    (s!"Destination in-transit quantity ({formatMilliToQty old.inTransitQty}) for SKU {reqLine.skuId} is lower "
      ++ s!"than {formatMilliToQty cleared}") 409)
  let store ← clearInTransit store transferId destination dbItem.unitCost receiveNow cleared
  let received ← checkedTransferItem skuId dbItem.transferQty dbItem.dispatchedQty (dbItem.receivedQty + receiveNow)
    (dbItem.discrepancyQty + discrepancyNow) dbItem.unitCost
  return store.putTransfer transferId (transfer.setItem received)

/-- D17: one lost line, booked as an in/out pair at the destination; the balance row is not touched. -/
def writeTransferLoss (transferId : Uuid) (header : StockTransfer) (store : Store) (line : StockTransferItem) :
    Except Failure Store := do
  let destination : Key := ⟨header.toWarehouseId, line.skuId⟩
  let bal := store.balance destination
  let lost := line.discrepancyQty
  let row (movementType : MovementType) (before delta after : Int) : LedgerRow := {
    key := destination, movementType
    qtyBefore := before, qtyDelta := delta, onHandAfter := after, reservedAfter := bal.reservedQty
    unitCost := line.unitCost, avgCostAfter := bal.avgUnitCost
    referenceType := .stockTransfer, referenceId := transferId }
  let store ← store.insertLedger (row .transferLostIn bal.onHandQty lost (bal.onHandQty + lost))
  store.recordMovement (row .transferLoss (bal.onHandQty + lost) (-lost) bal.onHandQty)

def writeTransferLosses (transferId : Uuid) (header : StockTransfer) (store : Store) : Except Failure Store := do
  let transfer ← findTransfer store transferId
  let lines := orderBySku (·.skuId) (transfer.items.filter fun line => 0 < line.discrepancyQty)
  lines.foldlM (writeTransferLoss transferId header) store

def nextTransferStatus (items : List StockTransferItem) (resolveDiscrepancy : Bool) : TransferStatus :=
  if items.any fun item => item.receivedQty + item.discrepancyQty < item.dispatchedQty then .partiallyReceived
  else if (items.any fun item => 0 < item.discrepancyQty) && !resolveDiscrepancy then .discrepancy
  else .received

/-- D17: closing a transfer that has lost units books the loss. -/
def closeLosses (transferId : Uuid) (header : StockTransfer) (nextStatus : TransferStatus) (resolveDiscrepancy : Bool)
    (store : Store) : Except Failure Store :=
  if nextStatus = .received ∧ resolveDiscrepancy = true then writeTransferLosses transferId header store
  else .ok store

/-- What is received when the request lists no lines: everything still on the road. -/
def outstandingLine (item : StockTransferItem) : ReceiveStockTransferLine :=
  { skuId := Text.ofUuid item.skuId
    receivedQty := formatMilliToQty (max item.remaining 0)
    discrepancyQty := some "0.000" }

def repeatedText (seen : List Text) : List Text → Option Text
  | [] => none
  | text :: rest => if text ∈ seen then some text else repeatedText (text :: seen) rest

def assertOneLinePerSku (lines : List ReceiveStockTransferLine) : Except Failure Unit :=
  match repeatedText [] (lines.map (·.skuId)) with
  | none => .ok ()
  | some skuId => .error (.domain .transferDuplicateSku
      s!"SKU {skuId} appears more than once in the receive request" 422)

def receiveTransfer (store : Store) (transferId : Uuid) (dto : ReceiveStockTransferDto) : Except Failure Store := do
  assertOneLinePerSku dto.items
  let header ← findTransfer store transferId
  ensure (header.status.isOpen = true)
    (.domain .transferInvalidState s!"Cannot receive stock transfer in state {header.status}" 409)
  let _ ← assertActiveWarehouse store header.toWarehouseId
  let incomingLines :=
    if dto.items = [] then (orderBySku (·.skuId) header.items).map outstandingLine else dto.items
  let store ← incomingLines.foldlM (receiveTransferLine transferId header dto.resolveDiscrepancy) store
  let transfer ← findTransfer store transferId
  let nextStatus := nextTransferStatus transfer.items dto.resolveDiscrepancy
  let store ← closeLosses transferId header nextStatus dto.resolveDiscrepancy store
  let store := store.putTransfer transferId { transfer with status := nextStatus }
  return store.emit (.transferReceived transferId nextStatus)

/-- One line of a cancellation: off the road and back on the source's shelf at the dispatch cost. -/
def cancelTransferItem (transferId : Uuid) (header : StockTransfer) (store : Store) (item : StockTransferItem) :
    Except Failure Store := do
  let remaining := item.remaining
  if remaining ≤ 0 then return store
  let source : Key := ⟨header.fromWarehouseId, item.skuId⟩
  let destination : Key := ⟨header.toWarehouseId, item.skuId⟩
  ensure (remaining ≤ store.inTransitQty destination) (.domain .transferQuantityMismatch
    (s!"Destination in-transit quantity for SKU {item.skuId} is lower than the "
      ++ s!"{formatMilliToQty remaining} to return") 409)
  let store ← store.updateBalance destination (fun _ => true) fun row =>
    { row with inTransitQty := row.inTransitQty - remaining }
  let old := store.balance source
  let valuation ← computeWeightedAverageCostOnReceipt old.onHandQty old.avgUnitCost remaining item.unitCost
  let store ← store.upsertBalance source
    { onHandQty := valuation.newOnHandMilli, avgUnitCost := valuation.newAvgCostVnd,
      valuationAmount := valuation.newValuationVnd, version := 1 }
    fun row => { row with
      onHandQty := row.onHandQty + remaining, avgUnitCost := valuation.newAvgCostVnd,
      valuationAmount := valuation.newValuationVnd }
  store.recordMovement {
    key := source, movementType := .transferCancel
    qtyBefore := old.onHandQty, qtyDelta := remaining
    onHandAfter := valuation.newOnHandMilli, reservedAfter := old.reservedQty
    unitCost := item.unitCost, avgCostAfter := valuation.newAvgCostVnd
    referenceType := .stockTransfer, referenceId := transferId }

def returnToSource (transferId : Uuid) (header : StockTransfer) (store : Store) : Except Failure Store :=
  if header.status = .draft then .ok store
  else (orderBySku (·.skuId) header.items).foldlM (cancelTransferItem transferId header) store

def cancelTransfer (store : Store) (transferId : Uuid) : Except Failure Store := do
  let header ← findTransfer store transferId
  assertCanCancelStockTransfer header.status
  let store ← returnToSource transferId header store
  return store.putTransfer transferId { header with status := .cancelled }

/-- `inTransitRemainingQty` of a transfer's response: a cancelled transfer has nothing on the road. -/
def inTransitRemainingQty (status : TransferStatus) (item : StockTransferItem) : Int :=
  if status = .cancelled then 0 else item.remaining

end Inventory
