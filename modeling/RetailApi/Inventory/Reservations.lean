import RetailApi.Inventory.Lines

/-! Warehouse reservations: stock is held for an order, then committed, released or expired. -/

namespace Inventory

open Transaction JsString

structure ReservationLineInput where
  warehouseId : Option Text := none
  skuId : Text
  qty : String

structure CreateWarehouseReservationRequest where
  callerService : CallerService
  sourceRefType : ReferenceType
  sourceRefId : Uuid
  branchId : Option Text := none
  ttlSeconds : Option Nat := none
  noExpiry : Bool := false
  lines : List ReservationLineInput

def parseDecimalToMilli (value : String) : Except Failure Int :=
  required (readSigned 3 (trim value.toList))
    (.reservation .invalidQuantity s!"Invalid decimal quantity \"{value}\" (expected NUMERIC(18,3))" 400)

def formatMilliToDecimal (milli : Int) : String :=
  let abs := milli.natAbs
  let frac := toString (abs % 1000)
  (if milli < 0 then "-" else "") ++ toString (abs / 1000) ++ "."
    ++ String.ofList (List.replicate (3 - frac.length) '0') ++ frac

structure NormalizedReservationLine where
  warehouseId : Option Text
  skuId : Text
  qtyMilli : Int

def NormalizedReservationLine.texts (line : NormalizedReservationLine) : Option Text × Text :=
  (line.warehouseId, line.skuId)

def NormalizedReservationLine.combine (existing line : NormalizedReservationLine) : NormalizedReservationLine :=
  { existing with qtyMilli := existing.qtyMilli + line.qtyMilli }

/-- A missing warehouse is the empty text, which sorts first. -/
def NormalizedReservationLine.before (left right : NormalizedReservationLine) : Prop :=
  if left.warehouseId = right.warehouseId then left.skuId.le right.skuId = true
  else
    match left.warehouseId, right.warehouseId with
    | none, _ => True
    | some _, none => False
    | some first, some second => first.le second = true

open NormalizedReservationLine

instance : DecidableRel before := fun left right => by
  unfold before
  split
  · infer_instance
  · split <;> infer_instance

/-- Duplicate lines merged by their texts, in warehouse and SKU order. -/
def mergeReservationLines (lines : List NormalizedReservationLine) : List NormalizedReservationLine :=
  (lines.foldl (fun merged line =>
    Merge.insert texts combine line merged) []).insertionSort
    before

def normalizeReservationLines (lines : List ReservationLineInput) :
    Except Failure (List NormalizedReservationLine) := do
  ensure (lines ≠ []) (.reservation .invalidQuantity "At least one reservation line is required" 400)
  let parsed ← lines.mapM fun line => do
    let qtyMilli ← parseDecimalToMilli line.qty
    ensure (0 < qtyMilli)
      (.reservation .invalidQuantity "Reservation line quantity must be strictly greater than zero" 400)
    return (⟨line.warehouseId, line.skuId, qtyMilli⟩ : NormalizedReservationLine)
  return mergeReservationLines parsed

/-- D2: a sale takes its stock from its own branch's BRANCH warehouse, the default one
when it names none. -/
def resolveBranchWarehouse (store : Store) (branchId : Text) (warehouseId : Option Text) : Except Failure Uuid :=
  match warehouseId with
  | some named => do
    let id ← named.toUuid
    let warehouse ← required (store.warehouses.lookup id)
      (.domain .warehouseNotFound s!"Warehouse {named} not found" 404)
    ensure (warehouse.kind = .branch ∧ warehouse.branchId.map Text.ofUuid = some branchId)
      (.domain .warehouseNotInBranch
        (s!"Warehouse {warehouse.code} is not a BRANCH warehouse of branch {branchId}; a sale uses its own "
          ++ "branch's warehouse") 409)
    ensure (warehouse.status = .active) (.domain .warehouseInactive
      s!"Warehouse {warehouse.code} ({named}) is INACTIVE and cannot accept stock operations" 409)
    return id
  | none => do
    let branch ← branchId.toUuid
    let entry ← required (store.warehouses.entries.find? fun entry =>
        entry.2.branchId = some branch ∧ entry.2.kind = .branch ∧ entry.2.isDefault ∧ entry.2.status = .active)
      (.domain .branchHasNoWarehouse s!"Branch {branchId} has no active default warehouse" 409)
    return entry.1

def resolveReservationWarehouses (store : Store) (branchId : Option Text) (lines : List NormalizedReservationLine) :
    Except Failure (List NormalizedReservationLine) :=
  match branchId with
  | none => .ok lines
  | some branch => do
    let resolved ← lines.mapM fun line => do
      let warehouseId ← resolveBranchWarehouse store branch line.warehouseId
      return { line with warehouseId := some (Text.ofUuid warehouseId) }
    return mergeReservationLines resolved

/-- The stored line: the SKU as the catalog resolves it; `CHK_warehouse_reservation_line_qty`. -/
def resolveReservationLine (store : Store) (line : NormalizedReservationLine) : Except Failure ReservationLine := do
  let warehouse ← required line.warehouseId (.database "invalid input syntax for type uuid")
  let warehouseId ← warehouse.toUuid
  let _ ← assertActiveWarehouse store warehouseId
  let sku ← assertCatalogSkuEligible store line.skuId
  let skuId ← sku.toUuid
  if legal : 0 < line.qtyMilli then return { key := ⟨warehouseId, skuId⟩, qty := line.qtyMilli, legal }
  else throw (.database "CHK_warehouse_reservation_line_qty")

/-- One held line: a conditional `UPDATE` whose returned row is read at once. -/
def holdLine (store : Store) (line : ReservationLine) : Except Failure Store := do
  let (store, updated) ← store.updateBalanceReturning line.key
    (fun row => line.qty ≤ row.onHandQty - row.reservedQty)
    (fun row => { row with reservedQty := row.reservedQty + line.qty })
  let availableAfter := updated.onHandQty - updated.reservedQty
  return store.emitBelowMinOnCrossing line.key (availableAfter + line.qty) availableAfter

def payloadOf (req : CreateWarehouseReservationRequest) (lines : List NormalizedReservationLine) : ReservationPayload :=
  { callerService := req.callerService, sourceRefType := req.sourceRefType, sourceRefId := req.sourceRefId
    branchId := req.branchId, noExpiry := req.noExpiry
    lines := lines.map fun line => (line.warehouseId, line.skuId, line.qtyMilli) }

def findReservationByKey (store : Store) (callerService : CallerService) (key : String) :
    Option (Uuid × WarehouseReservation) :=
  (store.reservations.entries.find? fun entry =>
    entry.2.callerService = callerService ∧ entry.2.idempotencyKey = key).map fun entry => (entry.1, entry.2)

def defaultTtlSeconds : Nat := 900

/-- Holds every line, or nothing. The result names the reservation and says whether it was replayed. -/
def reserveWarehouseStock (store : Store) (reservationId : Uuid) (now : Nat) (idempotencyKey : String)
    (req : CreateWarehouseReservationRequest) : Except Failure (Store × Uuid × Bool) := do
  let key := trimmed idempotencyKey
  ensure (key ≠ "" ∧ key.length ≤ 128)
    (.reservation .missingIdempotencyKey "Idempotency-Key header is required (1..128 chars)" 400)
  let inputLines ← normalizeReservationLines req.lines
  ensure (¬(req.callerService = .sales ∧ req.branchId = none))
    (.reservation .branchRequired "branchId is required: a sale uses its own branch warehouse" 400)
  ensure (¬(req.branchId = none ∧ ∃ line ∈ inputLines, line.warehouseId = none))
    (.reservation .branchRequired "A line without warehouseId needs the request branchId" 400)
  let payload := payloadOf req inputLines
  match findReservationByKey store req.callerService key with
  | some (existingId, existing) =>
    ensure (existing.requestSha256 = payload) (.reservation .idempotencyConflict
      "Idempotency-Key was already used with a different reservation payload" 409)
    return (store, existingId, true)
  | none =>
    let normalizedLines ← resolveReservationWarehouses store req.branchId inputLines
    let lines ← normalizedLines.mapM (resolveReservationLine store)
    ensure (∀ line ∈ lines, line.qty ≤ store.onHandQty line.key - store.reservedQty line.key)
      (.reservation .insufficientStock "Insufficient available stock for one or more lines" 409)
    ensure (store.reservations.lookup reservationId = none) (.database "PK_warehouse_reservation_id")
    let expiresAt := if req.noExpiry then none else some (now + req.ttlSeconds.getD defaultTtlSeconds * 1000)
    let store ← lines.foldlM holdLine store
    let reservation : WarehouseReservation := {
      callerService := req.callerService, idempotencyKey := key, requestSha256 := payload
      sourceRefType := req.sourceRefType, sourceRefId := req.sourceRefId
      state := .held, expiresAt, lines }
    let store := { store with reservations := store.reservations.insert reservationId reservation }
    return (store.emit (.reservationConfirmed reservationId), reservationId, false)

def findReservation (store : Store) (reservationId : Uuid) : Except Failure WarehouseReservation :=
  required (store.reservations.lookup reservationId)
    (.reservation .reservationNotFound s!"Reservation {reservationId} not found" 404)

/-- `ORDER BY warehouse_id ASC, sku_id ASC` -/
def orderByKey (lines : List ReservationLine) : List ReservationLine :=
  lines.insertionSort fun left right =>
    left.key.warehouseId < right.key.warehouseId ∨
      left.key.warehouseId = right.key.warehouseId ∧ left.key.skuId ≤ right.key.skuId

theorem orderByKey_perm (lines : List ReservationLine) : (orderByKey lines).Perm lines :=
  List.perm_insertionSort _ lines

def Store.putReservation (store : Store) (reservationId : Uuid) (reservation : WarehouseReservation) : Store :=
  { store with reservations := store.reservations.insert reservationId reservation }

/-- One committed line: both the shelf and the hold go down, at the average cost. -/
def commitLine (header : WarehouseReservation) (fulfillmentId : Option Uuid) (store : Store) (line : ReservationLine) :
    Except Failure Store := do
  let old := store.balance line.key
  let valuation ← computeValuationAfterDeduction old.onHandQty old.avgUnitCost line.qty
  let (store, updated) ← store.updateBalanceReturning line.key
    (fun row => line.qty ≤ row.reservedQty && line.qty ≤ row.onHandQty)
    (fun row => { row with
      onHandQty := row.onHandQty - line.qty, reservedQty := row.reservedQty - line.qty
      valuationAmount := valuation.newValuationVnd })
  store.recordMovement {
    key := line.key, movementType := .saleCommit
    qtyBefore := old.onHandQty, qtyDelta := -line.qty
    onHandAfter := updated.onHandQty, reservedAfter := updated.reservedQty
    unitCost := old.avgUnitCost, avgCostAfter := old.avgUnitCost
    referenceType := header.sourceRefType, referenceId := fulfillmentId.getD header.sourceRefId }

def commitWarehouseReservation (store : Store) (reservationId : Uuid) (fulfillmentId : Option Uuid) :
    Except Failure Store := do
  let header ← findReservation store reservationId
  if header.state = .committed then return store
  ensure (header.state = .held)
    (.reservation .invalidReservationState s!"Cannot commit reservation in state {header.state}" 409)
  let store ← (orderByKey header.lines).foldlM (commitLine header fulfillmentId) store
  let store := store.putReservation reservationId { header with state := .committed }
  return store.emit (.reservationCommitted reservationId)

/-- One line given back; the guard never lets a hold go below zero. -/
def giveBackLine (store : Store) (line : ReservationLine) : Except Failure Store :=
  store.updateBalance line.key (fun row => line.qty ≤ row.reservedQty)
    fun row => { row with reservedQty := row.reservedQty - line.qty }

def releaseWarehouseReservation (store : Store) (reservationId : Uuid) : Except Failure Store := do
  let header ← findReservation store reservationId
  if header.state = .released ∨ header.state = .expired then return store
  ensure (header.state ≠ .committed)
    (.reservation .invalidReservationState "Cannot release a committed reservation" 409)
  let store ← (orderByKey header.lines).foldlM giveBackLine store
  let store := store.putReservation reservationId { header with state := .released }
  return store.emit (.reservationReleased reservationId)

/-- `state = 'HELD' AND expires_at < now()`; never true without an expiry. -/
def WarehouseReservation.isDue (reservation : WarehouseReservation) (now : Nat) : Bool :=
  reservation.state = .held && reservation.expiresAt.any (· < now)

def expireWarehouseReservation (store : Store) (reservationId : Uuid) (now : Nat) : Except Failure Store :=
  match store.reservations.lookup reservationId with
  | none => .ok store
  | some header =>
    if header.isDue now then do
      let store ← (orderByKey header.lines).foldlM giveBackLine store
      let store := store.putReservation reservationId { header with state := .expired }
      return store.emit (.reservationExpired reservationId)
    else .ok store

/-- The holds a sweep picks: those due, oldest expiry first. -/
def dueReservations (store : Store) (now limit : Nat) : List Uuid :=
  let due := store.reservations.entries.filter fun entry => entry.2.isDue now
  let sorted := due.insertionSort fun left right => left.2.expiresAt.getD 0 ≤ right.2.expiresAt.getD 0
  (sorted.take limit).map (·.1)

/-- The sweep expires each hold in a transaction of its own; one that fails is left alone. -/
def expireDueWarehouseReservations (store : Store) (now limit : Nat) : Store :=
  (dueReservations store now limit).foldl
    (fun store reservationId => commit store (expireWarehouseReservation store reservationId now)) store

end Inventory
