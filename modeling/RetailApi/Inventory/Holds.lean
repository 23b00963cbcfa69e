import RetailApi.Base.Process
import RetailApi.Base.RowLocks
import RetailApi.Inventory.LegacyStock

/-! Holds of the older stock store, statement by statement: `reserve`, `release`, `commit` and the expiry of a hold are
transactions that interleave, their rows locked as Postgres locks them under read committed. -/

namespace Inventory

open Process RowLocks

abbrev LegalItem := { item : StockItem // item.Legal }

/-- A row of `stock_reservation`, with its `stock_reservation_item` rows. -/
structure ReservationRow where
  id : Uuid
  branchId : Uuid
  status : StockReservationStatus
  expiresAt : Nat
  items : List SkuLine
deriving DecidableEq

/-- What is committed, for one tenant; `UQ_stock_reservation_tenant_order` files the holds by order. `drawn` has the order
that each identifier was drawn for: `randomUUID` draws none twice. -/
structure HoldsDb where
  stockItems : Table LegacyKey LegalItem := ∅
  reservations : Table Uuid ReservationRow := ∅
  ledger : List InventoryLedgerRow := []
  drawn : List Uuid := []

structure Writes where
  stockItems : Locks LegacyKey LegalItem := ∅
  reservations : Locks Uuid ReservationRow := ∅
  ledger : List InventoryLedgerRow := []

abbrev ClosedStatus := { status : StockReservationStatus // status ≠ .held }

/-- The statements. One that names a row by its identifier names its order too, which it is filed under. -/
inductive HoldStatement where
  | insertReservation (orderId branchId : Uuid) (ttlMinutes : Nat)
  | findByOrder (orderId : Uuid)
  | lockReservation (orderId id : Uuid)
  | lockDue (orderId id : Uuid)
  | deleteReservation (orderId id : Uuid)
  | insertItem (orderId : Uuid) (id : Option Uuid) (line : SkuLine)
  | setStatus (orderId id : Uuid) (status : ClosedStatus)
  | holdStock (key : LegacyKey) (quantity : Int)
  | available (key : LegacyKey)
  | lockFree (key : LegacyKey)
  | moveStock (key : LegacyKey) (take fromHold : Int)
  | insertLedger (row : InventoryLedgerRow)

def HoldStatement.Answer : HoldStatement → Type
  | .insertReservation .. => Option Uuid
  | .findByOrder _ | .lockReservation .. | .lockDue .. => Option ReservationRow
  | .deleteReservation .. | .insertItem .. | .setStatus .. | .insertLedger _ => Unit
  | .holdStock .. => Bool
  | .available _ => Int
  | .lockFree _ | .moveStock .. => Option Int

def holdStore : Signature := ⟨HoldStatement, HoldStatement.Answer⟩

namespace Writes

def locksReservation (writes : Writes) (orderId : Uuid) : Bool := (writes.reservations.lookup orderId).isSome

def locksItem (writes : Writes) (key : LegacyKey) : Bool := (writes.stockItems.lookup key).isSome

/-- The hold of an order is being inserted or deleted: an insert for that order waits for it. -/
def replaces (writes : Writes) (orderId : Uuid) : Bool :=
  match writes.reservations.lookup orderId with
  | some version => version.before = none ∨ version.after.map (·.id) ≠ version.before.map (·.id)
  | none => false

def writeReservation (writes : Writes) (db : HoldsDb) (orderId : Uuid) (after : Option ReservationRow) : Writes :=
  { writes with reservations := write writes.reservations db.reservations orderId after }

def writeItem (writes : Writes) (db : HoldsDb) (key : LegacyKey) (after : LegalItem) : Writes :=
  { writes with stockItems := write writes.stockItems db.stockItems key (some after) }

/-- The hold with an identifier, as the transaction sees it. -/
def reservation (writes : Writes) (db : HoldsDb) (orderId id : Uuid) : Option ReservationRow :=
  (seen writes.reservations db.reservations orderId).filter fun row => row.id = id

def item (writes : Writes) (db : HoldsDb) (key : LegacyKey) : Option LegalItem := seen writes.stockItems db.stockItems key

end Writes

def StockItem.free (item : StockItem) : Int := item.quantityOnHand - item.quantityReserved

/-- `item?.available ?? 0` -/
def freeOf (item : Option LegalItem) : Int := (item.map (·.1.free)).getD 0

/-- What comes of a statement: it waits for a lock, fails and takes its transaction with it, or has run. -/
inductive StatementOutcome (α : Type) where
  | waits
  | fails
  | ran (db : HoldsDb) (writes : Writes) (answer : α)

/-- `UPDATE stock_item`, which waits for the row's lock and is checked by `CHK_stock_item_quantities`. -/
def updateItem {α : Type} (others : List Writes) (db : HoldsDb) (writes : Writes) (key : LegacyKey) (item : StockItem)
    (answer : α) : StatementOutcome α :=
  if others.any (·.locksItem key) then .waits
  else if legal : item.Legal then .ran db (writes.writeItem db key ⟨item, legal⟩) answer
  else .fails

/-- `UPDATE` or `DELETE` of a hold, or its `SELECT ... FOR UPDATE`. -/
def updateReservation {α : Type} (others : List Writes) (db : HoldsDb) (writes : Writes) (orderId : Uuid)
    (after : Option ReservationRow) (answer : α) : StatementOutcome α :=
  if others.any (·.locksReservation orderId) then .waits else .ran db (writes.writeReservation db orderId after) answer

/-- A statement of a transaction, run at `now` while `others` are open. -/
def HoldStatement.run (now : Nat) (others : List Writes) (db : HoldsDb) (writes : Writes) :
    (statement : HoldStatement) → StatementOutcome statement.Answer
  | .insertReservation orderId branchId ttlMinutes =>
    -- `ON CONFLICT DO NOTHING`
    if others.any (·.replaces orderId) then .waits
    else match seen writes.reservations db.reservations orderId with
      | some _ => .ran db writes none
      | none => .ran { db with drawn := db.drawn ++ [orderId] }
          (writes.writeReservation db orderId (some ⟨db.drawn.length, branchId, .held, now + ttlMinutes, []⟩))
          (some db.drawn.length)
  | .findByOrder orderId => .ran db writes (seen writes.reservations db.reservations orderId)
  | .lockReservation orderId id =>
    match writes.reservation db orderId id with
    | some row => updateReservation others db writes orderId (some row) (some row)
    | none => .ran db writes none
  | .lockDue orderId id =>
    match (writes.reservation db orderId id).filter fun row => row.status = .held ∧ row.expiresAt < now with
    -- `SKIP LOCKED`
    | some row => if others.any (·.locksReservation orderId) then .ran db writes none
      else .ran db (writes.writeReservation db orderId (some row)) (some row)
    | none => .ran db writes none
  | .deleteReservation orderId id =>
    match writes.reservation db orderId id with
    | some _ => updateReservation others db writes orderId none ()
    | none => .ran db writes ()
  | .insertItem orderId id line =>
    -- `reservation_id` is not null, and references a hold
    match id.bind (writes.reservation db orderId) with
    | some row => updateReservation others db writes orderId (some { row with items := row.items ++ [line] }) ()
    | none => .fails
  | .setStatus orderId id status =>
    match writes.reservation db orderId id with
    | some row => updateReservation others db writes orderId (some { row with status := status.1 }) ()
    | none => .ran db writes ()
  | .holdStock key quantity =>
    match (writes.item db key).filter fun item => quantity ≤ item.1.free with
    | some item => updateItem others db writes key { item.1 with quantityReserved := item.1.quantityReserved + quantity } true
    | none => .ran db writes false
  | .available key => .ran db writes (freeOf (writes.item db key))
  | .lockFree key =>
    match writes.item db key with
    | some item => updateItem others db writes key item.1 (some item.1.free)
    | none => .ran db writes none
  | .moveStock key take fromHold =>
    match writes.item db key with
    | some item => updateItem others db writes key
        ⟨item.1.quantityOnHand - take, item.1.quantityReserved - fromHold⟩ (some (item.1.quantityOnHand - take))
    | none => .ran db writes none
  | .insertLedger row => .ran db { writes with ledger := writes.ledger ++ [row] } ()

structure StockShortage where
  sku : String
  requested : Int
  available : Int
deriving DecidableEq

inductive HoldFailure where
  | stockShortage (shortages : List StockShortage)
  | reservationMismatch
  | undefinedRow
deriving DecidableEq

/-- What a transaction answers: `reserve` the hold and whether it is a new one, the others whether they changed it. -/
inductive HoldReply where
  | reservation (created : Bool) (row : ReservationRow)
  | done (changed : Bool)
deriving DecidableEq

abbrev HoldProgram := Program holdStore (Except HoldFailure HoldReply)

structure ReserveStockRequest where
  orderId : Uuid
  branchId : Uuid
  lines : List SkuLine

def sameLines (left right : List SkuLine) : Bool := mergeLines left = mergeLines right

/-- `em.query` -/
def query (statement : HoldStatement) : Program holdStore statement.Answer := .perform statement .done

/-- Holds what it can of every line, and lists what falls short. -/
def holdLines (branchId : Uuid) : List SkuLine → Program holdStore (List StockShortage)
  | [] => pure []
  | line :: lines => do
    let held : Bool ← query (.holdStock ⟨branchId, line.sku⟩ line.quantity)
    if held = true then holdLines branchId lines
    else
      let available ← query (.available ⟨branchId, line.sku⟩)
      let shortages ← holdLines branchId lines
      return ⟨line.sku, line.quantity, available⟩ :: shortages

def insertItems (orderId : Uuid) (id : Option Uuid) : List SkuLine → Program holdStore Unit
  | [] => pure ()
  | line :: lines => do
    let _ ← query (.insertItem orderId id line)
    insertItems orderId id lines

/-- `toReservation(row!)` -/
def answerReservation (created : Bool) : Option ReservationRow → Except HoldFailure HoldReply
  | some row => .ok (.reservation created row)
  | none => .error .undefinedRow

/-- `reserve`, from the row it has inserted. -/
def reserveLines (request : ReserveStockRequest) (id : Option Uuid) : HoldProgram := do
  let shortages ← holdLines request.branchId (mergeLines request.lines)
  if shortages ≠ [] then return .error (.stockShortage shortages)
  else
    insertItems request.orderId id (mergeLines request.lines)
    let row ← query (.findByOrder request.orderId)
    return answerReservation true row

/-- `reserve` of an order that has a hold: the hold answers, or the order tries again from scratch. -/
def reserveAgain (request : ReserveStockRequest) (ttlMinutes : Nat) (existing : ReservationRow) : HoldProgram :=
  if existing.status = .held ∨ existing.status = .committed then
    if existing.branchId ≠ request.branchId ∨ sameLines existing.items request.lines = false then
      pure (.error .reservationMismatch)
    else pure (.ok (.reservation false existing))
  else do
    let _ ← query (.deleteReservation request.orderId existing.id)
    let id ← query (.insertReservation request.orderId request.branchId ttlMinutes)
    reserveLines request id

/-- `ReservationsService.reserve` -/
def reserveStock (request : ReserveStockRequest) (ttlMinutes : Nat) : HoldProgram := do
  let id ← query (.insertReservation request.orderId request.branchId ttlMinutes)
  match id with
  | some id => reserveLines request (some id)
  | none =>
    let existing ← query (.findByOrder request.orderId)
    match existing with
    | some row => reserveAgain request ttlMinutes row
    | none => return .error .undefinedRow

/-- `findByOrder ... FOR UPDATE`: finds the row, waits for its lock and reads it again, if it is still there. -/
def findLocked (orderId : Uuid) (next : Option ReservationRow → HoldProgram) : HoldProgram := do
  let found ← query (.findByOrder orderId)
  match found with
  | some row =>
    let locked ← query (.lockReservation orderId row.id)
    next locked
  | none => next none

/-- `giveBack` of the lines of a hold. -/
def freeLines (branchId : Uuid) : List SkuLine → Program holdStore Unit
  | [] => pure ()
  | line :: lines => do
    let _ ← query (.moveStock ⟨branchId, line.sku⟩ 0 line.quantity)
    freeLines branchId lines

/-- Returns the held quantities to the free stock and closes the reservation. -/
def giveBack (orderId : Uuid) (row : ReservationRow) (status : ClosedStatus) : HoldProgram := do
  freeLines row.branchId (orderLines row.items)
  let _ ← query (.setStatus orderId row.id status)
  return .ok (.done true)

/-- `ReservationsService.release` -/
def releaseStock (orderId : Uuid) : HoldProgram :=
  findLocked orderId fun row =>
    match row with
    | some row => if row.status = .held then giveBack orderId row ⟨.released, nofun⟩ else pure (.ok (.done false))
    | none => pure (.ok (.done false))

/-- The transaction of `expireDue` for a hold that it has read to be due. -/
def expireHold (orderId id : Uuid) : HoldProgram := do
  let due ← query (.lockDue orderId id)
  match due with
  | some row => giveBack orderId row ⟨.expired, nofun⟩
  | none => return .ok (.done false)

/-- `UPDATE stock_item ... RETURNING quantity_on_hand`, and the ledger row of the sale. -/
def sell (orderId : Uuid) (key : LegacyKey) (take fromHold : Int) (next : HoldProgram) : HoldProgram := do
  let onHand ← query (.moveStock key take fromHold)
  match onHand with
  | some onHand =>
    let _ ← query (.insertLedger ⟨key.branchId, key.sku, -take, onHand, .sale, orderId⟩)
    next
  | none => return .error .undefinedRow

def sellHeld (orderId branchId : Uuid) (next : HoldProgram) : List SkuLine → HoldProgram
  | [] => next
  | line :: lines => sell orderId ⟨branchId, line.sku⟩ line.quantity line.quantity (sellHeld orderId branchId next lines)

/-- What is taken of a line that nothing is held for, of `free`. -/
def takeOf (line : SkuLine) (free : Int) : Int := min line.quantity (max 0 free)

/-- The lines of an order whose hold is gone: each takes at most what other holds leave free; the gap is on record. -/
def sellFree (orderId branchId : Uuid) (next : HoldProgram) : List SkuLine → HoldProgram
  | [] => next
  | line :: lines => do
    let item ← query (.lockFree ⟨branchId, line.sku⟩)
    let take := takeOf line (item.getD 0)
    if take < line.quantity then
      let _ ← query (.insertLedger ⟨branchId, line.sku, 0, item.getD 0, .saleShortfall, orderId⟩)
      if take = 0 then sellFree orderId branchId next lines
      else sell orderId ⟨branchId, line.sku⟩ take 0 (sellFree orderId branchId next lines)
    else if take = 0 then sellFree orderId branchId next lines
    else sell orderId ⟨branchId, line.sku⟩ take 0 (sellFree orderId branchId next lines)

def markCommitted (orderId : Uuid) (row : Option ReservationRow) : HoldProgram :=
  match row with
  | some row => do
    let _ ← query (.setStatus orderId row.id ⟨.committed, nofun⟩)
    return .ok (.done true)
  | none => return .ok (.done true)

/-- `ReservationsService.commit` -/
def commitStock (order : OrderCompletedPayload) : HoldProgram :=
  findLocked order.orderId fun row =>
    match row with
    | some row =>
      match row.status with
      | .committed => pure (.ok (.done false))
      | .held => sellHeld order.orderId row.branchId (markCommitted order.orderId (some row)) (orderLines row.items)
      | .released | .expired =>
        sellFree order.orderId row.branchId (markCommitted order.orderId (some row)) (mergeLines order.items)
    | none => sellFree order.orderId order.branchId (markCommitted order.orderId none) (mergeLines order.items)

inductive HoldCall where
  | reserve (request : ReserveStockRequest) (ttlMinutes : Nat)
  | release (orderId : Uuid)
  | commit (order : OrderCompletedPayload)
  | expire (orderId id : Uuid)

def HoldCall.program : HoldCall → HoldProgram
  | .reserve request ttlMinutes => reserveStock request ttlMinutes
  | .release orderId => releaseStock orderId
  | .commit order => commitStock order
  | .expire orderId id => expireHold orderId id

/-- An open transaction: what it has still to do, and what it has written. -/
structure HoldTransaction where
  program : HoldProgram
  writes : Writes := {}

structure HoldPool where
  db : HoldsDb
  running : Table Nat HoldTransaction := ∅

def HoldPool.others (pool : HoldPool) (thread : Nat) : List Writes := (Table.rows (pool.running.erase thread)).map (·.writes)

def HoldPool.drop (pool : HoldPool) (thread : Nat) : HoldPool := { pool with running := pool.running.erase thread }

/-- `COMMIT`; the ledger rows of a stock row are written under its lock, so they stand in the order of writing. -/
def HoldsDb.commit (db : HoldsDb) (writes : Writes) : HoldsDb :=
  { db with
    stockItems := apply writes.stockItems db.stockItems, reservations := apply writes.reservations db.reservations
    ledger := db.ledger ++ writes.ledger }

inductive HoldInput where
  | begin (thread : Nat) (call : HoldCall)
  | advance (thread now : Nat)
  | abort (thread : Nat)

def HoldPool.advance (pool : HoldPool) (thread now : Nat) (tx : HoldTransaction) : HoldPool :=
  match tx.program with
  | .done (.ok _) => { db := pool.db.commit tx.writes, running := pool.running.erase thread }
  | .done (.error _) => pool.drop thread
  | .perform statement next =>
    match statement.run now (pool.others thread) pool.db tx.writes with
    | .waits => pool
    | .fails => pool.drop thread
    | .ran db writes answer => { db, running := pool.running.insert thread ⟨next answer, writes⟩ }

/-- A transaction begins, goes on, or is rolled back: for a deadlock, an error or a crash. -/
def holdStep (pool : HoldPool) : HoldInput → HoldPool
  | .begin thread call =>
    match pool.running.lookup thread with
    | some _ => pool
    | none => { pool with running := pool.running.insert thread ⟨call.program, {}⟩ }
  | .advance thread now =>
    match pool.running.lookup thread with
    | some tx => pool.advance thread now tx
    | none => pool
  | .abort thread => pool.drop thread

end Inventory
