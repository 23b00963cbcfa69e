import Mathlib.Data.List.Sort
import RetailApi.Inventory.Warehouses

/-! The branch events of platform. An active branch gets its default warehouse in the transaction that
takes note of it; a branch that is switched off keeps no live warehouse that holds nothing. -/

namespace Inventory

open Transaction

structure BranchEventPayload where
  id : Uuid
  code : String
  name : String
  status : BranchStatus
  updatedAt : Nat

/-- `base`, `base-2`, `base-3` and so on, within the 32 letters of a warehouse code -/
def warehouseCodeCandidate (base : List Char) (attempt : Nat) : String :=
  if attempt ≤ 1 then String.ofList (base.take 32)
  else
    let suffix := s!"-{attempt}".toList
    String.ofList (base.take (32 - suffix.length) ++ suffix)

def warehouseCodeFromBranch (code : String) : List Char :=
  let cleaned := (cleanCode code).filter isCodeLetter
  if startsPlain cleaned then cleaned else 'W' :: 'H' :: cleaned

/-- `is_default DESC, (status = 'ACTIVE') DESC, created_at ASC, id ASC` -/
def comesFirst (createdAt : Table Uuid Nat) (left right : Uuid × Warehouse) : Bool :=
  if left.2.isDefault ≠ right.2.isDefault then left.2.isDefault
  else if left.2.status ≠ right.2.status then left.2.status = .active
  else if createdAt.lookup left.1 ≠ createdAt.lookup right.1 then
    (createdAt.lookup left.1).getD 0 < (createdAt.lookup right.1).getD 0
  else left.1 ≤ right.1

/-- The `BRANCH` warehouses of a branch, the one to sell from in front. -/
def branchWarehouses (db : BranchDb) (branchId : Uuid) : List (Uuid × Warehouse) :=
  ((db.store.warehouses.entries.filter fun entry => entry.2.isOf branchId).map fun entry => (entry.1, entry.2)).insertionSort
    fun left right => comesFirst db.createdAt left right = true

/-- The first code of the 999 candidates that no warehouse has. -/
def freeWarehouseCode (store : Store) (base : List Char) : Option String :=
  ((List.range' 1 999).map (warehouseCodeCandidate base)).find? fun code => !codeTaken store code

def insertDefaultWarehouse (db : BranchDb) (now : Nat) (freshId : Uuid) (branch : BranchEventPayload) :
    Except Failure BranchDb := do
  let code ← required (freeWarehouseCode db.store (warehouseCodeFromBranch branch.code))
    (.plain s!"No free warehouse code for branch {branch.id}")
  ensure (db.store.warehouses.lookup freshId = none) (.database "PK_warehouse_id")
  let warehouse : Warehouse := { code, kind := .branch, branchId := some branch.id, isDefault := true, status := .active }
  return { db.setWarehouses (db.store.warehouses.insert freshId warehouse) with createdAt := db.createdAt.insert freshId now }

/-- D1, for an active branch: the default that exists is kept, and switched on again only where the branch was not active
before; the first of its warehouses becomes the default; otherwise one is made. -/
def ensureDefaultBranchWarehouse (db : BranchDb) (now : Nat) (freshId : Uuid) (branch : BranchEventPayload) (reactivate : Bool) :
    Except Failure BranchDb :=
  match (branchWarehouses db branch.id).head? with
  | some (chosen, row) =>
    if row.isDefault = false ∨ reactivate = true ∧ row.status ≠ .active then
      .ok (db.setWarehouses (db.store.warehouses.insert chosen { row with isDefault := true, status := .active }))
    else .ok db
  | none => insertDefaultWarehouse db now freshId branch

/-- An active warehouse of the branch with nothing in it is switched off. -/
def idleOff (store : Store) (branchId id : Uuid) (warehouse : Warehouse) : Warehouse :=
  if warehouse.isOf branchId ∧ warehouse.status = .active ∧ hasStock store id = false then
    { warehouse with status := .inactive }
  else warehouse

def deactivateEmptyBranchWarehouses (db : BranchDb) (branchId : Uuid) : BranchDb :=
  db.setWarehouses (db.store.warehouses.mapRows (idleOff db.store branchId))

def BranchDb.saveProjection (db : BranchDb) (branch : BranchEventPayload) : BranchDb :=
  let row : BranchProjection :=
    { code := branch.code, name := branch.name, status := branch.status, sourceUpdatedAt := branch.updatedAt }
  { db with branches := db.branches.insert branch.id row }

/-- `BranchProjectionHandler.apply`: an event older than the row is ignored. -/
def applyBranchEvent (db : BranchDb) (now : Nat) (freshId : Uuid) (branch : BranchEventPayload) : Except Failure BranchDb :=
  if (db.branches.lookup branch.id).any (branch.updatedAt < ·.sourceUpdatedAt) then .ok db
  else
    match branch.status with
    | .active => ensureDefaultBranchWarehouse (db.saveProjection branch) now freshId branch (!db.isActive branch.id)
    | .inactive => .ok (deactivateEmptyBranchWarehouses (db.saveProjection branch) branch.id)

/-- What happens to the warehouses of a tenant. Created and updated events have one handler. -/
inductive BranchInput where
  | event (eventId : Uuid) (branch : BranchEventPayload) (now : Nat) (freshId : Uuid)
  | create (now : Nat) (freshId : Uuid) (dto : CreateM2WarehouseDto)
  | update (warehouseId : Uuid) (dto : UpdateM2WarehouseDto)
  | stock (balances : Table Key BalanceRow) (reservations : Table Uuid WarehouseReservation)
      (transfers : Table Uuid StockTransfer)

/-- `handleBody`: the inbox row and the handler in one transaction. -/
def handleBranchEvent (db : BranchDb) (eventId : Uuid) (branch : BranchEventPayload) (now : Nat) (freshId : Uuid) : BranchDb :=
  if eventId ∈ db.inbox then db
  else commit db (applyBranchEvent { db with inbox := db.inbox ++ [eventId] } now freshId branch)

def performBranch (db : BranchDb) : BranchInput → BranchDb
  | .event eventId branch now freshId => handleBranchEvent db eventId branch now freshId
  | .create now freshId dto => commit db (createWarehouse db now freshId dto)
  | .update warehouseId dto => commit db (updateWarehouse db warehouseId dto)
  | .stock balances reservations transfers =>
    { db with store.balances := balances, store.reservations := reservations, store.transfers := transfers }

end Inventory
