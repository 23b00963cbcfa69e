import RetailApi.Inventory.Store

/-! Warehouses and the branches they belong to. A branch sells from its default `BRANCH` warehouse:
which one that is changes when a warehouse is made, moved or named the default. -/

namespace Inventory

open Transaction JsString

inductive BranchStatus where
  | active | inactive
deriving DecidableEq

/-- A row of `branch_projection`. -/
structure BranchProjection where
  code : String
  name : String
  status : BranchStatus
  sourceUpdatedAt : Nat

/-- The warehouses of one tenant with the stock that ties them down, and what inventory knows of the branches. -/
structure BranchDb where
  store : Store := {}
  /-- `created_at` of `warehouse` -/
  createdAt : Table Uuid Nat := ∅
  branches : Table Uuid BranchProjection := ∅
  inbox : List Uuid := []

def BranchDb.isActive (db : BranchDb) (branchId : Uuid) : Bool :=
  (db.branches.lookup branchId).any (·.status = .active)

def BranchDb.setWarehouses (db : BranchDb) (warehouses : Table Uuid Warehouse) : BranchDb :=
  { db with store.warehouses := warehouses }

def isCodeLetter (letter : Char) : Bool := letter.isUpper || letter.isDigit || letter ∈ ['.', '_', '/', '-']

/-- `code.trim().toUpperCase().replace(/\s+/g, '-')` -/
def cleanCode (code : String) : List Char := dashSpaces false ((trim code.toList).flatMap upperLetter)

/-- `[A-Z0-9]` in front -/
def startsPlain : List Char → Bool
  | [] => false
  | letter :: _ => letter.isUpper || letter.isDigit

def normalizeInventoryCode (input fieldName : String) : Except Failure String := do
  let cleaned := cleanCode input
  ensure (startsPlain cleaned = true ∧ cleaned.all isCodeLetter = true ∧ cleaned.length ≤ 64)
    (.domain .invalidQuantity s!"Invalid {fieldName} \"{input}\"" 400)
  return String.ofList cleaned

/-- `SELECT 1 FROM warehouse WHERE code = $2` -/
def codeTaken (store : Store) (code : String) : Bool := store.warehouses.rows.any (·.code = code)

/-- D14: the branch must be known to inventory and active. -/
def assertActiveBranch (db : BranchDb) (branchId : Uuid) : Except Failure Unit := do
  let branch ← required (db.branches.lookup branchId) (.domain .branchNotFound s!"Branch {branchId} not found" 404)
  ensure (branch.status = .active) (.domain .branchNotActive s!"Branch {branchId} is not active" 409)

def defaultRequired : Failure := .domain .warehouseIsDefault
  "This is the default warehouse of its branch: make another warehouse the default first" 409

/-- A `BRANCH` warehouse of a branch. -/
def Warehouse.isOf (warehouse : Warehouse) (branchId : Uuid) : Bool :=
  warehouse.kind = .branch ∧ warehouse.branchId = some branchId

/-- `UPDATE warehouse SET is_default = false` for the other warehouses of a branch -/
def clearDefaults (warehouses : Table Uuid Warehouse) (branchId except : Uuid) : Table Uuid Warehouse :=
  warehouses.mapRows fun id warehouse =>
    if warehouse.isOf branchId ∧ id ≠ except ∧ warehouse.isDefault then { warehouse with isDefault := false } else warehouse

structure CreateM2WarehouseDto where
  code : String
  kind : WarehouseKind := .branch
  branchId : Option Text := none
  isDefault : Option Bool := none

instance : ToString WarehouseKind where
  toString
    | .branch => "BRANCH" | .central => "CENTRAL" | .quarantine => "QUARANTINE"

/-- The branch of a new warehouse: an active one for `BRANCH`, none for the other kinds. -/
def branchOfNew (db : BranchDb) (dto : CreateM2WarehouseDto) : Except Failure (Option Uuid) :=
  match dto.kind, dto.branchId with
  | .branch, none => .error (.domain .warehouseBranchInvalid "A BRANCH warehouse needs a branchId" 400)
  | .branch, some text => do
    let branchId ← text.toUuid
    assertActiveBranch db branchId
    return some branchId
  | kind, some _ => .error (.domain .warehouseBranchInvalid s!"A {kind} warehouse does not belong to a branch" 400)
  | _, none => .ok none

/-- The first warehouse of a branch is its default; later ones only on request. -/
def newIsDefault (store : Store) (branchId : Option Uuid) (requested : Option Bool) : Bool :=
  match branchId with
  | none => false
  | some branch => !store.warehouses.rows.any (·.isOf branch) || requested = some true

/-- The table with the default of a branch moved to a new row. -/
def makeRoom (warehouses : Table Uuid Warehouse) (branchId : Option Uuid) (isDefault : Bool) (warehouseId : Uuid) :
    Table Uuid Warehouse :=
  match branchId with
  | none => warehouses
  | some branch => if isDefault then clearDefaults warehouses branch warehouseId else warehouses

/-- `WarehousesService.create` (D13) -/
def createWarehouse (db : BranchDb) (now : Nat) (warehouseId : Uuid) (dto : CreateM2WarehouseDto) : Except Failure BranchDb := do
  let code ← normalizeInventoryCode dto.code "warehouse code"
  let branchId ← branchOfNew db dto
  ensure (codeTaken db.store code = false) (.domain .warehouseCodeConflict s!"Warehouse code {code} already exists" 409)
  ensure (code.length ≤ 32) (.database "value too long for type character varying(32)")
  ensure (db.store.warehouses.lookup warehouseId = none) (.database "PK_warehouse_id")
  let isDefault := newIsDefault db.store branchId dto.isDefault
  let warehouse : Warehouse := { code, kind := dto.kind, branchId, isDefault, status := .active }
  let room := makeRoom db.store.warehouses branchId isDefault warehouseId
  return { db.setWarehouses (room.insert warehouseId warehouse) with createdAt := db.createdAt.insert warehouseId now }

/-- A balance with anything on hand, on hold or on its way. -/
def hasStock (store : Store) (warehouseId : Uuid) : Bool :=
  store.balances.entries.any fun entry => entry.1.warehouseId = warehouseId ∧
    (0 < entry.2.1.onHandQty ∨ 0 < entry.2.1.reservedQty ∨ 0 < entry.2.1.inTransitQty)

def hasHolds (store : Store) (warehouseId : Uuid) : Bool :=
  store.reservations.rows.any fun row => row.state = .held ∧ row.lines.any (·.key.warehouseId = warehouseId)

def hasOpenTransfers (store : Store) (warehouseId : Uuid) : Bool :=
  store.transfers.rows.any fun row => (row.fromWarehouseId = warehouseId ∨ row.toWarehouseId = warehouseId) ∧
    row.status ∈ [.draft, .dispatched, .partiallyReceived, .discrepancy]

def blockers (store : Store) (warehouseId : Uuid) : List String :=
  (if hasStock store warehouseId then ["NON_ZERO_STOCK_BALANCE"] else [])
    ++ (if hasHolds store warehouseId then ["ACTIVE_RESERVATIONS"] else [])
    ++ if hasOpenTransfers store warehouseId then ["PENDING_TRANSFERS"] else []

def assertCanDeactivateWarehouse (store : Store) (warehouseId : Uuid) : Except Failure Unit := do
  ensure (hasStock store warehouseId = false) (.domain .warehouseHasPendingOperations
    "Cannot deactivate warehouse while it still holds on-hand, reserved, or in-transit stock" 409)
  ensure (hasHolds store warehouseId = false) (.domain .warehouseHasPendingOperations
    "Cannot deactivate warehouse while it has active HELD reservations" 409)
  ensure (hasOpenTransfers store warehouseId = false) (.domain .warehouseHasPendingOperations
    "Cannot deactivate warehouse while it has pending or in-transit stock transfers" 409)

structure UpdateM2WarehouseDto where
  kind : Option WarehouseKind := none
  /-- `undefined`, `null`, or a text -/
  branchId : Option (Option Text) := none
  isDefault : Option Bool := none
  status : Option ActiveStatus := none

/-- The columns an update aims at, and what of them is new. -/
structure Aim where
  kind : WarehouseKind
  branchId : Option Text
  status : ActiveStatus
  kindChanged : Bool
  branchChanged : Bool

def aimOf (existing : Warehouse) (dto : UpdateM2WarehouseDto) : Aim where
  kind := dto.kind.getD existing.kind
  branchId := dto.branchId.getD (existing.branchId.map Text.ofUuid)
  status := dto.status.getD existing.status
  kindChanged := dto.kind.getD existing.kind ≠ existing.kind
  branchChanged := dto.branchId.getD (existing.branchId.map Text.ofUuid) ≠ existing.branchId.map Text.ofUuid

/-- A `BRANCH` warehouse keeps its kind and has a branch; the other kinds have none. -/
def checkAim (existing : Warehouse) (aim : Aim) : Except Failure Unit := do
  ensure (¬(existing.kind = .branch ∧ (aim.kindChanged = true ∨ aim.branchId = none))) (.domain .warehouseBranchLocked
    "A BRANCH warehouse belongs to its branch and cannot be detached" 409)
  ensure (¬(aim.kind = .branch ∧ aim.branchId = none)) (.domain .warehouseBranchInvalid
    "A BRANCH warehouse needs a branchId" 400)
  ensure (¬(aim.kind ≠ .branch ∧ aim.branchId ≠ none)) (.domain .warehouseBranchInvalid
    s!"A {aim.kind} warehouse does not belong to a branch" 400)

def Aim.branch (aim : Aim) : Except Failure (Option Uuid) :=
  match aim.branchId with
  | none => .ok none
  | some text => do
    let branchId ← text.toUuid
    return some branchId

/-- The default of a branch does not move, and nothing moves that is tied down. -/
def checkMove (db : BranchDb) (warehouseId : Uuid) (existing : Warehouse) (aim : Aim) (branchId : Option Uuid) :
    Except Failure Unit :=
  if aim.kindChanged = true ∨ aim.branchChanged = true then
    let reasons := blockers db.store warehouseId
      ++ if existing.isDefault ∧ existing.kind = .branch then ["DEFAULT_WAREHOUSE"] else []
    let listed := String.intercalate ", " reasons
    if reasons ≠ [] then .error (.domain .warehouseBranchLocked
      s!"Cannot change the branch or kind of warehouse {existing.code}: {listed}" 409)
    else
      match aim.kind, branchId with
      | .branch, some branch => assertActiveBranch db branch
      | _, _ => .ok ()
  else .ok ()

def checkDeactivation (db : BranchDb) (warehouseId : Uuid) (existing : Warehouse) (aim : Aim) : Except Failure Unit :=
  if aim.status = .inactive ∧ existing.status ≠ .inactive then do
    assertCanDeactivateWarehouse db.store warehouseId
    ensure (¬(existing.isDefault ∧ existing.kind = .branch ∧ existing.branchId.any db.isActive)) defaultRequired
  else .ok ()

def hasOtherDefault (store : Store) (branchId warehouseId : Uuid) : Bool :=
  store.warehouses.entries.any fun entry => entry.2.isOf branchId ∧ entry.2.isDefault ∧ entry.1 ≠ warehouseId

/-- Whether a warehouse of a branch is its default after the update. Arriving in a branch that has none makes it so. -/
def nextIsDefault (store : Store) (warehouseId branchId : Uuid) (existing : Warehouse) (aim : Aim) (requested : Option Bool) :
    Bool :=
  if requested = some true ∨ existing.isDefault ∧ aim.branchChanged = false ∧ aim.status = .active then true
  else if aim.kindChanged = true ∨ aim.branchChanged = true then
    !hasOtherDefault store branchId warehouseId && aim.status = .active
  else false

/-- The default flag of a `BRANCH` warehouse: never unset by itself, never on an inactive warehouse. -/
def settleDefault (db : BranchDb) (warehouseId branchId : Uuid) (existing : Warehouse) (aim : Aim)
    (requested : Option Bool) : Except Failure Bool := do
  ensure (¬(requested = some false ∧ existing.isDefault ∧ aim.branchChanged = false)) defaultRequired
  let isDefault := nextIsDefault db.store warehouseId branchId existing aim requested
  ensure (¬(isDefault = true ∧ aim.status ≠ .active))
    (.domain .warehouseInactive "An INACTIVE warehouse cannot be the default of a branch" 409)
  return isDefault

def defaultAfter (db : BranchDb) (warehouseId : Uuid) (existing : Warehouse) (aim : Aim) (branchId : Option Uuid)
    (requested : Option Bool) : Except Failure Bool :=
  match aim.kind, branchId with
  | .branch, some branch => settleDefault db warehouseId branch existing aim requested
  | _, _ => .ok false

/-- `WarehousesService.update` (D13, D14) -/
def updateWarehouse (db : BranchDb) (warehouseId : Uuid) (dto : UpdateM2WarehouseDto) : Except Failure BranchDb := do
  let existing ← required (db.store.warehouses.lookup warehouseId)
    (.domain .warehouseNotFound s!"Warehouse {warehouseId} not found" 404)
  let aim := aimOf existing dto
  checkAim existing aim
  let branchId ← aim.branch
  checkMove db warehouseId existing aim branchId
  checkDeactivation db warehouseId existing aim
  let isDefault ← defaultAfter db warehouseId existing aim branchId dto.isDefault
  let warehouse := { existing with kind := aim.kind, branchId, isDefault, status := aim.status }
  let room := makeRoom db.store.warehouses branchId isDefault warehouseId
  return db.setWarehouses (room.insert warehouseId warehouse)

end Inventory
