import RetailApi.Base.RowLocks
import RetailApi.Base.Run
import RetailApi.Catalog.Products

/-! Edits of products and variants, one statement at a time, under read committed. A call reads an entity, tests the version it
expects, and saves the entity under the next one. Saving reads the row once more, and updates the columns that differ. -/

namespace Catalog

open RowLocks Transaction

inductive Entity where
  | product (productId : Uuid)
  | variant (variantId : Uuid)
deriving DecidableEq

inductive CatalogRow where
  | product (row : Product)
  | variant (row : ProductVariant)
deriving DecidableEq

def CatalogRow.version : CatalogRow → Nat
  | .product row => row.version
  | .variant row => row.version

inductive EditRequest where
  | updateProduct (productId : Uuid) (dto : UpdateProduct) (classes : Classes)
  | updateProductStatus (productId : Uuid) (status : ProductStatus) (version : Option Nat)
  | softDeleteProduct (productId : Uuid)
  | updateVariant (variantId : Uuid) (dto : UpdateVariant)
  | updateVariantStatus (variantId : Uuid) (status : VariantStatus) (version : Option Nat)

def EditRequest.entity : EditRequest → Entity
  | .updateProduct productId _ _ | .updateProductStatus productId _ _ | .softDeleteProduct productId => .product productId
  | .updateVariant variantId _ | .updateVariantStatus variantId _ _ => .variant variantId

/-- `dto.version` -/
def EditRequest.expected : EditRequest → Option Nat
  | .updateProductStatus _ _ version | .updateVariantStatus _ _ version => version
  | .updateProduct _ dto _ => dto.version
  | .updateVariant _ dto => dto.version
  | .softDeleteProduct _ => none

inductive ProductChange where
  | edit (dto : UpdateProduct)
  | status (status : ProductStatus)
  | delete

def ProductChange.apply (product : Product) : ProductChange → Product
  | .edit dto => product.edited dto
  | .status wanted => { product with status := wanted, version := product.version + 1 }
  | .delete => { product with status := .archived, version := product.version + 1, deleted := true }

inductive VariantChange where
  | edit (dto : UpdateVariant)
  | status (status : VariantStatus)

def VariantChange.apply (variant : ProductVariant) : VariantChange → ProductVariant
  | .edit dto => variant.edited dto
  | .status wanted => variant.withStatus wanted

/-- An entity that is to be saved: as the call read it, and what the call changes. -/
inductive Save where
  | product (productId : Uuid) (copy : Product) (change : ProductChange)
  | variant (variantId : Uuid) (copy : ProductVariant) (change : VariantChange)

def Save.entity : Save → Entity
  | .product productId _ _ => .product productId
  | .variant variantId _ _ => .variant variantId

def Save.copy : Save → CatalogRow
  | .product _ copy _ => .product copy
  | .variant _ copy _ => .variant copy

def Save.changed : Save → CatalogRow
  | .product _ copy change => .product (change.apply copy)
  | .variant _ copy change => .variant (change.apply copy)

/-- A column that differs from the row read again is updated. -/
def patchColumn {α : Type} [DecidableEq α] (before saved current : α) : α := if saved = before then current else saved

/-- `updated_at` is set by the database, unless it is among the columns that differ. -/
def Product.patched (now : Nat) (before saved current : Product) : Product where
  name := patchColumn before.name saved.name current.name
  description := patchColumn before.description saved.description current.description
  categoryId := patchColumn before.categoryId saved.categoryId current.categoryId
  brandId := patchColumn before.brandId saved.brandId current.brandId
  baseUnit := patchColumn before.baseUnit saved.baseUnit current.baseUnit
  status := patchColumn before.status saved.status current.status
  version := patchColumn before.version saved.version current.version
  updatedAt := patchColumn before.updatedAt saved.updatedAt now
  deleted := patchColumn before.deleted saved.deleted current.deleted

def ProductVariant.patched (now : Nat) (before saved current : ProductVariant) : ProductVariant where
  productId := patchColumn before.productId saved.productId current.productId
  skuCode := patchColumn before.skuCode saved.skuCode current.skuCode
  barcode := patchColumn before.barcode saved.barcode current.barcode
  name := patchColumn before.name saved.name current.name
  basePrice := patchColumn before.basePrice saved.basePrice current.basePrice
  combinationSignature := patchColumn before.combinationSignature saved.combinationSignature current.combinationSignature
  isDefault := patchColumn before.isDefault saved.isDefault current.isDefault
  status := patchColumn before.status saved.status current.status
  version := patchColumn before.version saved.version current.version
  updatedAt := patchColumn before.updatedAt saved.updatedAt now
  deleted := patchColumn before.deleted saved.deleted current.deleted

def CatalogRow.patched (now : Nat) (before saved current : CatalogRow) : CatalogRow :=
  match before, saved, current with
  | .product before, .product saved, .product current => .product (before.patched now saved current)
  | .variant before, .variant saved, .variant current => .variant (before.patched now saved current)
  | _, _, _ => current

inductive RowEdit where
  | product (productId : Uuid) (now : Nat) (change : ProductChange)
  | variant (variantId : Uuid) (now : Nat) (change : VariantChange)

def RowEdit.entity : RowEdit → Entity
  | .product productId _ _ => .product productId
  | .variant variantId _ _ => .variant variantId

def RowEdit.apply (row : CatalogRow) (edit : RowEdit) : CatalogRow :=
  match edit, row with
  | .product _ now change, .product row => .product { change.apply row with updatedAt := now }
  | .variant _ now change, .variant row => .variant { change.apply row with updatedAt := now }
  | _, row => row

def Save.edit (now : Nat) : Save → RowEdit
  | .product productId _ change => .product productId now change
  | .variant variantId _ change => .variant variantId now change

/-- The variants of a product that are still to go its way. -/
structure VariantLoop where
  productId : Uuid
  product : Product
  remaining : List (Uuid × ProductVariant)

inductive EditStage where
  | find
  | findOwner (variantId : Uuid) (variant : ProductVariant) (status : VariantStatus)
  | reread (save : Save) (loop : Option VariantLoop)
  | update (save : Save) (before : CatalogRow) (loop : Option VariantLoop)
  | findVariants (productId : Uuid) (product : Product)
  | commit

structure EditTransaction where
  request : EditRequest
  now : Nat
  stage : EditStage := .find
  locks : Locks Entity CatalogRow := ∅
  events : List CatalogEvent := []
  edits : List RowEdit := []

inductive EditCall where
  | running (tx : EditTransaction)
  | finished (request : EditRequest) (outcome : Except Failure Unit)

def EditCall.locks : EditCall → Locks Entity CatalogRow
  | .running tx => tx.locks
  | .finished _ _ => ∅

inductive EditOutcome where
  | waits
  | fails (error : Failure)
  | goes (tx : EditTransaction)

section View

variable (view : Entity → Option CatalogRow)

/-- `findOne` among the rows that are not deleted. -/
def liveProduct (productId : Uuid) : Option Product :=
  match view (.product productId) with
  | some (.product row) => if row.deleted then none else some row
  | _ => none

def liveVariant (variantId : Uuid) : Option ProductVariant :=
  match view (.variant variantId) with
  | some (.variant row) => if row.deleted then none else some row
  | _ => none

def readProduct (productId : Uuid) : Except Failure Product :=
  required (liveProduct view productId) (.domain .productNotFound "Product not found" .notFound)

def readVariant (variantId : Uuid) : Except Failure ProductVariant :=
  required (liveVariant view variantId) (.domain .variantNotFound "Variant not found" .notFound)

/-- The first statement of a call, with the tests on what it reads. -/
def EditRequest.find : EditRequest → Except Failure EditStage
  | .updateProduct productId dto classes => do
    let product ← readProduct view productId
    checkVersion "Product" dto.version product.version
    verifyCategoryAndBrand classes dto.categoryId.join dto.brandId.join
    return .reread (.product productId product (.edit dto)) none
  | .updateProductStatus productId status version => do
    let product ← readProduct view productId
    checkVersion "Product" version product.version
    validateProductLifecycleTransition product.status status
    return .reread (.product productId product (.status status)) none
  | .softDeleteProduct productId => do
    let product ← readProduct view productId
    return .reread (.product productId product .delete) none
  | .updateVariant variantId dto => do
    let variant ← readVariant view variantId
    checkVersion "Variant" dto.version variant.version
    return .reread (.variant variantId variant (.edit dto)) none
  | .updateVariantStatus variantId status version => do
    let variant ← readVariant view variantId
    checkVersion "Variant" version variant.version
    return .findOwner variantId variant status

/-- A variant whose product is deleted is not checked against it. -/
def checkOwner (variant : ProductVariant) (status : VariantStatus) : Except Failure Unit :=
  match liveProduct view variant.productId with
  | none => .ok ()
  | some product => validateVariantWithProductLifecycle product.status status

end View

/-- A product that goes out of sale takes its variants along. -/
def EditRequest.switchesOff : EditRequest → Bool
  | .updateProductStatus _ status _ => status = .inactive ∨ status = .archived
  | .softDeleteProduct _ => true
  | _ => false

def EditRequest.variantStatus : EditRequest → VariantStatus
  | .updateProductStatus _ status _ => if status = .archived then .archived else .inactive
  | _ => .archived

/-- A change of status leaves the variants that are not active; a deletion leaves none. -/
def EditRequest.takesAlong (request : EditRequest) (variant : ProductVariant) : Bool :=
  match request with
  | .updateProductStatus _ _ _ => variant.status = .active
  | _ => true

def EditRequest.productEvent (request : EditRequest) (payload : CatalogProductEventPayload) : CatalogEvent :=
  match request with
  | .updateProductStatus _ status _ => productStatusEvent status payload
  | .softDeleteProduct _ => .productDeactivated payload
  | _ => .productUpdated payload

def EditRequest.variantEvent (request : EditRequest) (copy : ProductVariant) (payload : CatalogVariantEventPayload) : CatalogEvent :=
  match request with
  | .updateVariant _ _ =>
    .variantUpdated { payload with
      previousSkuCode := if payload.skuCode = copy.skuCode then none else some copy.skuCode }
  | .updateVariantStatus _ status _ => variantStatusEvent status payload
  | _ => .variantDeactivated payload

namespace EditTransaction

def add (tx : EditTransaction) (event : CatalogEvent) : EditTransaction :=
  { tx with events := tx.events ++ [event] }

/-- The next variant of the loop; after the last, the event of the product. -/
def nextVariant (tx : EditTransaction) (loop : VariantLoop) : EditTransaction :=
  match loop.remaining with
  | [] => { tx.add (tx.request.productEvent (loop.product.payload loop.productId)) with stage := .commit }
  | (variantId, variant) :: rest =>
    { tx with
      stage := .reread (.variant variantId variant (.status tx.request.variantStatus)) (some { loop with remaining := rest }) }

/-- What follows an entity that is saved, with the entity as the call holds it by then. -/
def saved (tx : EditTransaction) (save : Save) (held : CatalogRow) (loop : Option VariantLoop) : EditTransaction :=
  match save, held with
  | .product productId _ _, .product product =>
    if tx.request.switchesOff then { tx with stage := .findVariants productId product }
    else { tx.add (tx.request.productEvent (product.payload productId)) with stage := .commit }
  | .variant variantId copy _, .variant variant =>
    let announced := tx.add (tx.request.variantEvent copy (variant.payload variantId))
    match loop with
    | none => { announced with stage := .commit }
    | some loop => announced.nextVariant loop
  | _, _ => tx

end EditTransaction

/-- What is committed, the changes of the calls that succeeded in the order of their commits, and the calls. -/
structure EditRun where
  rows : Table Entity CatalogRow
  outbox : List CatalogEvent := []
  history : List RowEdit := []
  calls : Table Nat EditCall := ∅

namespace EditRun

def lockedBeside (run : EditRun) (call : Nat) : List (Locks Entity CatalogRow) :=
  (run.calls.entries.filter fun entry => entry.1 ≠ call).map fun entry => entry.2.locks

def isFree (run : EditRun) (call : Nat) (entity : Entity) : Bool :=
  (run.lockedBeside call).all fun locks => (locks.lookup entity).isNone

/-- The live variants of a product that are to go its way. -/
def variantsOf (run : EditRun) (tx : EditTransaction) (productId : Uuid) : List (Uuid × ProductVariant) :=
  run.rows.keys.filterMap fun
    | .product _ => none
    | .variant variantId =>
      ((liveVariant (seen tx.locks run.rows) variantId).filter fun variant =>
        variant.productId = productId ∧ tx.request.takesAlong variant).map fun variant => (variantId, variant)

/-- `SELECT` of a save. Where no column differs, there is nothing to update. -/
def reread (run : EditRun) (tx : EditTransaction) (save : Save) (loop : Option VariantLoop) : EditOutcome :=
  match seen tx.locks run.rows save.entity with
  | none => .waits
  | some before =>
    if save.changed = before then .goes (tx.saved save save.changed loop)
    else .goes { tx with stage := .update save before loop }

/-- `UPDATE` of a save: it waits for the lock of the row, and finds the row as it is by then. -/
def update (run : EditRun) (call : Nat) (tx : EditTransaction) (save : Save) (before : CatalogRow)
    (loop : Option VariantLoop) : EditOutcome :=
  if !run.isFree call save.entity then .waits
  else match seen tx.locks run.rows save.entity with
  | none => .waits
  | some current =>
    let updated := { tx with
      locks := write tx.locks run.rows save.entity (some (before.patched tx.now save.changed current))
      edits := tx.edits ++ [save.edit tx.now] }
    .goes (updated.saved save (before.patched tx.now save.changed save.changed) loop)

/-- The next statement of a call that is not at its end. Rows are never removed, so a save finds its row. -/
def statement (run : EditRun) (call : Nat) (tx : EditTransaction) : EditOutcome :=
  match tx.stage with
  | .find =>
    match tx.request.find (seen tx.locks run.rows) with
    | .error error => .fails error
    | .ok stage => .goes { tx with stage }
  | .findOwner variantId variant status =>
    match checkOwner (seen tx.locks run.rows) variant status with
    | .error error => .fails error
    | .ok _ => .goes { tx with stage := .reread (.variant variantId variant (.status status)) none }
  | .reread save loop => run.reread tx save loop
  | .update save before loop => run.update call tx save before loop
  | .findVariants productId product =>
    .goes (tx.nextVariant ⟨productId, product, run.variantsOf tx productId⟩)
  | .commit => .waits

def put (run : EditRun) (call : Nat) (state : EditCall) : EditRun := { run with calls := run.calls.insert call state }

def commit (run : EditRun) (call : Nat) (tx : EditTransaction) : EditRun :=
  { run.put call (.finished tx.request (.ok ())) with
    rows := apply tx.locks run.rows
    outbox := run.outbox ++ tx.events
    history := run.history ++ tx.edits }

def next (run : EditRun) (call : Nat) (tx : EditTransaction) : EditRun :=
  match tx.stage with
  | .commit => run.commit call tx
  | _ =>
    match run.statement call tx with
    | .waits => run
    | .fails error => run.put call (.finished tx.request (.error error))
    | .goes after => run.put call (.running after)

end EditRun

inductive EditInput where
  | start (call : Nat) (now : Nat) (request : EditRequest)
  | next (call : Nat)
  /-- The database refuses a statement: a unique index, a lost connection. -/
  | refuse (call : Nat)

def EditRun.step (run : EditRun) (input : EditInput) : EditRun :=
  match input with
  | .start call now request => if (run.calls.lookup call).isSome then run else run.put call (.running { request, now })
  | .next call =>
    match run.calls.lookup call with
    | some (.running tx) => run.next call tx
    | _ => run
  | .refuse call =>
    match run.calls.lookup call with
    | some (.running tx) => run.put call (.finished tx.request (.error (.database "refused")))
    | _ => run

end Catalog
