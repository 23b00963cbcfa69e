import RetailApi.Base.JsString
import RetailApi.Base.Table
import RetailApi.Base.Transaction

/-! The product aggregate of the catalog: products, their variants, and their events. A saved row takes the time of its
transaction, and every change of a variant goes with one event that carries the new version. -/

namespace Catalog

open Transaction Catalog JsString

abbrev Uuid := Nat

inductive ProductStatus where
  | draft | active | inactive | archived
deriving DecidableEq

instance : ToString ProductStatus where
  toString
    | .draft => "DRAFT" | .active => "ACTIVE" | .inactive => "INACTIVE" | .archived => "ARCHIVED"

inductive VariantStatus where
  | active | inactive | archived
deriving DecidableEq

inductive CatalogErrorCode where
  | productNotFound | variantNotFound | resourceVersionConflict | invalidProductLifecycle
  | skuAlreadyExists | barcodeAlreadyExists | variantCombinationExists
  | categoryNotFound | categoryInUse | categoryDepthExceeded | categoryCycleDetected
  | brandNotFound | brandInUse
deriving DecidableEq

inductive CatalogErrorKind where
  | badRequest | notFound | conflict
deriving DecidableEq

inductive Failure where
  | domain (code : CatalogErrorCode) (message : String) (kind : CatalogErrorKind)
  | database (constraint : String)

/-- A row of `products`. -/
structure Product where
  name : String
  description : Option String := none
  categoryId : Option Uuid := none
  brandId : Option Uuid := none
  baseUnit : String := "piece"
  status : ProductStatus
  version : Nat
  updatedAt : Nat
  deleted : Bool := false
deriving DecidableEq

/-- A row of `product_variants`. -/
structure ProductVariant where
  productId : Uuid
  skuCode : String
  barcode : Option String
  name : String
  basePrice : Int
  combinationSignature : String
  isDefault : Bool
  status : VariantStatus
  version : Nat
  updatedAt : Nat
  deleted : Bool := false
deriving DecidableEq

structure CatalogProductEventPayload where
  productId : Uuid
  name : String
  baseUnit : String
  categoryId : Option Uuid
  brandId : Option Uuid
  status : ProductStatus
  aggregateVersion : Nat
  updatedAt : Nat
deriving DecidableEq

structure CatalogVariantEventPayload where
  variantId : Uuid
  productId : Uuid
  skuCode : String
  previousSkuCode : Option String := none
  barcode : Option String
  name : String
  basePrice : Int
  status : VariantStatus
  isDefault : Bool
  aggregateVersion : Nat
  updatedAt : Nat
deriving DecidableEq

inductive CatalogEvent where
  | productCreated (payload : CatalogProductEventPayload)
  | productUpdated (payload : CatalogProductEventPayload)
  | productDeactivated (payload : CatalogProductEventPayload)
  | variantCreated (payload : CatalogVariantEventPayload)
  | variantUpdated (payload : CatalogVariantEventPayload)
  | variantDeactivated (payload : CatalogVariantEventPayload)
deriving DecidableEq

def CatalogEvent.variant? : CatalogEvent → Option CatalogVariantEventPayload
  | .variantCreated payload | .variantUpdated payload | .variantDeactivated payload => some payload
  | _ => none

/-- `EventEnvelope`: an event under its own id. -/
structure Envelope where
  id : Uuid
  event : CatalogEvent
deriving DecidableEq

structure CatalogDb where
  products : Table Uuid Product := ∅
  variants : Table Uuid ProductVariant := ∅
  outbox : List Envelope := []

/-- `outbox.add`; ids are never given twice. -/
def CatalogDb.add (db : CatalogDb) (event : CatalogEvent) : CatalogDb :=
  { db with outbox := db.outbox ++ [⟨db.outbox.length, event⟩] }

def Product.payload (productId : Uuid) (product : Product) : CatalogProductEventPayload where
  productId := productId
  name := product.name
  baseUnit := product.baseUnit
  categoryId := product.categoryId
  brandId := product.brandId
  status := product.status
  aggregateVersion := product.version
  updatedAt := product.updatedAt

def ProductVariant.payload (variantId : Uuid) (variant : ProductVariant) : CatalogVariantEventPayload where
  variantId := variantId
  productId := variant.productId
  skuCode := variant.skuCode
  barcode := variant.barcode
  name := variant.name
  basePrice := variant.basePrice
  status := variant.status
  isDefault := variant.isDefault
  aggregateVersion := variant.version
  updatedAt := variant.updatedAt

/-- `where: { id, deletedAt: IsNull() }` -/
def CatalogDb.product (db : CatalogDb) (productId : Uuid) : Option Product :=
  (db.products.lookup productId).filter fun row => !row.deleted

def CatalogDb.variant (db : CatalogDb) (variantId : Uuid) : Option ProductVariant :=
  (db.variants.lookup variantId).filter fun row => !row.deleted

def findProduct (db : CatalogDb) (productId : Uuid) : Except Failure Product :=
  required (db.product productId) (.domain .productNotFound "Product not found" .notFound)

def findVariant (db : CatalogDb) (variantId : Uuid) : Except Failure ProductVariant :=
  required (db.variant variantId) (.domain .variantNotFound "Variant not found" .notFound)

/-- The saved row of a product, `updated_at` set. -/
def CatalogDb.saveProduct (db : CatalogDb) (now : Nat) (productId : Uuid) (product : Product) : CatalogDb :=
  { db with products := db.products.insert productId { product with updatedAt := now } }

/-- The unique indexes of `product_variants`: no other row has the SKU, the barcode, or the product with the combination. -/
def CatalogDb.Admits (db : CatalogDb) (variantId : Uuid) (variant : ProductVariant) : Prop :=
  ∀ entry ∈ db.variants.entries, entry.1 ≠ variantId → entry.2.skuCode ≠ variant.skuCode ∧
    (variant.barcode = none ∨ entry.2.barcode ≠ variant.barcode) ∧
    ¬(entry.2.productId = variant.productId ∧ entry.2.combinationSignature = variant.combinationSignature)

instance (db : CatalogDb) (variantId : Uuid) (variant : ProductVariant) : Decidable (db.Admits variantId variant) :=
  inferInstanceAs (Decidable (∀ entry ∈ db.variants.entries, _))

/-- The saved row of a variant, `updated_at` set, and the event about it. -/
def CatalogDb.saveVariant (db : CatalogDb) (now : Nat) (variantId : Uuid) (variant : ProductVariant)
    (event : CatalogVariantEventPayload → CatalogEvent) : Except Failure CatalogDb := do
  ensure (db.Admits variantId variant) (.database "UQ_product_variants")
  let saved : ProductVariant := { variant with updatedAt := now }
  let db := { db with variants := db.variants.insert variantId saved }
  return db.add (event (saved.payload variantId))

/-- `dto.version !== undefined && dto.version !== row.version` -/
def checkVersion (subject : String) (expected : Option Nat) (current : Nat) : Except Failure Unit :=
  match expected with
  | none => .ok ()
  | some version => ensure (version = current) (.domain .resourceVersionConflict
      s!"{subject} version conflict: expected {version}, current is {current}" .conflict)

def validateProductLifecycleTransition (current next : ProductStatus) : Except Failure Unit :=
  if current = next then .ok ()
  else if current = .archived then .error (.domain .invalidProductLifecycle
    "An ARCHIVED product cannot transition back to another status" .conflict)
  else if current ≠ .draft ∧ next = .draft then .error (.domain .invalidProductLifecycle
    s!"A {current} product cannot transition back to DRAFT" .conflict)
  else .ok ()

def validateVariantWithProductLifecycle (productStatus : ProductStatus) (variantStatus : VariantStatus) :
    Except Failure Unit :=
  ensure (¬(productStatus = .archived ∧ variantStatus = .active)) (.domain .invalidProductLifecycle
    "Cannot activate a variant belonging to an ARCHIVED product" .conflict)

/-- The categories and brands of the tenant as a request finds them: whether each is `ACTIVE`. -/
structure Classes where
  category : Uuid → Option Bool := fun _ => none
  brand : Uuid → Option Bool := fun _ => none

/-- A part that is left out is not edited. -/
structure UpdateProduct where
  version : Option Nat := none
  name : Option String := none
  description : Option (Option String) := none
  categoryId : Option (Option Uuid) := none
  brandId : Option (Option Uuid) := none
  baseUnit : Option String := none

def verifyCategoryAndBrand (classes : Classes) (categoryId brandId : Option Uuid) : Except Failure Unit := do
  if let some categoryId := categoryId then
    let active ← required (classes.category categoryId)
      (.domain .categoryNotFound "Category not found in this tenant" .notFound)
    ensure (active = true) (.domain .categoryInUse "Cannot assign product to an INACTIVE category" .conflict)
  if let some brandId := brandId then
    let active ← required (classes.brand brandId) (.domain .brandNotFound "Brand not found in this tenant" .notFound)
    ensure (active = true) (.domain .brandInUse "Cannot assign product to an INACTIVE brand" .conflict)

def Product.edited (product : Product) (dto : UpdateProduct) : Product :=
  { product with
    name := (dto.name.map trimmed).getD product.name
    description := (dto.description.map (·.map trimmed)).getD product.description
    categoryId := dto.categoryId.getD product.categoryId
    brandId := dto.brandId.getD product.brandId
    baseUnit := (dto.baseUnit.map trimmed).getD product.baseUnit
    version := product.version + 1 }

def updateProduct (db : CatalogDb) (now : Nat) (productId : Uuid) (dto : UpdateProduct) (classes : Classes) :
    Except Failure CatalogDb := do
  let product ← findProduct db productId
  checkVersion "Product" dto.version product.version
  verifyCategoryAndBrand classes dto.categoryId.join dto.brandId.join
  let saved : Product := { product.edited dto with updatedAt := now }
  return (db.saveProduct now productId saved).add (.productUpdated (saved.payload productId))

structure NewVariant where
  variantId : Uuid
  skuCode : String
  barcode : Option String := none
  name : String
  basePrice : Int := 0
  combinationSignature : String := "DEFAULT"
  isDefault : Bool := false

def NewVariant.row (fresh : NewVariant) (productId : Uuid) (status : VariantStatus) : ProductVariant where
  productId := productId
  skuCode := fresh.skuCode
  barcode := fresh.barcode
  name := fresh.name
  basePrice := fresh.basePrice
  combinationSignature := fresh.combinationSignature
  isDefault := fresh.isDefault
  status := status
  version := 1
  updatedAt := 0

/-- `INSERT INTO product_variants` with the event of a new variant. -/
def insertVariant (now : Nat) (productId : Uuid) (status : VariantStatus) (db : CatalogDb) (fresh : NewVariant) :
    Except Failure CatalogDb := do
  ensure (db.variants.lookup fresh.variantId = none) (.database "PK_product_variants_id")
  db.saveVariant now fresh.variantId (fresh.row productId status) .variantCreated

/-- The default variant of a new product, where the request asks for one. -/
def createDefaultVariant (now : Nat) (productId : Uuid) (product : Product) (fresh : Option NewVariant) (db : CatalogDb) :
    Except Failure CatalogDb :=
  match fresh with
  | none => .ok db
  | some variant => insertVariant now productId (if product.status = .archived then .archived else .active) db
      { variant with name := product.name, combinationSignature := "DEFAULT", isDefault := true }

structure CreateProduct where
  name : String
  description : Option String := none
  categoryId : Option Uuid := none
  brandId : Option Uuid := none
  baseUnit : Option String := none
  status : ProductStatus := .active
  defaultVariant : Option NewVariant := none

def CreateProduct.row (dto : CreateProduct) (now : Nat) : Product where
  name := trimmed dto.name
  description := dto.description.map trimmed
  categoryId := dto.categoryId
  brandId := dto.brandId
  baseUnit := ((dto.baseUnit.map trimmed).filter (· ≠ "")).getD "piece"
  status := dto.status
  version := 1
  updatedAt := now

def createProduct (db : CatalogDb) (now : Nat) (productId : Uuid) (dto : CreateProduct) (classes : Classes) :
    Except Failure CatalogDb := do
  verifyCategoryAndBrand classes dto.categoryId dto.brandId
  ensure (db.products.lookup productId = none) (.database "PK_products_id")
  let product := dto.row now
  let db := (db.saveProduct now productId product).add (.productCreated (product.payload productId))
  createDefaultVariant now productId product dto.defaultVariant db

def createVariant (db : CatalogDb) (now : Nat) (productId : Uuid) (fresh : NewVariant) : Except Failure CatalogDb := do
  let product ← findProduct db productId
  validateVariantWithProductLifecycle product.status .active
  insertVariant now productId .active db fresh

/-- A generated combination: the first of them is the default, and none has a barcode. -/
def NewVariant.generated (spec : NewVariant × Nat) : NewVariant := { spec.1 with barcode := none, isDefault := spec.2 = 0 }

/-- `generateVariants`, from the combinations it has worked out. -/
def generateVariants (db : CatalogDb) (now : Nat) (productId : Uuid) (specs : List NewVariant) : Except Failure CatalogDb := do
  let product ← findProduct db productId
  validateVariantWithProductLifecycle product.status .active
  (specs.zipIdx.map NewVariant.generated).foldlM (insertVariant now productId .active) db

structure UpdateVariant where
  version : Option Nat := none
  skuCode : Option String := none
  barcode : Option (Option String) := none
  name : Option String := none
  basePrice : Option Int := none

def ProductVariant.edited (variant : ProductVariant) (dto : UpdateVariant) : ProductVariant :=
  { variant with
    skuCode := dto.skuCode.getD variant.skuCode
    barcode := dto.barcode.getD variant.barcode
    name := dto.name.getD variant.name
    basePrice := dto.basePrice.getD variant.basePrice
    version := variant.version + 1 }

def updateVariant (db : CatalogDb) (now : Nat) (variantId : Uuid) (dto : UpdateVariant) : Except Failure CatalogDb := do
  let variant ← findVariant db variantId
  checkVersion "Variant" dto.version variant.version
  let previousSkuCode := if (variant.edited dto).skuCode = variant.skuCode then none else some variant.skuCode
  db.saveVariant now variantId (variant.edited dto) fun payload => .variantUpdated { payload with previousSkuCode }

def ProductVariant.withStatus (variant : ProductVariant) (status : VariantStatus) : ProductVariant :=
  { variant with status, version := variant.version + 1 }

/-- `INACTIVE` and `ARCHIVED` are announced as deactivations. -/
def variantStatusEvent (status : VariantStatus) : CatalogVariantEventPayload → CatalogEvent :=
  if status = .active then .variantUpdated else .variantDeactivated

/-- A variant whose product is deleted is not checked against it: the repository does not find deleted rows. -/
def checkProductOf (db : CatalogDb) (variant : ProductVariant) (status : VariantStatus) : Except Failure Unit :=
  match db.product variant.productId with
  | none => .ok ()
  | some product => validateVariantWithProductLifecycle product.status status

def updateVariantStatus (db : CatalogDb) (now : Nat) (variantId : Uuid) (status : VariantStatus) (version : Option Nat) :
    Except Failure CatalogDb := do
  let variant ← findVariant db variantId
  checkVersion "Variant" version variant.version
  checkProductOf db variant status
  db.saveVariant now variantId (variant.withStatus status) (variantStatusEvent status)

def softDeleteVariant (db : CatalogDb) (now : Nat) (variantId : Uuid) : Except Failure CatalogDb := do
  let variant ← findVariant db variantId
  db.saveVariant now variantId { variant.withStatus .archived with deleted := true } .variantDeactivated

def CatalogDb.variantsOf (db : CatalogDb) (productId : Uuid) : List (Uuid × ProductVariant) :=
  (db.variants.entries.filter fun entry => entry.2.productId = productId ∧ !entry.2.deleted).map fun entry => (entry.1, entry.2)

def deactivateVariant (now : Nat) (status : VariantStatus) (db : CatalogDb) (entry : Uuid × ProductVariant) :
    Except Failure CatalogDb :=
  db.saveVariant now entry.1 (entry.2.withStatus status) .variantDeactivated

/-- The active variants of a product that is switched off. -/
def deactivateActiveVariants (now : Nat) (productId : Uuid) (status : ProductStatus) (db : CatalogDb) :
    Except Failure CatalogDb :=
  if status = .inactive ∨ status = .archived then
    ((db.variantsOf productId).filter fun entry => entry.2.status = .active).foldlM
      (deactivateVariant now (if status = .archived then .archived else .inactive)) db
  else .ok db

def productStatusEvent (status : ProductStatus) : CatalogProductEventPayload → CatalogEvent :=
  if status = .inactive ∨ status = .archived then .productDeactivated else .productUpdated

def updateProductStatus (db : CatalogDb) (now : Nat) (productId : Uuid) (status : ProductStatus) (version : Option Nat) :
    Except Failure CatalogDb := do
  let product ← findProduct db productId
  checkVersion "Product" version product.version
  validateProductLifecycleTransition product.status status
  let saved : Product := { product with status, version := product.version + 1, updatedAt := now }
  let db ← deactivateActiveVariants now productId status (db.saveProduct now productId saved)
  return db.add (productStatusEvent status (saved.payload productId))

/-- Every live variant is archived with its product, but stays live. -/
def softDeleteProduct (db : CatalogDb) (now : Nat) (productId : Uuid) : Except Failure CatalogDb := do
  let product ← findProduct db productId
  let saved : Product :=
    { product with status := .archived, version := product.version + 1, updatedAt := now, deleted := true }
  let db ← (db.variantsOf productId).foldlM (deactivateVariant now .archived) (db.saveProduct now productId saved)
  return db.add (.productDeactivated (saved.payload productId))

/-- A request on the aggregate, with the time its transaction takes. -/
inductive Request where
  | createProduct (productId : Uuid) (dto : CreateProduct) (classes : Classes)
  | updateProduct (productId : Uuid) (dto : UpdateProduct) (classes : Classes)
  | createVariant (productId : Uuid) (fresh : NewVariant)
  | generateVariants (productId : Uuid) (specs : List NewVariant)
  | updateVariant (variantId : Uuid) (dto : UpdateVariant)
  | updateVariantStatus (variantId : Uuid) (status : VariantStatus) (version : Option Nat)
  | softDeleteVariant (variantId : Uuid)
  | updateProductStatus (productId : Uuid) (status : ProductStatus) (version : Option Nat)
  | softDeleteProduct (productId : Uuid)

def execute (db : CatalogDb) (now : Nat) : Request → Except Failure CatalogDb
  | .createProduct productId dto classes => createProduct db now productId dto classes
  | .updateProduct productId dto classes => updateProduct db now productId dto classes
  | .createVariant productId fresh => createVariant db now productId fresh
  | .generateVariants productId specs => generateVariants db now productId specs
  | .updateVariant variantId dto => updateVariant db now variantId dto
  | .updateVariantStatus variantId status version => updateVariantStatus db now variantId status version
  | .softDeleteVariant variantId => softDeleteVariant db now variantId
  | .updateProductStatus productId status version => updateProductStatus db now productId status version
  | .softDeleteProduct productId => softDeleteProduct db now productId

def perform (db : CatalogDb) (input : Nat × Request) : CatalogDb := commit db (execute db input.1 input.2)

end Catalog
