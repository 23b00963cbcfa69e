import RetailApi.Base.Inbox
import RetailApi.Catalog.Products
import RetailApi.Inventory.Store

/-! Inventory's own copy of the catalog's SKUs. Its events may come late, twice and out of order: a variant's is compared with
the version of the row, a product's deactivation with the time of each row. -/

namespace Inventory

open Catalog (CatalogEvent CatalogProductEventPayload CatalogVariantEventPayload Envelope VariantStatus)

/-- A row of `catalog_sku_projection`. -/
structure SkuProjection where
  productId : Uuid
  skuCode : String
  name : String
  status : VariantStatus
  aggregateVersion : Nat
  sourceUpdatedAt : Nat
  barcode : Option String
  basePrice : Option Int
deriving DecidableEq

/-- `UQ_catalog_sku_projection_tenant_sku`: one row a SKU. -/
abbrev SkuProjections := Table Uuid SkuProjection

/-- `Number.isSafeInteger` -/
def isSafeInteger (value : Int) : Bool := -(2 ^ 53 - 1) ≤ value ∧ value ≤ 2 ^ 53 - 1

def SkuProjection.ofPayload (payload : CatalogVariantEventPayload) : SkuProjection where
  productId := payload.productId
  skuCode := payload.skuCode
  name := payload.name
  status := payload.status
  aggregateVersion := payload.aggregateVersion
  sourceUpdatedAt := payload.updatedAt
  barcode := payload.barcode
  basePrice := if isSafeInteger payload.basePrice then some payload.basePrice else none

/-- A row that is ahead of an event: by its version, or by its time at the same version. -/
def SkuProjection.isAhead (existing : SkuProjection) (payload : CatalogVariantEventPayload) : Bool :=
  payload.aggregateVersion < existing.aggregateVersion ∨
    existing.aggregateVersion = payload.aggregateVersion ∧ payload.updatedAt < existing.sourceUpdatedAt

def upsertVariantProjection (rows : SkuProjections) (payload : CatalogVariantEventPayload) : SkuProjections :=
  if (rows.lookup payload.variantId).any (·.isAhead payload) then rows
  else rows.insert payload.variantId (.ofPayload payload)

/-- `WHERE product_id = $2 AND source_updated_at <= $3` -/
def SkuProjection.deactivated (payload : CatalogProductEventPayload) (row : SkuProjection) : SkuProjection :=
  if row.productId = payload.productId ∧ row.sourceUpdatedAt ≤ payload.updatedAt then
    { row with status := .inactive, sourceUpdatedAt := payload.updatedAt }
  else row

def onProductDeactivated (rows : SkuProjections) (payload : CatalogProductEventPayload) : SkuProjections :=
  rows.mapRows fun _ => SkuProjection.deactivated payload

/-- `CatalogSkuProjectionHandler`; the other events of products have no handler here. -/
def handleCatalogEvent (rows : SkuProjections) (envelope : Envelope) : SkuProjections :=
  match envelope.event with
  | .variantCreated payload | .variantUpdated payload | .variantDeactivated payload => upsertVariantProjection rows payload
  | .productDeactivated payload => onProductDeactivated rows payload
  | .productCreated _ | .productUpdated _ => rows

def projected (deliveries : List Envelope) : SkuProjections :=
  Inbox.delivered (·.id) handleCatalogEvent ∅ deliveries

/-- What a reader of the projection sees of a row: all but its times. -/
structure ShownSku where
  productId : Uuid
  skuCode : String
  name : String
  status : VariantStatus
  aggregateVersion : Nat
  barcode : Option String
  basePrice : Option Int
deriving DecidableEq

def SkuProjection.shown (row : SkuProjection) : ShownSku where
  productId := row.productId
  skuCode := row.skuCode
  name := row.name
  status := row.status
  aggregateVersion := row.aggregateVersion
  barcode := row.barcode
  basePrice := row.basePrice

def shownSku (rows : SkuProjections) (skuId : Uuid) : Option ShownSku := (rows.lookup skuId).map (·.shown)

end Inventory
