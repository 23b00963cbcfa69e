import RetailApi.Base.Inbox
import RetailApi.Catalog.Products

/-! The dimension cache of insight: what the reports know about a product, a variant or a customer, learnt from the events of
the catalog and of the customer service. One store. -/

namespace Insight

open Catalog (ProductStatus VariantStatus)

inductive CustomerStatus where
  | active | inactive | anonymized
deriving DecidableEq

inductive DimensionType where
  | product | variant | customer
deriving DecidableEq

/-- `dimension_type` and `entity_id`, the unique key of the cache. -/
structure DimensionKey where
  dimensionType : DimensionType
  entityId : String
deriving DecidableEq

inductive DimensionMetadata where
  | empty
  | product (baseUnit : String) (status : ProductStatus)
  | variant (variantId : String) (basePrice : Int) (status : VariantStatus)
  | customer (membershipTierId : Option String) (status : CustomerStatus)
deriving DecidableEq

/-- A row of `insight_dimension_caches`. -/
structure DimensionRow where
  code : String
  name : String
  parentId : Option String
  categoryId : Option String
  brandId : Option String
  customerGroupId : Option String
  metadata : DimensionMetadata
  aggregateVersion : Int
deriving DecidableEq

abbrev DimensionCache := Table DimensionKey DimensionRow

/-- The argument of `upsertDimensionCache`. -/
structure DimensionInput where
  key : DimensionKey
  code : String
  name : String
  parentId : Option String := none
  categoryId : Option String := none
  brandId : Option String := none
  customerGroupId : Option String := none
  metadata : Option DimensionMetadata := none
  aggregateVersion : Option Int := none

def DimensionInput.inserted (input : DimensionInput) : DimensionRow where
  code := input.code
  name := input.name
  parentId := input.parentId
  categoryId := input.categoryId
  brandId := input.brandId
  customerGroupId := input.customerGroupId
  metadata := input.metadata.getD .empty
  aggregateVersion := input.aggregateVersion.getD 1

/-- `ON CONFLICT … DO UPDATE`: each column is set by itself, and four of them keep their value over a null. -/
def DimensionRow.merged (row excluded : DimensionRow) : DimensionRow where
  code := if row.aggregateVersion ≤ excluded.aggregateVersion then excluded.code else row.code
  name := if row.aggregateVersion ≤ excluded.aggregateVersion then excluded.name else row.name
  parentId := if row.aggregateVersion ≤ excluded.aggregateVersion then excluded.parentId.or row.parentId else row.parentId
  categoryId := if row.aggregateVersion ≤ excluded.aggregateVersion then excluded.categoryId.or row.categoryId else row.categoryId
  brandId := if row.aggregateVersion ≤ excluded.aggregateVersion then excluded.brandId.or row.brandId else row.brandId
  customerGroupId :=
    if row.aggregateVersion ≤ excluded.aggregateVersion then excluded.customerGroupId.or row.customerGroupId
    else row.customerGroupId
  metadata := if row.aggregateVersion ≤ excluded.aggregateVersion then excluded.metadata else row.metadata
  aggregateVersion := max row.aggregateVersion excluded.aggregateVersion

def upsertDimensionCache (cache : DimensionCache) (input : DimensionInput) : DimensionCache :=
  cache.insert input.key (((cache.lookup input.key).map fun row => row.merged input.inserted).getD input.inserted)

/-- What the query runner answers an `UPDATE … RETURNING` with is a pair: the rows, and how many they are. -/
inductive UpdateAnswer where
  | rows (returned : List DimensionRow)
  | affected (count : Nat)

def answerOfUpdate (returned : List DimensionRow) : List UpdateAnswer := [.rows returned, .affected returned.length]

def setCustomerGroup (cache : DimensionCache) (customerId groupId : String) : DimensionCache :=
  let key : DimensionKey := ⟨.customer, customerId⟩
  let returned := (cache.lookup key).map fun row => { row with customerGroupId := some groupId }
  let changed := (returned.map fun row => cache.insert key row).getD cache
  let updated := answerOfUpdate returned.toList
  if updated.length = 0 then
    upsertDimensionCache changed { key := key, code := customerId, name := customerId, customerGroupId := some groupId }
  else changed

structure CatalogProductEventPayload where
  productId : String
  name : String
  baseUnit : String
  categoryId : Option String
  brandId : Option String
  status : ProductStatus
  aggregateVersion : Option Int
deriving DecidableEq

structure CatalogVariantEventPayload where
  variantId : String
  productId : String
  skuCode : String
  name : String
  basePrice : Int
  status : VariantStatus
  aggregateVersion : Option Int
deriving DecidableEq

structure CustomerLifecycleEventPayload where
  customerId : String
  code : String
  status : CustomerStatus
  customerGroupId : Option String
  membershipTierId : Option String
  version : Option Int
deriving DecidableEq

structure CustomerGroupChangedPayload where
  customerId : String
  newGroupId : Option String
  occurredAt : Nat
deriving DecidableEq

def CatalogProductEventPayload.dimension (p : CatalogProductEventPayload) : DimensionInput where
  key := ⟨.product, p.productId⟩
  code := p.productId
  name := p.name
  categoryId := p.categoryId
  brandId := p.brandId
  aggregateVersion := some (p.aggregateVersion.getD 1)
  metadata := some (.product p.baseUnit p.status)

def CatalogVariantEventPayload.dimension (v : CatalogVariantEventPayload) : DimensionInput where
  key := ⟨.variant, v.skuCode⟩
  code := v.skuCode
  name := v.name
  parentId := some v.productId
  aggregateVersion := some (v.aggregateVersion.getD 1)
  metadata := some (.variant v.variantId v.basePrice v.status)

def CustomerLifecycleEventPayload.dimension (c : CustomerLifecycleEventPayload) : DimensionInput where
  key := ⟨.customer, c.customerId⟩
  code := c.code
  name := c.code
  customerGroupId := some (c.customerGroupId.getD "WALK_IN")
  aggregateVersion := some (c.version.getD 1)
  metadata := some (.customer c.membershipTierId c.status)

def CustomerGroupChangedPayload.groupId (c : CustomerGroupChangedPayload) : String := c.newGroupId.getD "WALK_IN"

def onProductCreated (cache : DimensionCache) (p : CatalogProductEventPayload) : DimensionCache :=
  upsertDimensionCache cache p.dimension

def onProductUpdated (cache : DimensionCache) (p : CatalogProductEventPayload) : DimensionCache := onProductCreated cache p

def onProductDeactivated (cache : DimensionCache) (p : CatalogProductEventPayload) : DimensionCache := onProductCreated cache p

def onVariantCreated (cache : DimensionCache) (v : CatalogVariantEventPayload) : DimensionCache :=
  upsertDimensionCache cache v.dimension

def onVariantUpdated (cache : DimensionCache) (v : CatalogVariantEventPayload) : DimensionCache := onVariantCreated cache v

def onVariantDeactivated (cache : DimensionCache) (v : CatalogVariantEventPayload) : DimensionCache := onVariantCreated cache v

def onCustomerCreated (cache : DimensionCache) (c : CustomerLifecycleEventPayload) : DimensionCache :=
  upsertDimensionCache cache c.dimension

def onCustomerUpdated (cache : DimensionCache) (c : CustomerLifecycleEventPayload) : DimensionCache := onCustomerCreated cache c

def onCustomerDeactivated (cache : DimensionCache) (c : CustomerLifecycleEventPayload) : DimensionCache :=
  onCustomerCreated cache c

def onCustomerGroupChanged (cache : DimensionCache) (c : CustomerGroupChangedPayload) : DimensionCache :=
  setCustomerGroup cache c.customerId c.groupId

inductive DimensionEvent where
  | productCreated (payload : CatalogProductEventPayload)
  | productUpdated (payload : CatalogProductEventPayload)
  | productDeactivated (payload : CatalogProductEventPayload)
  | variantCreated (payload : CatalogVariantEventPayload)
  | variantUpdated (payload : CatalogVariantEventPayload)
  | variantDeactivated (payload : CatalogVariantEventPayload)
  | customerCreated (payload : CustomerLifecycleEventPayload)
  | customerUpdated (payload : CustomerLifecycleEventPayload)
  | customerDeactivated (payload : CustomerLifecycleEventPayload)
  | customerGroupChanged (payload : CustomerGroupChangedPayload)
deriving DecidableEq

structure DimensionEnvelope where
  id : Nat
  event : DimensionEvent
deriving DecidableEq

def handleDimensionEvent (cache : DimensionCache) (envelope : DimensionEnvelope) : DimensionCache :=
  match envelope.event with
  | .productCreated payload => onProductCreated cache payload
  | .productUpdated payload => onProductUpdated cache payload
  | .productDeactivated payload => onProductDeactivated cache payload
  | .variantCreated payload => onVariantCreated cache payload
  | .variantUpdated payload => onVariantUpdated cache payload
  | .variantDeactivated payload => onVariantDeactivated cache payload
  | .customerCreated payload => onCustomerCreated cache payload
  | .customerUpdated payload => onCustomerUpdated cache payload
  | .customerDeactivated payload => onCustomerDeactivated cache payload
  | .customerGroupChanged payload => onCustomerGroupChanged cache payload

def dimensionCache (deliveries : List DimensionEnvelope) : DimensionCache :=
  Inbox.delivered (·.id) handleDimensionEvent ∅ deliveries

end Insight
