import RetailApi.Base.Table
import RetailApi.Integration.Domain

/-! Import of external orders: a transaction that evaluates the status or resolves the SKU mappings, the call of Sales, and a
transaction that records the internal order. -/

namespace Integration

inductive NormalizedExternalOrderStatus where
  | unpaid
  | readyToShip
  | shipped
  | delivered
  | cancelled
  | returnRequested
deriving DecidableEq

def NormalizedExternalOrderStatus.text : NormalizedExternalOrderStatus → String
  | .unpaid => "UNPAID"
  | .readyToShip => "READY_TO_SHIP"
  | .shipped => "SHIPPED"
  | .delivered => "DELIVERED"
  | .cancelled => "CANCELLED"
  | .returnRequested => "RETURN_REQUESTED"

/-- `STATUS_PROGRESSION_RANK` -/
def getNormalizedStatusRank : NormalizedExternalOrderStatus → Nat
  | .unpaid => 10
  | .readyToShip => 20
  | .shipped => 30
  | .delivered => 40
  | .cancelled => 50
  | .returnRequested => 60

inductive StatusTransitionOutcome where
  | apply
  | ignoreStale
  | conflictReconciliationRequired
deriving DecidableEq

structure StatusTransitionEvaluation where
  outcome : StatusTransitionOutcome
  reason : Option String := none
  targetRank : Nat

def evaluateExternalStatusProgression (currentStatus : NormalizedExternalOrderStatus) (currentRank : Nat)
    (incomingStatus : NormalizedExternalOrderStatus) : StatusTransitionEvaluation :=
  let targetRank := getNormalizedStatusRank incomingStatus
  if currentRank = 0 then { outcome := .apply, targetRank }
  else if currentStatus = incomingStatus then {
    outcome := .ignoreStale
    reason := some ("Order already at normalized status " ++ incomingStatus.text)
    targetRank := currentRank }
  else if currentStatus = .delivered ∧ incomingStatus = .cancelled then {
    outcome := .conflictReconciliationRequired
    reason := some "Cannot transition a DELIVERED order to CANCELLED without return/reconciliation workflow"
    targetRank := currentRank }
  else if currentStatus = .cancelled ∧ targetRank < getNormalizedStatusRank .cancelled then {
    outcome := .ignoreStale
    reason := some ("Ignoring regression from CANCELLED backward to " ++ incomingStatus.text)
    targetRank := currentRank }
  else if targetRank < currentRank then {
    outcome := .ignoreStale
    reason := some ("Incoming status " ++ incomingStatus.text ++ " (rank " ++ toString targetRank
      ++ ") is older than current status " ++ currentStatus.text ++ " (rank " ++ toString currentRank ++ ")")
    targetRank := currentRank }
  else { outcome := .apply, targetRank }

inductive SkuMappingStatus where
  | active
  | inactive
  | conflict
  | needsReview
deriving DecidableEq

def SkuMappingStatus.text : SkuMappingStatus → String
  | .active => "ACTIVE"
  | .inactive => "INACTIVE"
  | .conflict => "CONFLICT"
  | .needsReview => "NEEDS_REVIEW"

inductive CatalogVariantStatus where
  | active
  | inactive
  | archived
deriving DecidableEq

def CatalogVariantStatus.text : CatalogVariantStatus → String
  | .active => "ACTIVE"
  | .inactive => "INACTIVE"
  | .archived => "ARCHIVED"

structure SkuMappingEntity where
  id : Uuid
  mappingVersion : Nat
  internalVariantId : Uuid
  internalSkuCode : String
  status : SkuMappingStatus
deriving DecidableEq

structure Listing where
  connectionId : Uuid
  externalItemId : String
  externalSkuId : String
deriving DecidableEq

structure ExternalOrderLine where
  externalItemId : String
  externalSkuId : String
  itemName : String
  quantity : Int
  unitPrice : Int
  lineDiscount : Int
deriving DecidableEq

structure NormalizedExternalOrder where
  externalOrderId : String
  externalStatus : String
  normalizedStatus : NormalizedExternalOrderStatus
  externalUpdatedAt : Int
  lines : List ExternalOrderLine
deriving DecidableEq

structure ResolvedOrderLineMapping where
  mappingId : Uuid
  mappingVersion : Nat
  internalVariantId : Uuid
  internalSkuCode : String
  line : ExternalOrderLine
deriving DecidableEq

inductive ChannelOrderSyncStatus where
  | received
  | importing
  | imported
  | mappingRequired
  | shortageHold
  | conflict
  | failed
deriving DecidableEq

/-- `lastErrorCode` -/
inductive OrderErrorCode where
  | domain (code : IntegrationDomainErrorCode)
  | stockInsufficient
deriving DecidableEq

/-- An external order of a connection; the unique key of its reference. -/
structure ExternalOrder where
  connectionId : Uuid
  externalOrderId : String
deriving DecidableEq

structure ChannelOrderRefEntity where
  internalOrderId : Option Uuid := none
  internalOrderCode : Option String := none
  syncStatus : ChannelOrderSyncStatus
  externalStatus : String
  normalizedStatus : NormalizedExternalOrderStatus
  statusRank : Nat
  externalUpdatedAt : Int
  mappingSnapshot : Option (List ResolvedOrderLineMapping) := none
  lastErrorCode : Option OrderErrorCode := none
  lastErrorMessage : Option String := none
  version : Nat := 1
deriving DecidableEq

inductive SyncConflictType where
  | skuUnmapped
  | skuInactive
  | stockInsufficient
  | orderStateConflict
deriving DecidableEq

structure SyncConflictEntity where
  conflictType : SyncConflictType
  order : ExternalOrder
  line : Option ExternalOrderLine := none
  reason : Option String := none
deriving DecidableEq

structure OrderSyncDb where
  mappings : Table Listing SkuMappingEntity := ∅
  variants : Table Uuid CatalogVariantStatus := ∅
  refs : Table ExternalOrder ChannelOrderRefEntity := ∅
  conflicts : List SyncConflictEntity := []

structure MappingConflict where
  conflictType : SyncConflictType
  unmappedLine : ExternalOrderLine
  reason : String

def resolveLine (db : OrderSyncDb) (connectionId : Uuid) (line : ExternalOrderLine) :
    Except MappingConflict ResolvedOrderLineMapping :=
  let listing := "(" ++ line.externalItemId ++ " / " ++ line.externalSkuId ++ ")"
  match db.mappings.lookup ⟨connectionId, line.externalItemId, line.externalSkuId⟩ with
  | none => .error ⟨.skuUnmapped, line, "External SKU " ++ listing ++ " is not mapped"⟩
  | some mapping =>
    if mapping.status ≠ .active then
      .error ⟨.skuInactive, line, "SKU mapping for " ++ listing ++ " is " ++ mapping.status.text⟩
    else
      let status := (db.variants.lookup mapping.internalVariantId).getD .active
      if status ≠ .active then
        .error ⟨.skuInactive, line, "Internal Catalog variant " ++ mapping.internalSkuCode ++ " is " ++ status.text⟩
      else .ok ⟨mapping.id, mapping.mappingVersion, mapping.internalVariantId, mapping.internalSkuCode, line⟩

def ChannelOrderRefEntity.isImported (ref : ChannelOrderRefEntity) : Bool :=
  ref.internalOrderId.isSome && (ref.syncStatus = .imported || ref.syncStatus = .shortageHold)

/-- The lines an import in flight has captured, or those that the mappings give now. -/
def resolveLines (db : OrderSyncDb) (connectionId : Uuid) (existing : Option ChannelOrderRefEntity)
    (order : NormalizedExternalOrder) : Except MappingConflict (List ResolvedOrderLineMapping) :=
  let captured := (existing.filter (·.syncStatus = .importing)).bind (·.mappingSnapshot)
  match captured.filter (·.length = order.lines.length) with
  | some lines => .ok lines
  | none => order.lines.mapM (resolveLine db connectionId)

inductive OrderImportPrep where
  | done (statusOutcome : StatusTransitionOutcome)
  | mappingRequired
  | callSales (lines : List ResolvedOrderLineMapping)

/-- The reference with a new status of an imported order, and the outcome. -/
def progressImported (ref : ChannelOrderRefEntity) (order : NormalizedExternalOrder) :
    ChannelOrderRefEntity × StatusTransitionEvaluation :=
  let evaluation := evaluateExternalStatusProgression ref.normalizedStatus ref.statusRank order.normalizedStatus
  let after := match evaluation.outcome with
    | .ignoreStale => ref
    | .conflictReconciliationRequired => { ref with
        syncStatus := .conflict
        lastErrorCode := some (.domain .externalOrderStateConflict)
        lastErrorMessage := evaluation.reason }
    | .apply => { ref with
        externalStatus := order.externalStatus
        normalizedStatus := order.normalizedStatus
        statusRank := evaluation.targetRank
        externalUpdatedAt := order.externalUpdatedAt
        version := ref.version + 1 }
  (after, evaluation)

def receivedRef (order : NormalizedExternalOrder) (syncStatus : ChannelOrderSyncStatus) : ChannelOrderRefEntity :=
  { syncStatus
    externalStatus := order.externalStatus
    normalizedStatus := order.normalizedStatus
    statusRank := getNormalizedStatusRank order.normalizedStatus
    externalUpdatedAt := order.externalUpdatedAt }

def mappingRequiredRef (existing : Option ChannelOrderRefEntity) (order : NormalizedExternalOrder) (conflict : MappingConflict) :
    ChannelOrderRefEntity :=
  let code : IntegrationDomainErrorCode :=
    if conflict.conflictType = .skuUnmapped then .externalSkuUnknown else .internalVariantInactive
  match existing with
  | none => { receivedRef order .mappingRequired with
      lastErrorCode := some (.domain code), lastErrorMessage := some conflict.reason }
  | some ref => { ref with
      syncStatus := .mappingRequired
      lastErrorCode := some (.domain code)
      lastErrorMessage := some conflict.reason
      version := ref.version + 1 }

def importingRef (existing : Option ChannelOrderRefEntity) (order : NormalizedExternalOrder)
    (lines : List ResolvedOrderLineMapping) : ChannelOrderRefEntity :=
  match existing with
  | none => { receivedRef order .importing with mappingSnapshot := some lines }
  | some ref => { ref with
      syncStatus := .importing
      mappingSnapshot := some lines
      lastErrorCode := none
      lastErrorMessage := none
      version := ref.version + 1 }

/-- `recordMappingConflictInTx`: one open conflict for the order and its listing. -/
def openMappingConflict (db : OrderSyncDb) (key : ExternalOrder) (conflict : MappingConflict) : List SyncConflictEntity :=
  let same (row : SyncConflictEntity) : Bool := row.order = key ∧ row.line.any fun line =>
    line.externalItemId = conflict.unmappedLine.externalItemId ∧ line.externalSkuId = conflict.unmappedLine.externalSkuId
  if db.conflicts.any same then db.conflicts
  else db.conflicts ++ [⟨conflict.conflictType, key, some conflict.unmappedLine, some conflict.reason⟩]

/-- The first transaction of `importNormalizedOrder`, under the advisory lock of the order. -/
def prepareImport (db : OrderSyncDb) (connectionId : Uuid) (order : NormalizedExternalOrder) : OrderSyncDb × OrderImportPrep :=
  let key : ExternalOrder := ⟨connectionId, order.externalOrderId⟩
  let existing := db.refs.lookup key
  match existing.filter (·.isImported) with
  | some ref =>
    let (after, evaluation) := progressImported ref order
    let conflicts := if evaluation.outcome = .conflictReconciliationRequired then
      db.conflicts ++ [⟨.orderStateConflict, key, none, evaluation.reason⟩] else db.conflicts
    ({ db with refs := db.refs.insert key after, conflicts }, .done evaluation.outcome)
  | none =>
    match resolveLines db connectionId existing order with
    | .error conflict =>
      ({ db with
        refs := db.refs.insert key (mappingRequiredRef existing order conflict)
        conflicts := openMappingConflict db key conflict }, .mappingRequired)
    | .ok lines => ({ db with refs := db.refs.insert key (importingRef existing order lines) }, .callSales lines)

structure CanonicalSalesOrderResult where
  internalOrderId : Uuid
  internalOrderCode : String
  shortageDetected : Bool

/-- The last transaction of `importNormalizedOrder`. -/
def recordImport (db : OrderSyncDb) (key : ExternalOrder) (result : CanonicalSalesOrderResult) : OrderSyncDb :=
  match db.refs.lookup key with
  | none => db
  | some ref =>
    let ref := { ref with
      internalOrderId := some result.internalOrderId
      internalOrderCode := some result.internalOrderCode
      version := ref.version + 1 }
    if result.shortageDetected then
      { db with
        refs := db.refs.insert key { ref with
          syncStatus := .shortageHold
          lastErrorCode := some .stockInsufficient
          lastErrorMessage :=
            some "Order imported into Sales in PENDING state due to insufficient available stock" }
        conflicts := db.conflicts ++ [⟨.stockInsufficient, key, none, none⟩] }
    else
      { db with
        refs := db.refs.insert key { ref with
          syncStatus := .imported
          lastErrorCode := none
          lastErrorMessage := none } }

/-- What Sales keeps of an order that came from a marketplace. -/
structure MarketplaceOrder where
  source : ExternalOrder
  code : String

/-- `createOmnichannelOrder` of Sales: the order with this source, or a new one under the unique index on sources. -/
def createOmnichannelOrder (orders : Table Uuid MarketplaceOrder) (source : ExternalOrder) (drawn : Uuid) (code : String) :
    Table Uuid MarketplaceOrder × Uuid × String :=
  match orders.entries.find? fun entry => entry.2.source = source with
  | some entry => (orders, entry.1, entry.2.code)
  | none =>
    let id := Fresh.pick (orders.entries.map (·.1)) drawn
    (orders.insert id ⟨source, code⟩, id, code)

structure OrderImport where
  key : ExternalOrder
  lines : List ResolvedOrderLineMapping
  result : Option CanonicalSalesOrderResult := none

/-- Beside the tables of both services: every snapshot that an import has taken up. -/
structure OrderSyncSystem where
  db : OrderSyncDb := {}
  orders : Table Uuid MarketplaceOrder := ∅
  imports : Table Nat OrderImport := ∅
  taken : List (ExternalOrder × NormalizedExternalOrderStatus) := []

inductive OrderSyncInput where
  | mapListing (listing : Listing) (mapping : SkuMappingEntity)
  | setVariant (id : Uuid) (status : CatalogVariantStatus)
  | prepare (thread : Nat) (connectionId : Uuid) (order : NormalizedExternalOrder)
  | callSales (thread : Nat) (drawn : Uuid) (code : String) (shortageDetected : Bool)
  | loseAnswer (thread : Nat) (drawn : Uuid) (code : String)
  | record (thread : Nat)
  /-- Sales is unavailable, a statement fails or the process ends. -/
  | crash (thread : Nat)

namespace OrderSyncSystem

def prepare (system : OrderSyncSystem) (thread : Nat) (connectionId : Uuid) (order : NormalizedExternalOrder) : OrderSyncSystem :=
  let key : ExternalOrder := ⟨connectionId, order.externalOrderId⟩
  let (db, prep) := prepareImport system.db connectionId order
  { system with
    db
    imports := match prep with
      | .callSales lines => system.imports.insert thread { key, lines }
      | _ => system.imports
    taken := system.taken ++ [(key, order.normalizedStatus)] }

end OrderSyncSystem

def orderSyncStep (system : OrderSyncSystem) : OrderSyncInput → OrderSyncSystem
  | .mapListing listing mapping =>
    { system with db := { system.db with mappings := system.db.mappings.insert listing mapping } }
  | .setVariant id status => { system with db := { system.db with variants := system.db.variants.insert id status } }
  | .prepare thread connectionId order =>
    match system.imports.lookup thread with
    | none => system.prepare thread connectionId order
    | some _ => system
  | .callSales thread drawn code shortageDetected =>
    match system.imports.lookup thread with
    | some ⟨key, lines, none⟩ =>
      let (orders, internalOrderId, internalOrderCode) := createOmnichannelOrder system.orders key drawn code
      { system with
        orders
        imports := system.imports.insert thread ⟨key, lines, some ⟨internalOrderId, internalOrderCode, shortageDetected⟩⟩ }
    | _ => system
  | .loseAnswer thread drawn code =>
    match system.imports.lookup thread with
    | some ⟨key, _, none⟩ =>
      { system with
        orders := (createOmnichannelOrder system.orders key drawn code).1
        imports := system.imports.erase thread }
    | _ => system
  | .record thread =>
    match system.imports.lookup thread with
    | some ⟨key, _, some result⟩ =>
      { system with db := recordImport system.db key result, imports := system.imports.erase thread }
    | _ => system
  | .crash thread => { system with imports := system.imports.erase thread }

end Integration
