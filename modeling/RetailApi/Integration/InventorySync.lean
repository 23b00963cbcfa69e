import RetailApi.Base.JsFraction
import RetailApi.Base.Table
import RetailApi.Integration.Domain

/-! Publication of stock snapshots to one mapped listing of a channel: a transaction that prepares the row, the call of the
provider, and a transaction that records what came of it. -/

namespace Integration

structure PublishingConnection where
  status : ConnectionStatus
  safetyStockBuffer : Int
  stockAllocationPercent : Int

/-- A snapshot of a variant's stock; quantities in thousandths. -/
structure PublishVariantStockInput where
  warehouseId : Uuid
  onHandQty : Int
  reservedQty : Int

structure IntegrationStockProjectionEntity where
  onHandQty : Int
  reservedQty : Int
  availableQty : Int
  stockVersion : Nat

inductive InventoryPublicationStatus where
  | pending
  | publishing
  | succeeded
  | staleSkipped
  | failed
  | unknownOutcome
deriving DecidableEq

structure ChannelInventoryPublicationEntity where
  availableQtySnapshot : Int
  safetyBufferSnapshot : Int
  allocationPercentSnapshot : Int
  targetPublishedQty : Int
  lastConfirmedQty : Option Int := none
  stockVersion : Nat
  lastPublishedStockVersion : Nat := 0
  status : InventoryPublicationStatus := .publishing
  attemptCount : Nat := 1
  lastError : Option String := none

/-- The quantity on hand as a double. -/
def PublishVariantStockInput.onHand (input : PublishVariantStockInput) : ℚ := JsNumber.nearest (input.onHandQty / 1000)

def PublishVariantStockInput.reserved (input : PublishVariantStockInput) : ℚ := JsNumber.nearest (input.reservedQty / 1000)

def PublishVariantStockInput.projection (input : PublishVariantStockInput) (stockVersion : Nat) :
    IntegrationStockProjectionEntity :=
  { onHandQty := input.onHandQty
    reservedQty := input.reservedQty
    availableQty := max 0 ⌊JsNumber.nearest (input.onHand - input.reserved)⌋
    stockVersion }

/-- `calc.availableQty` -/
def PublishVariantStockInput.availableQty (input : PublishVariantStockInput) : Int :=
  max 0 (⌊input.onHand⌋ - ⌊input.reserved⌋)

/-- `calc.publishableQty` -/
def PublishingConnection.publishableQty (conn : PublishingConnection) (input : PublishVariantStockInput) : Int :=
  calculateChannelPublishableQuantity input.onHand input.reserved conn.safetyStockBuffer conn.stockAllocationPercent

/-- The stock projection is replaced by a snapshot that is not older. -/
def upsertProjection (projections : Table Uuid IntegrationStockProjectionEntity) (input : PublishVariantStockInput)
    (stockVersion : Nat) : Table Uuid IntegrationStockProjectionEntity :=
  match projections.lookup input.warehouseId with
  | none => projections.insert input.warehouseId (input.projection stockVersion)
  | some projection =>
    if projection.stockVersion ≤ stockVersion then
      projections.insert input.warehouseId (input.projection stockVersion)
    else projections

/-- The row with a new target; nothing when the snapshot is skipped as stale. -/
def preparePublication (conn : PublishingConnection) (input : PublishVariantStockInput) (stockVersion : Nat) :
    Option ChannelInventoryPublicationEntity → Option ChannelInventoryPublicationEntity
  | none => some {
      availableQtySnapshot := input.availableQty
      safetyBufferSnapshot := conn.safetyStockBuffer
      allocationPercentSnapshot := conn.stockAllocationPercent
      targetPublishedQty := conn.publishableQty input
      stockVersion }
  | some pub =>
    if shouldApplyInventoryStockVersion (max pub.lastPublishedStockVersion pub.stockVersion : Nat) stockVersion = false
        ∧ pub.status = .succeeded then none
    else some { pub with
      availableQtySnapshot := input.availableQty
      safetyBufferSnapshot := conn.safetyStockBuffer
      allocationPercentSnapshot := conn.stockAllocationPercent
      targetPublishedQty := conn.publishableQty input
      stockVersion
      status := .publishing
      attemptCount := pub.attemptCount + 1 }

def recordPublished (stockVersion : Nat) (confirmedQuantity : Int) (row : ChannelInventoryPublicationEntity) :
    ChannelInventoryPublicationEntity :=
  if row.lastPublishedStockVersion ≤ stockVersion then
    { row with
      status := .succeeded
      lastConfirmedQty := some confirmedQuantity
      lastPublishedStockVersion := stockVersion
      lastError := none }
  else row

def IntegrationFailure.publicationStatus : IntegrationFailure → InventoryPublicationStatus
  | .domain .providerTimeoutUnknownOutcome _ _ => .unknownOutcome
  | _ => .failed

def recordPublicationFailure (failure : IntegrationFailure) (row : ChannelInventoryPublicationEntity) :
    ChannelInventoryPublicationEntity :=
  { row with status := failure.publicationStatus, lastError := some failure.message }

/-- A publication between its transactions, and how the provider has answered it. -/
structure StockPublication where
  stockVersion : Nat
  quantity : Int
  outcome : Option (Except IntegrationFailure Int) := none

structure RemoteStock where
  quantity : Int
  stockVersion : Nat
deriving DecidableEq

/-- Beside the rows: the versions of the snapshots published or skipped so far, and whether a publication has failed. -/
structure PublicationSystem where
  connection : PublishingConnection
  mappingActive : Bool
  projections : Table Uuid IntegrationStockProjectionEntity := ∅
  publication : Option ChannelInventoryPublicationEntity := none
  running : Table Nat StockPublication := ∅
  remote : Option RemoteStock := none
  seen : List Nat := []
  failed : Bool := false

/-- A provider that answers with an error may have taken the quantity all the same. -/
inductive ProviderAnswer where
  | confirmed
  | refused (failure : IntegrationFailure) (applied : Bool)

def ProviderAnswer.applied : ProviderAnswer → Bool
  | .confirmed => true
  | .refused _ applied => applied

inductive PublicationInput where
  | prepare (thread : Nat) (stockVersion : Nat)
  | call (thread : Nat) (answer : ProviderAnswer)
  | record (thread : Nat)
  | abort (thread : Nat) (failure : IntegrationFailure)
  | crash (thread : Nat)

namespace PublicationSystem

def prepare (system : PublicationSystem) (thread : Nat) (input : PublishVariantStockInput) (stockVersion : Nat) :
    PublicationSystem :=
  let system := { system with projections := upsertProjection system.projections input stockVersion }
  if system.mappingActive = true ∧ system.connection.status = .connected then
    let system := { system with seen := system.seen ++ [stockVersion] }
    match preparePublication system.connection input stockVersion system.publication with
    | none => system
    | some pub =>
      { system with
        publication := some pub
        running := system.running.insert thread { stockVersion, quantity := pub.targetPublishedQty } }
  else system

def call (system : PublicationSystem) (thread : Nat) (publication : StockPublication) (answer : ProviderAnswer) :
    PublicationSystem :=
  let outcome := match answer with
    | .confirmed => .ok publication.quantity
    | .refused failure _ => .error failure
  { system with
    running := system.running.insert thread { publication with outcome := some outcome }
    remote := if answer.applied then some ⟨publication.quantity, publication.stockVersion⟩ else system.remote
    failed := match answer with
      | .confirmed => system.failed
      | .refused _ _ => true }

def record (system : PublicationSystem) (thread : Nat) (stockVersion : Nat) (outcome : Except IntegrationFailure Int) :
    PublicationSystem :=
  let system := { system with running := system.running.erase thread }
  match outcome with
  | .ok confirmedQuantity =>
    { system with publication := system.publication.map (recordPublished stockVersion confirmedQuantity) }
  | .error failure =>
    { system with publication := system.publication.map (recordPublicationFailure failure), failed := true }

end PublicationSystem

def publicationStep (snapshots : Nat → PublishVariantStockInput) (system : PublicationSystem) :
    PublicationInput → PublicationSystem
  | .prepare thread stockVersion =>
    match system.running.lookup thread with
    | none => system.prepare thread (snapshots stockVersion) stockVersion
    | some _ => system
  | .call thread answer =>
    match system.running.lookup thread with
    | some ⟨stockVersion, quantity, none⟩ => system.call thread ⟨stockVersion, quantity, none⟩ answer
    | _ => system
  | .record thread =>
    match system.running.lookup thread with
    | some ⟨stockVersion, _, some outcome⟩ => system.record thread stockVersion outcome
    | _ => system
  | .abort thread failure =>
    match system.running.lookup thread with
    | some ⟨stockVersion, quantity, some (.ok _)⟩ =>
      { system with
        running := system.running.insert thread ⟨stockVersion, quantity, some (.error failure)⟩
        failed := true }
    | _ => system
  | .crash thread => { system with running := system.running.erase thread, failed := true }

end Integration
