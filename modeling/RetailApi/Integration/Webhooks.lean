import RetailApi.Base.JsString
import RetailApi.Integration.SyncJobs

/-! The webhook receiver: a delivery is verified, filed in the inbox under its deduplication key, and then enqueued as a
sync job in a transaction of its own. -/

namespace Integration

open Transaction

inductive WebhookEventType where
  | orderStatusUpdate
  | orderCreated
  | orderCancelled
  | reservedStockChange
  | authExpired
  | unknown
deriving DecidableEq

instance : ToString WebhookEventType where
  toString
    | .orderStatusUpdate => "ORDER_STATUS_UPDATE" | .orderCreated => "ORDER_CREATED" | .orderCancelled => "ORDER_CANCELLED"
    | .reservedStockChange => "RESERVED_STOCK_CHANGE" | .authExpired => "AUTH_EXPIRED" | .unknown => "UNKNOWN"

/-- What an adapter reads from a verified webhook; its deduplication key names it among the events of its connection. -/
structure NormalizedWebhookEnvelope where
  externalEventId : String
  eventType : WebhookEventType
  externalShopId : String
  externalOrderId : Option String
  externalStatus : Option String
  providerEventTime : Int
  inlineOrder : Option String

def NormalizedWebhookEnvelope.ofOrder (envelope : NormalizedWebhookEnvelope) : Bool :=
  match envelope.eventType with
  | .orderStatusUpdate | .orderCreated | .orderCancelled => envelope.externalOrderId.isSome
  | _ => false

structure WebhookInboxEventEntity where
  id : Uuid
  provider : MarketplaceProvider
  externalEventId : String
  eventType : WebhookEventType
  externalShopId : String
  externalOrderId : Option String
  providerEventTime : Int
  processingStatus : WebhookProcessingStatus := .validated
  lastError : Option String := none

/-- An event of a provider: of which connection, and its deduplication key. -/
structure ProviderEvent where
  connectionId : Uuid
  deduplicationKey : String
deriving DecidableEq

def ProviderEvent.orderKey (event : ProviderEvent) : String :=
  "wh-job:" ++ toString event.connectionId ++ ":" ++ event.deduplicationKey

def ProviderEvent.authKey (event : ProviderEvent) : String :=
  "wh-auth:" ++ toString event.connectionId ++ ":" ++ event.deduplicationKey

/-- A delivery between two transactions of `ingestWebhook`. -/
inductive DeliveryPhase where
  /-- Its connection is active, and signature and shop are verified. -/
  | verified
  | stored (inboxEventId : Uuid)
  | enqueued
deriving DecidableEq

structure WebhookDelivery where
  event : ProviderEvent
  provider : MarketplaceProvider
  phase : DeliveryPhase
deriving DecidableEq

/-- One store's tables and the deliveries under way; beside them every event whose delivery has been answered with
success, and every event that a delivery has found in the inbox or filed there. -/
structure WebhookSystem where
  db : SyncJobsDb := {}
  inbox : Table ProviderEvent WebhookInboxEventEntity := ∅
  deliveries : Table Nat WebhookDelivery := ∅
  answered : List ProviderEvent := []
  filed : List ProviderEvent := []

inductive WebhookInput where
  | connect (id : Uuid) (conn : ChannelConnectionEntity)
  /-- A delivery arrives; the adapter has verified it or not. -/
  | receive (thread : Nat) (connectionKey : String) (provider : MarketplaceProvider) (deduplicationKey : String)
      (suspended signed : Bool)
  | file (thread : Nat) (drawn : Uuid)
  | enqueue (thread : Nat) (drawn : Uuid) (now : Int)
  | mark (thread : Nat)
  | crash (thread : Nat)

/-- `where: { connectionKey, provider }` -/
def SyncJobsDb.routed (db : SyncJobsDb) (connectionKey : String) (provider : MarketplaceProvider) :
    Option (Uuid × ChannelConnectionEntity) :=
  (db.connections.entries.find? fun entry => entry.2.connectionKey = connectionKey ∧ entry.2.provider = provider).map
    fun entry => (entry.1, entry.2)

def admitWebhook (db : SyncJobsDb) (sends : ProviderEvent → NormalizedWebhookEnvelope) (connectionKey : String)
    (provider : MarketplaceProvider) (deduplicationKey : String) (suspended signed : Bool) :
    Except IntegrationFailure ProviderEvent := do
  let (id, conn) ← required (db.routed (JsString.trimmed connectionKey) provider)
    (.domain .channelConnectionNotFound "Unknown webhook routing connection key" none)
  ensure (suspended = false) (.other "This store is suspended; retry later")
  ensure (conn.status ≠ .disconnected ∧ conn.status ≠ .paused)
    (.domain .channelConnectionInactive s!"Channel connection {conn.code} is {conn.status}" none)
  ensure (signed = true) (.domain .invalidWebhookSignature "webhook signature verification failed" none)
  let event : ProviderEvent := ⟨id, deduplicationKey⟩
  let shop := (sends event).externalShopId
  ensure (shop = conn.externalShopId) (.domain .invalidWebhookSignature
    s!"Webhook shop identity ({shop}) does not match connection shop ({conn.externalShopId})" none)
  return event

def inboxRow (envelope : NormalizedWebhookEnvelope) (provider : MarketplaceProvider) (id : Uuid) : WebhookInboxEventEntity :=
  { id, provider
    externalEventId := envelope.externalEventId
    eventType := envelope.eventType
    externalShopId := envelope.externalShopId
    externalOrderId := envelope.externalOrderId
    providerEventTime := envelope.providerEventTime }

def orderJob (event : ProviderEvent) (envelope : NormalizedWebhookEnvelope) (inboxEventId : Uuid) : EnqueueSyncJobInput :=
  { connectionId := event.connectionId
    jobType := .orderImport
    idempotencyKey := event.orderKey
    payload := {
      inboxEventId := some inboxEventId
      externalOrderId := envelope.externalOrderId
      externalStatus := envelope.externalStatus
      rawOrder := envelope.inlineOrder } }

def authJob (event : ProviderEvent) (inboxEventId : Uuid) : EnqueueSyncJobInput :=
  { connectionId := event.connectionId
    jobType := .connectionTokenRefresh
    idempotencyKey := event.authKey
    payload := { inboxEventId := some inboxEventId } }

namespace WebhookSystem

/-- `randomUUID` for a new job. -/
def newJobId (system : WebhookSystem) (drawn : Uuid) : Uuid := Fresh.pick (system.db.jobs.entries.map (·.1)) drawn

def drop (system : WebhookSystem) (thread : Nat) : WebhookSystem :=
  { system with deliveries := system.deliveries.erase thread }

def answer (system : WebhookSystem) (thread : Nat) (event : ProviderEvent) : WebhookSystem :=
  { system.drop thread with answered := system.answered ++ [event] }

def advance (system : WebhookSystem) (thread : Nat) (delivery : WebhookDelivery) (phase : DeliveryPhase) : WebhookSystem :=
  { system with deliveries := system.deliveries.insert thread { delivery with phase } }

def setInbox (system : WebhookSystem) (event : ProviderEvent) (change : WebhookInboxEventEntity → WebhookInboxEventEntity) :
    WebhookSystem :=
  match system.inbox.lookup event with
  | none => system
  | some row => { system with inbox := system.inbox.insert event (change row) }

/-- The transaction on the inbox, under the advisory lock of the deduplication key. -/
def file (system : WebhookSystem) (sends : ProviderEvent → NormalizedWebhookEnvelope) (thread : Nat) (delivery : WebhookDelivery)
    (drawn : Uuid) : WebhookSystem :=
  let event := delivery.event
  let system := { system with filed := system.filed ++ [event] }
  match system.inbox.lookup event with
  | some _ => system.answer thread event
  | none =>
    { system.advance thread delivery (.stored drawn) with
      inbox := system.inbox.insert event (inboxRow (sends event) delivery.provider drawn) }

def dispatch (system : WebhookSystem) (sends : ProviderEvent → NormalizedWebhookEnvelope) (thread : Nat)
    (delivery : WebhookDelivery) (inboxEventId drawn : Uuid) (now : Int) : WebhookSystem :=
  let event := delivery.event
  if (sends event).ofOrder then
    match enqueueSyncJob system.db (orderJob event (sends event) inboxEventId) (system.newJobId drawn) now with
    | .ok (db, _) => { system with db }.advance thread delivery .enqueued
    | .error _ => system.drop thread
  else if (sends event).eventType = .authExpired then
    match enqueueSyncJob system.db (authJob event inboxEventId) (system.newJobId drawn) now with
    | .ok (db, _) => { system with db }.answer thread event
    | .error _ => system.drop thread
  else
    (system.setInbox event fun row => { row with
      processingStatus := .needsReview
      lastError := some s!"Unhandled webhook eventType {(sends event).eventType}" }).answer thread event

end WebhookSystem

/-- `sends` is what the provider sends of an event, the same each time it delivers it. -/
def webhookStep (sends : ProviderEvent → NormalizedWebhookEnvelope) (system : WebhookSystem) : WebhookInput → WebhookSystem
  | .connect id conn =>
    { system with db := { system.db with connections := system.db.connections.insert id conn } }
  | .receive thread connectionKey provider deduplicationKey suspended signed =>
    match system.deliveries.lookup thread, admitWebhook system.db sends connectionKey provider deduplicationKey suspended signed with
    | none, .ok event => system.advance thread ⟨event, provider, .verified⟩ .verified
    | _, _ => system
  | .file thread drawn =>
    match system.deliveries.lookup thread with
    | some ⟨event, provider, .verified⟩ => system.file sends thread ⟨event, provider, .verified⟩ drawn
    | _ => system
  | .enqueue thread drawn now =>
    match system.deliveries.lookup thread with
    | some ⟨event, provider, .stored inboxEventId⟩ =>
      system.dispatch sends thread ⟨event, provider, .stored inboxEventId⟩ inboxEventId drawn now
    | _ => system
  | .mark thread =>
    match system.deliveries.lookup thread with
    | some ⟨event, _, .enqueued⟩ =>
      (system.setInbox event fun row => { row with processingStatus := .processing }).answer thread event
    | _ => system
  | .crash thread => system.drop thread

end Integration
