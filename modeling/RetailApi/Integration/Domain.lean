import Mathlib.Data.Rat.Floor
import RetailApi.Base.Transaction

/-! Names, errors and value rules of the integration service. -/

namespace Integration

abbrev Uuid := Nat

inductive MarketplaceProvider where
  | shopee
  | lazada
deriving DecidableEq

inductive ConnectionStatus where
  | pendingAuth
  | connected
  | degraded
  | tokenExpired
  | reauthRequired
  | paused
  | disconnected
deriving DecidableEq

instance : ToString ConnectionStatus where
  toString
    | .pendingAuth => "PENDING_AUTH" | .connected => "CONNECTED" | .degraded => "DEGRADED" | .tokenExpired => "TOKEN_EXPIRED"
    | .reauthRequired => "REAUTH_REQUIRED" | .paused => "PAUSED" | .disconnected => "DISCONNECTED"

inductive WebhookProcessingStatus where
  | received
  | validated
  | processing
  | processed
  | needsReview
  | retryPending
  | deadLettered
deriving DecidableEq

inductive SyncJobType where
  | orderImport
  | orderPoll
  | inventoryPublication
  | productMappingSync
  | productPublication
  | connectionTokenRefresh
deriving DecidableEq

inductive SyncJobStatus where
  | pending
  | running
  | retryScheduled
  | completed
  | failedPermanent
  | cancelled
  | needsReview
  | deadLettered
deriving DecidableEq

inductive ErrorClassification where
  | transient
  | permanentConfig
  | businessConflict
  | unknownOutcome
deriving DecidableEq

inductive IntegrationDomainErrorCode where
  | channelConnectionNotFound
  | channelConnectionInactive
  | channelAuthorizationFailed
  | invalidWebhookSignature
  | webhookPersistenceFailed
  | webhookPayloadUnsupported
  | externalSkuUnknown
  | skuMappingNotFound
  | skuMappingConflict
  | internalVariantInactive
  | externalOrderMappingRequired
  | externalOrderStateConflict
  | inventoryPublicationConflict
  | providerRateLimited
  | providerUnavailable
  | providerCircuitOpen
  | providerTimeoutUnknownOutcome
  | providerCapabilityUnsupported
  | syncJobNotFound
  | syncJobAlreadyRunning
deriving DecidableEq

inductive IntegrationFailure where
  | domain (code : IntegrationDomainErrorCode) (message : String) (retryAfterSeconds : Option Nat)
  | other (message : String)

def IntegrationFailure.message : IntegrationFailure → String
  | .domain _ message _ | .other message => message

/-- The `code` of a classified error. -/
inductive ClassifiedCode where
  | domain (code : IntegrationDomainErrorCode)
  | transientNetworkError
  | unhandledIntegrationError

structure ClassifiedError where
  category : ErrorClassification
  code : ClassifiedCode
  retryable : Bool
  retryAfterSeconds : Option Nat := none

/-- `text.includes(part)` -/
def includes (text part : String) : Bool :=
  (List.range (text.length + 1)).any fun start => part.toList.isPrefixOf (text.toList.drop start)

def classifyIntegrationError : IntegrationFailure → ClassifiedError
  | .domain code _ retryAfterSeconds =>
    match code with
    | .providerRateLimited => { category := .transient, code := .domain code, retryable := true, retryAfterSeconds }
    | .providerUnavailable | .providerCircuitOpen | .webhookPersistenceFailed =>
      { category := .transient, code := .domain code, retryable := true }
    | .providerTimeoutUnknownOutcome => { category := .unknownOutcome, code := .domain code, retryable := true }
    | .externalSkuUnknown | .skuMappingNotFound | .skuMappingConflict | .internalVariantInactive
    | .externalOrderMappingRequired | .externalOrderStateConflict | .inventoryPublicationConflict =>
      { category := .businessConflict, code := .domain code, retryable := false }
    | _ => { category := .permanentConfig, code := .domain code, retryable := false }
  | .other message =>
    if includes message "ETIMEDOUT" || includes message "ECONNRESET" || includes message "503" || includes message "502"
        || includes message "429" then
      { category := .transient, code := .transientNetworkError, retryable := true }
    else { category := .permanentConfig, code := .unhandledIntegrationError, retryable := false }

/-- `jitterMs` is what `Math.random` adds, at most a fifth. -/
def calculateBackoffDelayMs (attemptCount : Nat) (retryAfterSeconds : Option Nat) (jitterMs : Nat) : Nat :=
  match retryAfterSeconds.filter (0 < ·) with
  | some seconds => seconds * 1000
  | none =>
    let delay := min 60000 (1000 * 2 ^ (attemptCount - 1))
    min 60000 (delay + min jitterMs (delay / 5))

/-- What a connection publishes of a stock. -/
def calculateChannelPublishableQuantity (onHandQty reservedQty safetyBuffer allocationPercent : ℚ) : Int :=
  let buffer := max 0 ⌊safetyBuffer⌋
  let pct := min 100 (max 0 allocationPercent)
  let availableQty := max 0 (⌊onHandQty⌋ - ⌊reservedQty⌋)
  let afterBufferQty := max 0 (availableQty - buffer)
  max 0 ⌊afterBufferQty * pct / 100⌋

def shouldApplyInventoryStockVersion (lastPublishedVersion incomingVersion : Int) : Bool :=
  lastPublishedVersion < incomingVersion

end Integration
