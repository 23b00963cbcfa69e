import RetailApi.Sales.CheckoutActions

/-! The POS checkout saga: stock, points and credit are held, stock and points are committed, one transaction writes the order,
and the credit is committed last. Between two actions another call may run, or the process stop. -/

namespace Sales

open Process Transaction JsString RemoteFailure

abbrev CheckoutSaga := Saga checkoutSignature Failure

def findWorkflow : CheckoutSaga (Option CheckoutWorkflow) := attempt (S := checkoutSignature) .findWorkflow .ok

def updateState (patch : WorkflowPatch) : CheckoutSaga Unit :=
  attempt (S := checkoutSignature) (.updateWorkflowState patch) .ok

def abort (ending : Ending) (lastError : String) : CheckoutSaga Unit :=
  attempt (S := checkoutSignature) (.abortWorkflow ending lastError) .ok

def remotely {α : Type} (action : CheckoutAction) (read : action.Answer → Except RemoteFailure α) :
    CheckoutSaga (Except RemoteFailure α) := attempt (S := checkoutSignature) action fun answer => .ok (read answer)

def RemoteFailure.message : RemoteFailure → String
  | .refused => "refused"
  | .unavailable => "unavailable"

inductive FulfillmentStatus where
  | unfulfilled | reserved | fulfilled
deriving DecidableEq

structure PosCheckoutResult where
  checkoutId : Uuid
  branchId : Uuid
  warehouseId : Uuid
  shiftId : Option Uuid
  state : CheckoutWorkflowState
  reservationId : Option Uuid
  loyaltyHoldId : Option Uuid
  creditAuthorizationId : Option Uuid
  orderId : Option Uuid
  orderCode : Option Nat
  paymentStatus : OrderPaymentStatus
  fulfillmentStatus : FulfillmentStatus
  quote : PersistedQuote
  tenders : ValidatedTenderSummary
  replayed : Bool

def findOrderOf (wf : CheckoutWorkflow) : CheckoutSaga (Option Order) :=
  match wf.orderId with
  | some orderId => attempt (S := checkoutSignature) (.findOrder orderId) .ok
  | none => pure none

def buildCheckoutResultFromWorkflow (wf : CheckoutWorkflow) (replayed : Bool) : CheckoutSaga PosCheckoutResult := do
  let order ← findOrderOf wf
  let paymentStatus :=
    if wf.orderId.isSome then (order.map (·.paymentStatus)).getD .paid else wf.tendersJson.paymentStatus
  let fulfillmentStatus : FulfillmentStatus :=
    if order.isSome || wf.state.isFinished then .fulfilled
    else if wf.reservationId.isSome then .reserved else .unfulfilled
  return {
    checkoutId := wf.id, branchId := wf.branchId, warehouseId := wf.warehouseId, shiftId := wf.shiftId
    state := wf.state, reservationId := wf.reservationId, loyaltyHoldId := wf.quoteJson.loyaltyHoldId
    creditAuthorizationId := wf.quoteJson.creditAuthId, orderId := wf.orderId, orderCode := order.map (·.code)
    paymentStatus, fulfillmentStatus, quote := wf.quoteJson, tenders := wf.tendersJson, replayed }

/-- The points go back; a refusal is only logged, a call that does not come through throws. -/
def releaseLoyaltyHold (quote : PersistedQuote) : CheckoutSaga Unit :=
  match quote.loyaltyHoldId with
  | some holdId =>
    if quote.loyaltyCommitted then pure ()
    else do
      match ← remotely (.releaseHold holdId) id with
      | .error .unavailable => throw (.thrown "fetch failed")
      | _ => pure ()
  | none => pure ()

def releaseCreditAuthorization (quote : PersistedQuote) : CheckoutSaga Unit :=
  match quote.creditAuthId with
  | some authorizationId =>
    if quote.creditCommitted then pure ()
    else do
      let _ ← remotely (.releaseAuthorization authorizationId) id
      pure ()
  | none => pure ()

def cancelExpiredWorkflow {α : Type} (rsvState : HoldState) (quote : PersistedQuote) : CheckoutSaga α := do
  releaseLoyaltyHold quote
  releaseCreditAuthorization quote
  abort .cancelled s!"RESERVATION_{rsvState}"
  throw (.domain .stockReservationFailed s!"Warehouse reservation for checkout is {rsvState}" 409)

def executeLoyaltyHoldStep (quote : PersistedQuote) (points : Int) : CheckoutSaga PersistedQuote := do
  match ← remotely (.createHold points) id with
  | .ok holdId =>
    let quote := { quote with loyaltyHoldId := some holdId }
    updateState { quoteJson := some quote }
    return quote
  | .error .refused =>
    abort .rejected s!"LOYALTY_HOLD_REJECTED: {refused.message}"
    throw (.domain .loyaltyHoldFailed refused.message 409)
  | .error .unavailable =>
    updateState { state := some .recoveryPending, lastError := some (some unavailable.message) }
    throw (.domain .loyaltyHoldFailed s!"Loyalty point hold failed: {unavailable.message}" 503)

/-- The quote with the id of its credit authorisation; a finance service that does not answer ends the sale. -/
def executeCreditAuthStep (quote : PersistedQuote) (amount : Int) : CheckoutSaga PersistedQuote := do
  match ← remotely (.authorizeCredit amount) id with
  | .ok authorizationId =>
    let quote := { quote with creditAuthId := some authorizationId }
    updateState { quoteJson := some quote }
    return quote
  | .error .refused =>
    releaseLoyaltyHold quote
    abort .rejected s!"CREDIT_AUTH_REJECTED: {refused.message}"
    throw (.domain .creditAuthorizationFailed refused.message 409)
  | .error .unavailable =>
    releaseLoyaltyHold quote
    abort .cancelled s!"FINANCE_UNAVAILABLE: {unavailable.message}"
    throw (.domain .creditServiceUnavailable
      s!"Finance service unavailable for credit authorization (fail-closed): {unavailable.message}" 503)

/-- The base quantities of the lines, added up per variant. -/
def reserveLines (warehouseId : Uuid) (lines : List CalculatedOrderLine) : List ReserveLine :=
  lines.foldl (fun merged line => Merge.insert ReserveLine.skuId
    (fun existing added => { existing with qty := existing.qty + added.qty })
    { warehouseId, skuId := line.variantId, qty := line.baseQty } merged) []

def reservationUnknown {α : Type} : CheckoutSaga α :=
  throw (.domain .stockReservationUnknown "Inventory reservation timed out; checkout placed in RECOVERY_PENDING" 503)

def executeReserveStep (warehouseId : Uuid) (quote : PersistedQuote) : CheckoutSaga Uuid := do
  match ← remotely (.reserveWarehouseStock (reserveLines warehouseId quote.lines)) id with
  | .ok reservationId =>
    updateState { state := some .stockReserved, reservationId := some reservationId, quoteJson := some quote
                  lastError := some none }
    return reservationId
  | .error .refused =>
    releaseLoyaltyHold quote
    releaseCreditAuthorization quote
    abort .rejected "shortages"
    throw (.domain .insufficientStock "Insufficient available stock in warehouse for POS checkout" 409)
  | .error .unavailable =>
    -- The reservation may exist all the same: it is looked up by its key.
    updateState { state := some .recoveryPending, lastError := some (some unavailable.message) }
    match ← remotely .getWarehouseReservationByKey id with
    | .ok (some recovered) =>
      if recovered.state = .held ∨ recovered.state = .committed then do
        updateState { state := some .stockReserved, reservationId := some recovered.id, lastError := some none }
        return recovered.id
      else reservationUnknown
    | _ => reservationUnknown

def commitPending {α : Type} (reservationId : Uuid) : CheckoutSaga α := do
  updateState { state := some .recoveryPending, reservationId := some reservationId
                lastError := some (some unavailable.message) }
  throw (.domain .stockCommitPending
    "Inventory reservation commit outcome unknown; checkout placed in RECOVERY_PENDING" 503)

/-- The stock is committed, or was in spite of what the call answered. -/
def commitStock (alreadyCommitted : Bool) (reservationId : Uuid) (quote : PersistedQuote) : CheckoutSaga Unit :=
  if alreadyCommitted then pure ()
  else do
    updateState { state := some .committingStock, reservationId := some reservationId }
    match ← remotely (.commitWarehouseReservation reservationId) id with
    | .ok _ => pure ()
    | .error _ =>
      match ← remotely (.getWarehouseReservation reservationId) id with
      | .ok (some check) =>
        match check.state with
        | .committed => pure ()
        | .held => commitPending reservationId
        | gone =>
          -- The catch around the lookup swallows what the cancellation throws.
          tryCatch (cancelExpiredWorkflow gone quote) fun _ => pure ()
          commitPending reservationId
      | _ => commitPending reservationId

structure SimulatedFailures where
  afterLoyaltyHold : Bool := false
  afterCreditAuth : Bool := false
  afterReserve : Bool := false
  afterStockCommitBeforeLoyaltyCommit : Bool := false
  afterCommit : Bool := false

def simulateAfterCommit {α : Type} (reservationId : Uuid) (quote : PersistedQuote) (step : String) : CheckoutSaga α := do
  updateState { state := some .recoveryPending, reservationId := some reservationId, commitConfirmed := some true
                quoteJson := some quote, lastError := some (some step) }
  throw (.domain .stockCommitPending "Simulated failure; checkout placed in RECOVERY_PENDING" 503)

def commitLoyalty (quote : PersistedQuote) : CheckoutSaga PersistedQuote :=
  match quote.loyaltyHoldId with
  | some holdId =>
    if quote.loyaltyCommitted then pure quote
    else do
      match ← remotely (.commitHold holdId) id with
      | .ok _ =>
        let quote := { quote with loyaltyCommitted := true }
        updateState { quoteJson := some quote }
        return quote
      | .error failure => throw (.thrown s!"Customer loyalty commit failed: {failure.message}")
  | none => pure quote

/-- Posts the receivable: the last action of a checkout on credit, after its order is written. -/
def commitCredit (quote : PersistedQuote) : CheckoutSaga PersistedQuote :=
  match quote.creditAuthId with
  | some authorizationId =>
    if quote.creditCommitted then pure quote
    else do
      match ← remotely (.commitAuthorization authorizationId) id with
      | .ok _ => return { quote with creditCommitted := true }
      | .error failure => throw (.thrown s!"Finance credit commit failed: {failure.message}")
  | none => pure quote

def finalizeAndCommitCredit (input : FinalizeInput) (replayed : Bool) : CheckoutSaga PosCheckoutResult := do
  let finalized ← attempt (S := checkoutSignature) (.finalizeCheckout input) id
  let quote ← commitCredit input.quote
  let wf : CheckoutWorkflow := Finalized.wf finalized
  return {
    checkoutId := wf.id, branchId := wf.branchId, warehouseId := wf.warehouseId, shiftId := wf.shiftId
    state := .confirmed, reservationId := some input.reservationId, loyaltyHoldId := quote.loyaltyHoldId
    creditAuthorizationId := quote.creditAuthId, orderId := some input.orderId
    orderCode := Finalized.orderCode finalized, paymentStatus := input.tenderSummary.paymentStatus
    fulfillmentStatus := .fulfilled, quote, tenders := input.tenderSummary
    replayed := replayed || Finalized.alreadyDone finalized }

def commitAndFinalizeCheckout (input : FinalizeInput) (replayed alreadyCommitted : Bool)
    (simulate : SimulatedFailures) : CheckoutSaga PosCheckoutResult := do
  commitStock alreadyCommitted input.reservationId input.quote
  updateState { state := some .finalizing, reservationId := some input.reservationId, commitConfirmed := some true }
  if simulate.afterStockCommitBeforeLoyaltyCommit then
    simulateAfterCommit input.reservationId input.quote "SIMULATED_FAILURE_AFTER_STOCK_COMMIT_BEFORE_LOYALTY_COMMIT"
  else do
    let quote ← commitLoyalty input.quote
    if simulate.afterCommit then simulateAfterCommit input.reservationId quote "SIMULATED_FAILURE_AFTER_COMMIT"
    else finalizeAndCommitCredit { input with quote } replayed

/-- Takes up the saga of a stored workflow where it stopped, or answers with its result. -/
def resumeOrReplayExistingWorkflow (ids : CheckoutIds) (wf : CheckoutWorkflow) (actorId : Uuid) (replayed : Bool) :
    CheckoutSaga PosCheckoutResult :=
  match wf.state with
  | .confirmed | .completed | .awaitingPayment => buildCheckoutResultFromWorkflow wf replayed
  | .rejected => throw (.domain .insufficientStock (wf.lastError.getD "Insufficient stock for checkout") 409)
  | .cancelled => throw (.domain .orderAlreadyCancelled "Checkout workflow was cancelled" 409)
  | _ => do
    let orderId := wf.orderId.getD ids.orderId
    let quote ← recoverLoyaltyHold wf wf.quoteJson
    let quote ← recoverCreditAuthorization wf quote
    let recovered ← recoverReservation wf quote
    if wf.tendersJson.allConfirmed then
      commitAndFinalizeCheckout
        { reservationId := recovered.1, orderId, quote, tenderSummary := wf.tendersJson, actorId } replayed recovered.2 {}
    else do
      updateState { state := some .awaitingPayment, reservationId := some recovered.1, quoteJson := some quote }
      match ← findWorkflow with
      | some updated => buildCheckoutResultFromWorkflow updated replayed
      | none => throw (.thrown "Cannot read properties of null")
where
  recoverLoyaltyHold (wf : CheckoutWorkflow) (quote : PersistedQuote) : CheckoutSaga PersistedQuote :=
    if 0 < quote.redeemLoyaltyPoints ∧ wf.customerId.isSome ∧ quote.loyaltyHoldId.isNone then
      executeLoyaltyHoldStep quote quote.redeemLoyaltyPoints
    else pure quote
  recoverCreditAuthorization (wf : CheckoutWorkflow) (quote : PersistedQuote) : CheckoutSaga PersistedQuote :=
    match quote.creditAmount with
    | some amount =>
      if amount ≠ 0 ∧ wf.customerId.isSome ∧ quote.creditAuthId.isNone then executeCreditAuthStep quote amount
      else pure quote
    | none => pure quote
  /-- The reservation of a stored workflow, and whether it is known to be committed. -/
  recoverReservation (wf : CheckoutWorkflow) (quote : PersistedQuote) : CheckoutSaga (Uuid × Bool) :=
    match wf.reservationId with
    | none => do
      match ← remotely .getWarehouseReservationByKey id with
      | .ok (some existing) =>
        if existing.state = .released ∨ existing.state = .expired then cancelExpiredWorkflow existing.state quote
        else do
          let committed : Bool := wf.commitConfirmed || existing.state = .committed
          updateState { state := some (if committed then .finalizing else .stockReserved)
                        reservationId := some existing.id, commitConfirmed := some committed }
          return (existing.id, committed)
      | .ok none =>
        let reservationId ← executeReserveStep wf.warehouseId quote
        return (reservationId, wf.commitConfirmed)
      | .error failure => throw (.thrown failure.message)
    | some reservationId =>
      if wf.commitConfirmed then pure (reservationId, true)
      else do
        match ← remotely (.getWarehouseReservation reservationId) id with
        | .ok (some status) =>
          if status.state = .released ∨ status.state = .expired then cancelExpiredWorkflow status.state quote
          else return (reservationId, status.state = .committed)
        | .ok none => return (reservationId, false)
        | .error failure => throw (.thrown failure.message)

structure PosCartLineDto where
  variantId : Option Uuid := none
  skuCode : Option String := none
  qty : Int
  expectedUnitPrice : Option Int := none
  discountType : DiscountType := .none
  discountValue : Int := 0

structure PosCheckoutDto where
  branchId : Uuid
  warehouseId : Option Uuid := none
  shiftId : Option Uuid := none
  draftId : Option Uuid := none
  customerId : Option Uuid := none
  customerName : Option String := none
  orderDiscountType : DiscountType := .none
  orderDiscountValue : Int := 0
  couponCode : Option String := none
  redeemLoyaltyPoints : Int := 0
  shippingFee : Int := 0
  paymentMethod : Option TenderMethod := none
  tenderedCash : Option Int := none
  lines : List PosCartLineDto
  tenders : List PosTenderDto := []
  simulate : SimulatedFailures := {}

def hashPosCheckoutPayload (dto : PosCheckoutDto) : CheckoutPayload where
  branchId := dto.branchId
  warehouseId := dto.warehouseId
  shiftId := dto.shiftId
  customerId := dto.customerId
  orderDiscountType := dto.orderDiscountType
  orderDiscountValue := dto.orderDiscountValue
  couponCode := dto.couponCode.map upperTrimmed
  redeemLoyaltyPoints := dto.redeemLoyaltyPoints
  shippingFee := dto.shippingFee
  paymentMethod := dto.paymentMethod
  tenderedCash := dto.tenderedCash
  lines := dto.lines.map fun line =>
    { variantId := line.variantId, skuCode := line.skuCode.map upperTrimmed, qty := line.qty
      expectedUnitPrice := line.expectedUnitPrice, discountType := line.discountType
      discountValue := line.discountValue }
  tenders := dto.tenders.map fun tender =>
    { method := tender.method, amount := tender.amount, tenderedCash := tender.tenderedCash, status := tender.status
      verified := tender.verified, externalRef := tender.externalRef }

/-- What inventory and the pricing of the cart answer to a request. -/
structure Preflight where
  saleWarehouse : Except Failure Uuid
  quote : Except Failure CalculatedOrderQuote

def onAccountAmount (summary : ValidatedTenderSummary) : Int :=
  ((summary.tenders.filter (·.method = .onAccount)).map (·.amount)).sum

def resolvePrimaryPaymentMethod (summary : ValidatedTenderSummary) : String :=
  match summary.tenders with
  | [] => "CASH"
  | [tender] => toString tender.method
  | _ => "COMBINED"

def prepareWorkflow (ids : CheckoutIds) (staffId : Uuid) (dto : PosCheckoutDto) (preflight : Preflight) :
    Except Failure CheckoutWorkflow := do
  let warehouseId ← preflight.saleWarehouse
  let customerMissing := dto.customerId.isNone
  ensure (dto.redeemLoyaltyPoints ≤ 0 ∨ customerMissing = false)
    (.domain .validationError "customerId is required when redeeming loyalty points" 422)
  let rawQuote ← preflight.quote
  let tendersJson ← validateOrderTenders rawQuote.grandTotal
    (normalizeTenderInputs dto.tenders dto.paymentMethod dto.tenderedCash rawQuote.grandTotal)
  let onAccount := onAccountAmount tendersJson
  ensure (onAccount ≤ 0 ∨ customerMissing = false)
    (.domain .validationError "customerId is required for ON_ACCOUNT credit sale" 422)
  return {
    id := ids.checkoutId, idempotencyKey := ids.idempotencyKey, requestSha256 := hashPosCheckoutPayload dto
    branchId := dto.branchId, warehouseId, paymentMethod := resolvePrimaryPaymentMethod tendersJson
    customerName := dto.customerName.getD "Walk-in Customer", state := .reservingStock, reservationId := none
    orderId := none, lastError := none, shiftId := dto.shiftId, draftId := dto.draftId, customerId := dto.customerId
    quoteJson := { rawQuote with
      redeemLoyaltyPoints := max dto.redeemLoyaltyPoints 0
      creditAmount := if 0 < onAccount then some onAccount else none }
    tendersJson, commitConfirmed := false, retryCount := 0, createdBy := staffId }

def simulatedFailure {α : Type} (quote : PersistedQuote) (reservationId : Option Uuid) (step : String) :
    CheckoutSaga α := do
  updateState { state := some .recoveryPending, reservationId, quoteJson := some quote, lastError := some (some step) }
  throw (.domain .stockReservationUnknown "Simulated failure; checkout placed in RECOVERY_PENDING" 503)

def holdLoyalty (row : CheckoutWorkflow) (simulate : SimulatedFailures) : CheckoutSaga PersistedQuote :=
  if 0 < row.quoteJson.redeemLoyaltyPoints ∧ row.customerId.isSome then do
    let held ← executeLoyaltyHoldStep row.quoteJson row.quoteJson.redeemLoyaltyPoints
    if simulate.afterLoyaltyHold then simulatedFailure held none "SIMULATED_FAILURE_AFTER_LOYALTY_HOLD" else pure held
  else pure row.quoteJson

def authorizeCredit (row : CheckoutWorkflow) (quote : PersistedQuote) (simulate : SimulatedFailures) :
    CheckoutSaga PersistedQuote :=
  match quote.creditAmount with
  | some amount =>
    if row.customerId.isSome then do
      let authorized ← executeCreditAuthStep quote amount
      if simulate.afterCreditAuth then simulatedFailure authorized none "SIMULATED_FAILURE_AFTER_CREDIT_AUTH"
      else pure authorized
    else pure quote
  | none => pure quote

/-- Steps 2b to 6 of a checkout whose row has just been written. -/
def runCheckout (ids : CheckoutIds) (row : CheckoutWorkflow) (staffId : Uuid) (simulate : SimulatedFailures) :
    CheckoutSaga PosCheckoutResult := do
  let quote ← holdLoyalty row simulate
  let quote ← authorizeCredit row quote simulate
  let reservationId ← executeReserveStep row.warehouseId quote
  if simulate.afterReserve then simulatedFailure quote (some reservationId) "SIMULATED_FAILURE_AFTER_RESERVE"
  else if row.tendersJson.allConfirmed then
    commitAndFinalizeCheckout { reservationId, orderId := ids.orderId, quote, tenderSummary := row.tendersJson, actorId := staffId }
      false false simulate
  else do
    updateState { state := some .awaitingPayment, reservationId := some reservationId, quoteJson := some quote }
    return {
      checkoutId := row.id, branchId := row.branchId, warehouseId := row.warehouseId, shiftId := row.shiftId
      state := .awaitingPayment, reservationId := some reservationId, loyaltyHoldId := quote.loyaltyHoldId
      creditAuthorizationId := quote.creditAuthId, orderId := none, orderCode := none
      paymentStatus := row.tendersJson.paymentStatus, fulfillmentStatus := .reserved, quote
      tenders := row.tendersJson, replayed := false }

def idempotencyConflict {α : Type} : CheckoutSaga α :=
  throw (.domain .idempotencyConflict "Idempotency-Key was already used with a different checkout payload" 409)

def checkoutNotFound {α : Type} (ids : CheckoutIds) : CheckoutSaga α :=
  throw (.domain .orderNotFound s!"Checkout workflow {ids.checkoutId} not found" 404)

/-- Step 2: the row is written, or another call of the same key wrote it first. -/
def createAndRun (ids : CheckoutIds) (row : CheckoutWorkflow) (staffId : Uuid) (dto : PosCheckoutDto) :
    CheckoutSaga PosCheckoutResult := do
  match ← attempt (S := checkoutSignature) (.createWorkflow row) Except.ok with
  | .ok () => runCheckout ids row staffId dto.simulate
  | .error (.database constraint) =>
    match ← findWorkflow with
    | some raced =>
      if raced.requestSha256 = hashPosCheckoutPayload dto then resumeOrReplayExistingWorkflow ids raced staffId true
      else idempotencyConflict
    | none => throw (.database constraint)
  | .error failure => throw failure

def checkout (ids : CheckoutIds) (staffId : Uuid) (scope : BranchScope) (dto : PosCheckoutDto) (preflight : Preflight) :
    CheckoutSaga PosCheckoutResult := do
  if branchAllowed scope dto.branchId then
    match ← findWorkflow with
    | some existing =>
      if branchAllowed scope existing.branchId then
        if existing.requestSha256 = hashPosCheckoutPayload dto then
          resumeOrReplayExistingWorkflow ids existing staffId true
        else idempotencyConflict
      else checkoutNotFound ids
    | none =>
      attempt (S := checkoutSignature) (.validateBranchAndShift dto.branchId dto.shiftId) id
      match prepareWorkflow ids staffId dto preflight with
      | .ok row => createAndRun ids row staffId dto
      | .error failure => throw failure
  else throw (.notFound .orderNotFound "Branch not found")

/-- A stored workflow is hidden outside the caller's branches. -/
def requireFound (ids : CheckoutIds) (scope : BranchScope) : Option CheckoutWorkflow → CheckoutSaga CheckoutWorkflow
  | some wf => if branchAllowed scope wf.branchId then pure wf else checkoutNotFound ids
  | none => checkoutNotFound ids

def requireWorkflow (ids : CheckoutIds) (scope : BranchScope) : CheckoutSaga CheckoutWorkflow :=
  findWorkflow >>= requireFound ids scope

def getCheckout (ids : CheckoutIds) (scope : BranchScope) : CheckoutSaga PosCheckoutResult := do
  let wf ← requireWorkflow ids scope
  buildCheckoutResultFromWorkflow wf false

def retryCheckout (ids : CheckoutIds) (actorId : Uuid) (scope : BranchScope) : CheckoutSaga PosCheckoutResult := do
  let wf ← requireWorkflow ids scope
  resumeOrReplayExistingWorkflow ids wf actorId true

def ValidatedTenderSummary.confirm (summary : ValidatedTenderSummary) (reference : Option String) :
    ValidatedTenderSummary :=
  { summary with
    totalConfirmed := summary.totalAllocated, allConfirmed := true, paymentStatus := .paid
    tenders := summary.tenders.map fun tender =>
      { tender with status := .confirmed, externalRef := given tender.externalRef <|> reference } }
where
  /-- `text?.trim() || null` -/
  given (text : Option String) : Option String := (text.map trimmed).filter (· ≠ "")

def confirmCheckoutPayment (ids : CheckoutIds) (actorId : Uuid) (scope : BranchScope) (externalRef : Option String) :
    CheckoutSaga PosCheckoutResult := do
  let wf ← requireWorkflow ids scope
  if wf.state.isFinished then buildCheckoutResultFromWorkflow wf true
  else if wf.state.isAborted then
    throw (.domain .orderInvalidState s!"Cannot confirm payment on checkout in state {wf.state}" 409)
  else do
    let reference := ValidatedTenderSummary.confirm.given externalRef
    if wf.tendersJson.tenders.any fun tender => tender.method ≠ .cash && tender.status ≠ .confirmed &&
        (ValidatedTenderSummary.confirm.given tender.externalRef).isNone && reference.isNone then
      throw (.domain .paymentReferenceRequired
        "A payment reference (externalRef) is required to confirm a non-cash payment" 400)
    else do
      let confirmedTenders := wf.tendersJson.confirm reference
      updateState { tendersJson := some confirmedTenders }
      let reservationId ← reservationOf wf
      commitAndFinalizeCheckout
        { reservationId, orderId := wf.orderId.getD ids.orderId, quote := wf.quoteJson, tenderSummary := confirmedTenders
          actorId } false false {}
where
  reservationOf (wf : CheckoutWorkflow) : CheckoutSaga Uuid :=
    match wf.reservationId with
    | some reservationId => pure reservationId
    | none => executeReserveStep wf.warehouseId wf.quoteJson

def releaseReservation (wf : CheckoutWorkflow) : CheckoutSaga Unit :=
  match wf.reservationId with
  | some reservationId => do
    let _ ← remotely (.releaseWarehouseReservation reservationId) id
    pure ()
  | none => pure ()

def cancelWorkflow (wf : CheckoutWorkflow) (reason : Option String) : CheckoutSaga PosCheckoutResult :=
  match wf.state with
  | .confirmed | .completed => throw (.domain .orderAlreadyCompleted
      "Completed checkout cannot be cancelled; use Return workflow instead" 409)
  | .cancelled => buildCheckoutResultFromWorkflow wf true
  | _ => do
    releaseReservation wf
    releaseLoyaltyHold wf.quoteJson
    releaseCreditAuthorization wf.quoteJson
    abort .cancelled (reason.getD "CANCELLED_BY_USER")
    match ← findWorkflow with
    | some updated => buildCheckoutResultFromWorkflow updated false
    | none => throw (.thrown "Cannot read properties of null")

def cancelCheckout (ids : CheckoutIds) (scope : BranchScope) (reason : Option String) :
    CheckoutSaga PosCheckoutResult := do
  let wf ← requireWorkflow ids scope
  cancelWorkflow wf reason

inductive Reconciled where
  | untouched | finalized | cancelled | pending | escalated
deriving DecidableEq

def reconcilePendingCheckouts (ids : CheckoutIds) (scope : BranchScope) : CheckoutSaga Reconciled := do
  match ← findWorkflow with
  | some wf =>
    if wf.state.isStuck && branchAllowed scope wf.branchId then tryCatch (resumeStuck wf) (retryLater wf)
    else return .untouched
  | none => return .untouched
where
  resumeStuck (wf : CheckoutWorkflow) : CheckoutSaga Reconciled := do
    let result ← resumeOrReplayExistingWorkflow ids wf wf.createdBy true
    return if result.state.isFinished then .finalized else if result.state.isAborted then .cancelled else .pending
  retryLater (wf : CheckoutWorkflow) (failure : Failure) : CheckoutSaga Reconciled :=
    if 5 ≤ wf.retryCount + 1 then do
      attempt (S := checkoutSignature) (.escalateWorkflow (wf.retryCount + 1) (message failure)) .ok
      return .escalated
    else do
      updateState { retryCount := some (wf.retryCount + 1), lastError := some (some (message failure)) }
      return .pending
  message : Failure → String
    | .domain _ message _ | .notFound _ message | .thrown message | .database message => message

end Sales
