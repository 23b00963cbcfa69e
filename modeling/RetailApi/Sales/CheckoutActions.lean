import RetailApi.Base.Process
import RetailApi.Sales.Remotes
import RetailApi.Sales.Workflow

/-! The atomic actions of a checkout: transactions of the sales database and calls to the
services that hold its stock, points and credit. -/

namespace Sales

open Process Transaction HoldState

structure CheckoutWorld where
  db : SalesDb := {}
  reservation : Option RemoteHold := none
  loyalty : Option RemoteHold := none
  credit : Option RemoteHold := none

structure ReserveLine where
  warehouseId : Uuid
  skuId : Uuid
  qty : Int

inductive CheckoutAction where
  | findWorkflow
  | findOrder (orderId : Uuid)
  | validateBranchAndShift (branchId : Uuid) (shiftId : Option Uuid)
  | createWorkflow (row : CheckoutWorkflow)
  | updateWorkflowState (patch : WorkflowPatch)
  | abortWorkflow (ending : Ending) (lastError : String)
  | escalateWorkflow (retryCount : Nat) (reason : String)
  | finalizeCheckout (input : FinalizeInput)
  | reserveWarehouseStock (lines : List ReserveLine)
  | getWarehouseReservationByKey
  | getWarehouseReservation (reservationId : Uuid)
  | commitWarehouseReservation (reservationId : Uuid)
  | releaseWarehouseReservation (reservationId : Uuid)
  | createHold (points : Int)
  | commitHold (holdId : Uuid)
  | releaseHold (holdId : Uuid)
  | authorizeCredit (amount : Int)
  | commitAuthorization (authorizationId : Uuid)
  | releaseAuthorization (authorizationId : Uuid)

def CheckoutAction.Answer : CheckoutAction → Type
  | .findWorkflow => Option CheckoutWorkflow
  | .findOrder _ => Option Order
  | .validateBranchAndShift .. | .createWorkflow _ => Except Failure Unit
  | .updateWorkflowState _ | .abortWorkflow .. | .escalateWorkflow .. => Unit
  | .finalizeCheckout _ => Except Failure Finalized
  | .getWarehouseReservationByKey | .getWarehouseReservation _ => Except RemoteFailure (Option RemoteHold)
  | .reserveWarehouseStock _ | .createHold _ | .authorizeCredit _ => Except RemoteFailure Uuid
  | .commitWarehouseReservation _ | .releaseWarehouseReservation _ | .commitHold _ | .releaseHold _
  | .commitAuthorization _ | .releaseAuthorization _ => Except RemoteFailure Unit

def checkoutSignature : Signature := ⟨CheckoutAction, CheckoutAction.Answer⟩

structure Choice where
  delivery : Delivery := .answered
  newId : Uuid := 0
  couponAccepted : Bool := true
  /-- The row of a create transaction appeared after it had looked for it. -/
  raced : Bool := false

/-- A transaction: its new tables and result, or its failure and the tables as they were. -/
def settle {α : Type} (world : CheckoutWorld) (outcome : Except Failure (SalesDb × α)) :
    CheckoutWorld × Except Failure α :=
  match outcome with
  | .ok (db, result) => ({ world with db }, .ok result)
  | .error failure => (world, .error failure)

/-- The create transaction; a row that appeared after it had looked for one violates the unique key. -/
def createUnlessRaced (ids : CheckoutIds) (db : SalesDb) (row : CheckoutWorkflow) (choice : Choice) :
    Except Failure (SalesDb × Unit) :=
  if choice.raced = true ∧ (db.findWorkflow ids.checkoutId).isSome then
    .error (.database "UQ_checkout_workflow_tenant_idempotency")
  else (createWorkflow ids db row choice.couponAccepted).map fun db => (db, ())

def Delivery.read (delivery : Delivery) (hold : Option RemoteHold) : Except RemoteFailure (Option RemoteHold) :=
  match delivery with
  | .answered => .ok hold
  | _ => .error .unavailable

/-- A key that was used with another payload: inventory and finance answer with an error no rule is named in. -/
def conflictUnavailable (delivery : Delivery) (hold : Option RemoteHold) : Delivery :=
  if delivery = .refused ∧ hold.isSome then .failed else delivery

def performCheckout (ids : CheckoutIds) :
    (action : CheckoutAction) → Choice → CheckoutWorld → CheckoutWorld × action.Answer
  | .findWorkflow, _, world => (world, world.db.findWorkflow ids.checkoutId)
  | .findOrder orderId, _, world => (world, world.db.findOrder orderId)
  | .validateBranchAndShift branchId shiftId, _, world => (world, validateBranchAndShift world.db branchId shiftId)
  | .createWorkflow row, choice, world => settle world (createUnlessRaced ids world.db row choice)
  | .updateWorkflowState patch, _, world => ({ world with db := updateWorkflowState ids world.db patch }, ())
  | .abortWorkflow ending lastError, _, world =>
    ({ world with db := abortWorkflow ids world.db ending lastError }, ())
  | .escalateWorkflow retryCount reason, _, world =>
    ({ world with db := escalateWorkflow ids world.db retryCount reason }, ())
  | .finalizeCheckout input, choice, world =>
    settle world (finalizeCheckout ids world.db input choice.couponAccepted choice.newId)
  | .reserveWarehouseStock _, choice, world =>
    let (reservation, answer) := (conflictUnavailable choice.delivery world.reservation).apply world.reservation
      (createRemote world.reservation choice.newId)
    ({ world with reservation }, answer)
  | .getWarehouseReservationByKey, choice, world => (world, choice.delivery.read world.reservation)
  | .getWarehouseReservation reservationId, choice, world =>
    (world, choice.delivery.read (world.reservation.filter (·.id = reservationId)))
  | .commitWarehouseReservation reservationId, choice, world =>
    let (reservation, answer) := choice.delivery.apply world.reservation
      (moveRemote commit? world.reservation reservationId)
    ({ world with reservation }, answer)
  | .releaseWarehouseReservation reservationId, choice, world =>
    let (reservation, answer) := choice.delivery.apply world.reservation
      (moveRemote release? world.reservation reservationId)
    ({ world with reservation }, answer)
  | .createHold _, choice, world =>
    let (loyalty, answer) := choice.delivery.apply world.loyalty (createRemote world.loyalty choice.newId)
    ({ world with loyalty }, answer)
  | .commitHold holdId, choice, world =>
    let (loyalty, answer) := choice.delivery.apply world.loyalty (moveRemote commit? world.loyalty holdId)
    ({ world with loyalty }, answer)
  | .releaseHold holdId, choice, world =>
    let (loyalty, answer) := choice.delivery.apply world.loyalty (moveRemote release? world.loyalty holdId)
    ({ world with loyalty }, answer)
  | .authorizeCredit _, choice, world =>
    let (credit, answer) := (conflictUnavailable choice.delivery world.credit).apply world.credit
      (createRemote world.credit choice.newId)
    ({ world with credit }, answer)
  | .commitAuthorization authorizationId, choice, world =>
    let (credit, answer) := choice.delivery.apply world.credit
      (moveRemote commit? world.credit authorizationId)
    ({ world with credit }, answer)
  | .releaseAuthorization authorizationId, choice, world =>
    let (credit, answer) := choice.delivery.apply world.credit
      (moveRemote release? world.credit authorizationId)
    ({ world with credit }, answer)

end Sales
