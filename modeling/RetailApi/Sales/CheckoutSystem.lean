import RetailApi.Sales.Checkout

/-! One checkout as a system: any number of calls on it, interleaved action by action, with
shifts being worked and holds expiring around it. -/

namespace Sales

open Process Transaction

inductive CheckoutCall where
  | checkout (staffId : Uuid) (scope : BranchScope) (dto : PosCheckoutDto) (preflight : Preflight)
  | getCheckout (scope : BranchScope)
  | retryCheckout (actorId : Uuid) (scope : BranchScope)
  | confirmCheckoutPayment (actorId : Uuid) (scope : BranchScope) (externalRef : Option String)
  | cancelCheckout (scope : BranchScope) (reason : Option String)
  | reconcilePendingCheckouts (scope : BranchScope)

inductive CheckoutReply where
  | checkout (result : PosCheckoutResult)
  | reconciled (outcome : Reconciled)

def CheckoutCall.saga (ids : CheckoutIds) : CheckoutCall → CheckoutSaga CheckoutReply
  | .checkout staffId scope dto preflight => .checkout <$> Sales.checkout ids staffId scope dto preflight
  | .getCheckout scope => .checkout <$> Sales.getCheckout ids scope
  | .retryCheckout actorId scope => .checkout <$> Sales.retryCheckout ids actorId scope
  | .confirmCheckoutPayment actorId scope externalRef =>
    .checkout <$> Sales.confirmCheckoutPayment ids actorId scope externalRef
  | .cancelCheckout scope reason => .checkout <$> Sales.cancelCheckout ids scope reason
  | .reconcilePendingCheckouts scope => .reconciled <$> Sales.reconcilePendingCheckouts ids scope

inductive CheckoutEvent where
  | expireReservation | expireLoyaltyHold | expireCreditAuthorization
  | shift (operation : ShiftOperation)

def CashMovement.orderId : CashMovement → Uuid
  | .sale orderId _ | .payment orderId _ _ | .orderRefund orderId _ _ | .returnRefund orderId _ _ _ => orderId

/-- A request on the shifts that moves cash for the order of this checkout is no part of its surroundings. -/
def ShiftOperation.concerns (ids : CheckoutIds) : ShiftOperation → Bool
  | .record _ _ _ movement => movement.orderId = ids.orderId
  | _ => false

/-- The workflow rows that a count or a close of their shift looks for. -/
def SalesDb.pendingWork (db : SalesDb) : List (Uuid × Uuid × String) :=
  db.workflows.filterMap fun row =>
    if row.state.isPending then row.shiftId.map fun shiftId => (shiftId, row.id, toString row.state) else none

def surroundCheckout (ids : CheckoutIds) (world : CheckoutWorld) : CheckoutEvent → CheckoutWorld
  | .expireReservation =>
    { world with reservation := world.reservation.map fun hold => { hold with state := hold.state.expire } }
  | .expireLoyaltyHold => { world with loyalty := world.loyalty.map fun hold => { hold with state := hold.state.expire } }
  | .expireCreditAuthorization =>
    { world with credit := world.credit.map fun hold => { hold with state := hold.state.expire } }
  | .shift operation =>
    if operation.concerns ids then world
    else { world with db := { world.db with
      cash := performShift { world.db.cash with pendingWorkflows := world.db.pendingWork } operation } }

def checkoutMachine (ids : CheckoutIds) :
    Machine checkoutSignature CheckoutWorld Choice CheckoutCall CheckoutEvent (Except Failure CheckoutReply) where
  program call := (call.saga ids).run
  perform := performCheckout ids
  environment := surroundCheckout ids

abbrev CheckoutPool := Pool checkoutSignature CheckoutWorld CheckoutCall (Except Failure CheckoutReply)

abbrev CheckoutInput := Input CheckoutCall Choice CheckoutEvent

/-- The pool after a list of inputs, from a checkout nobody has called yet. -/
def checkoutAfter (ids : CheckoutIds) (inputs : List CheckoutInput) : CheckoutPool :=
  Run.after (checkoutMachine ids).step { shared := {} } inputs

def CheckoutPool.returned (pool : CheckoutPool) (thread : Nat) : Option PosCheckoutResult :=
  match pool.running thread with
  | some (.done (.ok (.checkout result))) => some result
  | _ => none

def CheckoutPool.reconciled (pool : CheckoutPool) (thread : Nat) : Option Reconciled :=
  match pool.running thread with
  | some (.done (.ok (.reconciled outcome))) => some outcome
  | _ => none

end Sales
