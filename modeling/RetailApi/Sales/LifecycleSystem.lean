import RetailApi.Sales.Fulfillments
import RetailApi.Sales.OrderSystem

/-! One order as a system to the end of its life: its edits, confirmations, cancellations, shipments and payments.
`confirmFulfillment` commits the reservation in inventory outside any transaction, after reading the order and before it
completes the fulfilment. -/

namespace Sales

open Process Transaction

structure LifecycleWorld where
  db : LifecycleDb := {}
  reservation : Option OrderReservation := none

inductive LifecycleAction where
  | order (action : OrderAction)
  | createFulfillment (actorId : Uuid) (scope : BranchScope) (dto : CreateFulfillmentDto)
  | readFulfillment (fulfillmentId : Uuid) (scope : BranchScope)
  | findFulfillmentItems (fulfillmentId : Uuid)
  | commitWarehouseReservation (reservationId : Uuid)
  | confirmLocked (actorId fulfillmentId : Uuid)
  | pack (actorId : Uuid) (scope : BranchScope) (version : Nat)
  | ship (actorId : Uuid) (scope : BranchScope) (dto : ShipOrderDto)
  | openForCompletion (actorId : Uuid) (scope : BranchScope) (version : Nat)
  | recordPayment (actorId : Uuid) (scope : BranchScope) (key : String) (dto : RecordPaymentDto)
  | view (scope : BranchScope)

def LifecycleAction.Answer : LifecycleAction → Type
  | .order action => action.Answer
  | .readFulfillment .. => Except Failure FulfillmentRead
  | .findFulfillmentItems _ => List FulfillmentItemEntity
  | .commitWarehouseReservation _ | .createFulfillment .. | .confirmLocked .. | .pack .. | .ship .. => Except Failure Unit
  | .openForCompletion .. => Except Failure (List Uuid)
  | .recordPayment .. => Except Failure RecordedPayment
  | .view _ => Option OrderEntity

def lifecycleSignature : Signature := ⟨LifecycleAction, LifecycleAction.Answer⟩

structure LifecycleChoice extends OrderChoice where
  fulfillment : FulfillmentIds := ⟨0, ""⟩
  payment : PaymentIds := ⟨0, 0, 0⟩
  /-- The id of the first line, where the lines of the order are written anew. -/
  firstItemId : Uuid := 0

def freshIds (first count : Nat) : List Uuid := (List.range count).map (first + ·)

/-- An edit with a quote writes the lines of the order anew; one that fails leaves them. -/
def itemIdsAfter (itemIds : List Uuid) (firstItemId : Uuid) : (action : OrderAction) → action.Answer → List Uuid
  | .updateDraft _ _ (some quote), .ok _ => freshIds firstItemId quote.lines.length
  | _, _ => itemIds

def performOpenOrder (orderId : Uuid) (action : OrderAction) (choice : LifecycleChoice) (world : LifecycleWorld) :
    LifecycleWorld × action.Answer :=
  let performed := performOrder orderId action choice.toOrderChoice ⟨world.db.toOrderDb, world.reservation⟩
  ({ db := {
        world.db with
        toOrderDb := performed.1.db, itemIds := itemIdsAfter world.db.itemIds choice.firstItemId action performed.2 }
     reservation := performed.1.reservation }, performed.2)

/-- The commit of a reservation; a client that gets no 200 raises. -/
def performCommit (reservation : Option OrderReservation) (delivery : Delivery) (reservationId : Uuid) :
    Option OrderReservation × Except Failure Unit :=
  match delivery.arrives, reservation.filter (·.id = reservationId) with
  | true, some existing =>
    match existing.state.commit? with
    | some state => (some { existing with state }, if delivery = .answered then .ok () else .error inventoryUnavailable)
    | none => (reservation, .error inventoryUnavailable)
  | _, _ => (reservation, .error inventoryUnavailable)

def settleLifecycle {α : Type} (world : LifecycleWorld) (outcome : Except Failure (LifecycleDb × α)) :
    LifecycleWorld × Except Failure α :=
  match outcome with
  | .ok (db, result) => ({ world with db }, .ok result)
  | .error failure => (world, .error failure)

def silent (outcome : Except Failure LifecycleDb) : Except Failure (LifecycleDb × Unit) :=
  outcome.map fun db => (db, ())

def LifecycleChoice.newFulfillment (choice : LifecycleChoice) (db : LifecycleDb) : FulfillmentIds :=
  { choice.fulfillment with id := Fresh.pick (db.fulfillments.map (·.id)) choice.fulfillment.id }

def performLifecycle (orderId : Uuid) :
    (action : LifecycleAction) → LifecycleChoice → LifecycleWorld → LifecycleWorld × action.Answer
  | .order action, choice, world => performOpenOrder orderId action choice world
  | .createFulfillment actorId scope dto, choice, world =>
    settleLifecycle world (silent (createFulfillment orderId (choice.newFulfillment world.db) world.db actorId scope dto))
  | .readFulfillment fulfillmentId scope, _, world => (world, readFulfillment world.db fulfillmentId scope)
  | .findFulfillmentItems fulfillmentId, _, world =>
    (world, world.db.fulfillmentItems.filter (·.fulfillmentId = fulfillmentId))
  | .commitWarehouseReservation reservationId, choice, world =>
    let (reservation, answer) := performCommit world.reservation choice.delivery reservationId
    ({ world with reservation }, answer)
  | .confirmLocked actorId fulfillmentId, _, world =>
    settleLifecycle world (silent (confirmLocked orderId world.db actorId fulfillmentId))
  | .pack actorId scope version, _, world => settleLifecycle world (silent (pack orderId world.db actorId scope version))
  | .ship actorId scope dto, choice, world =>
    settleLifecycle world (silent (ship orderId (choice.newFulfillment world.db) world.db actorId scope dto))
  | .openForCompletion actorId scope version, choice, world =>
    settleLifecycle world (openForCompletion orderId (choice.newFulfillment world.db) world.db actorId scope version)
  | .recordPayment actorId scope key dto, choice, world =>
    settleLifecycle world (recordPayment orderId choice.payment world.db actorId scope key dto)
  | .view scope, _, world => (world, world.db.visible scope)

abbrev LifecycleSaga := Saga lifecycleSignature Failure

def transact {α : Type} (action : LifecycleAction) (same : action.Answer = Except Failure α) : LifecycleSaga α :=
  attempt (S := lifecycleSignature) action (cast same)

def viewed (scope : BranchScope) : LifecycleSaga Unit := attempt (S := lifecycleSignature) (.view scope) fun _ => .ok ()

/-- A fulfilment that is confirmed already is answered with its lines. -/
def FulfillmentRowStatus.confirmedAlready (status : FulfillmentRowStatus) : Bool :=
  status = .completed || status = .delivered

def FulfillmentRead.reservation (read : FulfillmentRead) : Option Uuid :=
  if read.order.fulfillmentStatus = .reserved then read.fulfillment.reservationId <|> read.order.reservationId else none

def commitReserved : Option Uuid → LifecycleSaga Unit
  | some reservationId => transact (.commitWarehouseReservation reservationId) rfl
  | none => pure ()

def findItems (fulfillmentId : Uuid) : LifecycleSaga Unit :=
  attempt (S := lifecycleSignature) (.findFulfillmentItems fulfillmentId) fun _ => .ok ()

/-- `confirmFulfillment` of a fulfilment that it read. -/
def confirmReadFulfillment (actorId fulfillmentId : Uuid) (read : FulfillmentRead) : LifecycleSaga Unit :=
  if read.fulfillment.status.confirmedAlready = true then findItems fulfillmentId
  else if read.fulfillment.status = .cancelled then
    throw (.domain .fulfillmentInvalidState "Cannot confirm a CANCELLED fulfillment" 409)
  else do
    commitReserved read.reservation
    transact (.confirmLocked actorId fulfillmentId) rfl

def confirmFulfillment (fulfillmentId actorId : Uuid) (scope : BranchScope) : LifecycleSaga Unit := do
  let read ← transact (.readFulfillment fulfillmentId scope) rfl
  confirmReadFulfillment actorId fulfillmentId read

def complete (actorId : Uuid) (scope : BranchScope) (version : Nat) : LifecycleSaga Unit := do
  let opened ← transact (.openForCompletion actorId scope version) rfl
  opened.forM fun fulfillmentId => confirmFulfillment fulfillmentId actorId scope
  viewed scope

inductive LifecycleCall where
  | order (call : OrderCall)
  | createFulfillment (actorId : Uuid) (scope : BranchScope) (dto : CreateFulfillmentDto)
  | confirmFulfillment (fulfillmentId actorId : Uuid) (scope : BranchScope)
  | complete (actorId : Uuid) (scope : BranchScope) (version : Nat)
  | pack (actorId : Uuid) (scope : BranchScope) (version : Nat)
  | ship (actorId : Uuid) (scope : BranchScope) (dto : ShipOrderDto)
  | recordPayment (actorId : Uuid) (scope : BranchScope) (key : String) (dto : RecordPaymentDto)

/-- A call of the order before it is shipped, as one of its whole life. -/
def OrderSaga.lifecycle (saga : OrderSaga OrderDetails) : LifecycleSaga Unit :=
  ExceptT.mk ((saga.map fun _ => ()).run.embed (T := lifecycleSignature) LifecycleAction.order fun _ answered => answered)

def LifecycleCall.saga (orderId : Uuid) : LifecycleCall → LifecycleSaga Unit
  | .order call => OrderSaga.lifecycle (call.saga orderId)
  | .createFulfillment actorId scope dto => transact (.createFulfillment actorId scope dto) rfl
  | .confirmFulfillment fulfillmentId actorId scope => Sales.confirmFulfillment fulfillmentId actorId scope
  | .complete actorId scope version => Sales.complete actorId scope version
  | .pack actorId scope version => do
    transact (.pack actorId scope version) rfl
    viewed scope
  | .ship actorId scope dto => do
    transact (.ship actorId scope dto) rfl
    viewed scope
  | .recordPayment actorId scope key dto => do
    let _ ← transact (.recordPayment actorId scope key dto) rfl
    viewed scope

inductive FulfillmentCall where
  | createFulfillment (actorId : Uuid) (scope : BranchScope) (dto : CreateFulfillmentDto)
  | confirmFulfillment (fulfillmentId actorId : Uuid) (scope : BranchScope)
  | complete (actorId : Uuid) (scope : BranchScope) (version : Nat)

def FulfillmentCall.lifecycle : FulfillmentCall → LifecycleCall
  | .createFulfillment actorId scope dto => .createFulfillment actorId scope dto
  | .confirmFulfillment fulfillmentId actorId scope => .confirmFulfillment fulfillmentId actorId scope
  | .complete actorId scope version => .complete actorId scope version

def fulfillmentMachine (orderId : Uuid) :
    Machine lifecycleSignature LifecycleWorld LifecycleChoice FulfillmentCall Empty (Except Failure Unit) where
  program call := (call.lifecycle.saga orderId).run
  perform := performLifecycle orderId
  environment world _ := world

def lifecycleMachine (orderId : Uuid) :
    Machine lifecycleSignature LifecycleWorld LifecycleChoice LifecycleCall Empty (Except Failure Unit) where
  program call := (call.saga orderId).run
  perform := performLifecycle orderId
  environment world _ := world

abbrev LifecyclePool := Pool lifecycleSignature LifecycleWorld LifecycleCall (Except Failure Unit)

abbrev LifecycleInput := Input LifecycleCall LifecycleChoice Empty

/-- A new order with the ids of its lines, and what its branch has beside it. -/
structure NewLifecycle extends NewOrder where
  firstItemId : Uuid := 0
  cash : CashStore := {}
  shippingProviders : Table Uuid String := ∅

def NewLifecycle.world (new : NewLifecycle) : LifecycleWorld where
  db := {
    toOrderDb := new.toNewOrder.world.db, itemIds := freshIds new.firstItemId new.toNewOrder.world.db.items.length
    cash := new.cash, shippingProviders := new.shippingProviders }

def lifecycleAfter (new : NewLifecycle) (inputs : List LifecycleInput) : LifecyclePool :=
  Run.after (lifecycleMachine new.orderId).step { shared := new.world } inputs

structure UnshippedOrder where
  orderId : Uuid
  world : LifecycleWorld
  order : OrderEntity
  stored : world.db.order = some order
  unfulfilled : order.fulfillmentStatus ≠ .fulfilled
  fulfillments : world.db.fulfillments = []
  fulfillmentItems : world.db.fulfillmentItems = []
  events : world.db.events = []
  lineIds : (world.db.lines.map (·.1)).Nodup
  quantities : ∀ line ∈ world.db.lines, 0 ≤ line.2.qty

/-- The pool after a list of inputs, from an order that nothing was shipped of. -/
def fulfillmentAfter (unshipped : UnshippedOrder) (inputs : List (Input FulfillmentCall LifecycleChoice Empty)) :
    Pool lifecycleSignature LifecycleWorld FulfillmentCall (Except Failure Unit) :=
  Run.after (fulfillmentMachine unshipped.orderId).step { shared := unshipped.world } inputs

end Sales
