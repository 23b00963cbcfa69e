import RetailApi.Proofs.ConfirmedOrders

/-! What a cancelled order still holds. A cancellation releases the reservation the order row names as it reads it, whatever
becomes of the release: nothing stays held where the row names what is held, the release arrives, and no confirmation reserves
from then on. -/

namespace Sales

open Process Transaction Option

def NothingHeld (world : OrderWorld) : Prop :=
  ∀ reservation, world.reservation = some reservation → reservation.state ≠ .held

def StockFades (before after : OrderWorld) : Prop :=
  ∀ reservation, after.reservation = some reservation → reservation.state = .held → before.reservation = some reservation

/-- A reserve call that reaches inventory when nothing is reserved for the order. -/
def takesStock : OrderAction → OrderChoice → OrderWorld → Bool
  | .reserveWarehouseStock _, choice, world => choice.delivery.arrives && world.reservation.isNone
  | _, _, _ => false

def withholdsStock : OrderAction → OrderChoice → OrderWorld → Bool
  | .releaseWarehouseReservation .., choice, world => !choice.delivery.arrives && world.reservation.any (·.state = .held)
  | _, _, _ => false

section Actions

variable {world : OrderWorld}

theorem StockFades.refl (world : OrderWorld) : StockFades world world := fun _ found _ => found

theorem StockFades.of_same {after} (same : after.reservation = world.reservation) : StockFades world after := by
  intro reservation found _
  rw [← same]
  exact found

theorem settleOrder_reservation (world : OrderWorld) (outcome : Except Failure OrderDb) :
    (settleOrder world outcome).1.reservation = world.reservation := by
  cases outcome <;> rfl

theorem performReserve_untaken {reservation} {choice}
    (req : Inventory.CreateWarehouseReservationRequest)
    (untaken : (choice.delivery.arrives && reservation.isNone) = false) :
    (performReserve reservation choice req).1 = reservation := by
  cases reservation with
  | some existing => exact performReserve_known existing choice req
  | none =>
    have astray : choice.delivery.arrives = false := by simpa using untaken
    unfold performReserve
    cases delivery : choice.delivery with
    | answered | lost =>
      rw [delivery] at astray
      cases astray
    | failed => rfl
    | refused => cases reserveUnderKey none choice.newId req <;> rfl

theorem performRelease_held {reservation delivery id after} (released : performRelease reservation delivery id = some after)
    (held : after.state = .held) :
    reservation = some after ∧ (delivery.arrives = true → after.id ≠ id) := by
  unfold performRelease at released
  split at released
  · obtain ⟨existing, found, rfl⟩ := map_eq_some_iff.mp released
    by_cases same : existing.id = id
    · rw [if_pos same] at held
      cases before : existing.state <;> simp [before, HoldState.release?] at held
    · rw [if_neg same]
      exact ⟨found, fun _ => same⟩
  · next astray => exact ⟨released, fun arrives => absurd arrives astray⟩

theorem performOrder_fades (orderId : Uuid) {action choice} (untaken : takesStock action choice world = false) :
    StockFades world (performOrder orderId action choice world).1 := by
  cases action with
  | findOrder | resolveAndQuoteLines | resolveSaleWarehouse | getOrderDetails => exact .refl world
  | updateDraft | confirmReserved | cancelLocked => exact .of_same (settleOrder_reservation world _)
  | reserveWarehouseStock req => exact .of_same (performReserve_untaken req untaken)
  | releaseWarehouseReservation reservationId reason =>
    intro reservation found held
    exact (performRelease_held found held).1

end Actions

def orderCancelDiscipline (orderId : Uuid) : Discipline orderSignature OrderWorld OrderChoice where
  perform := performOrder orderId
  Holds _ := True
  Later := StockFades
  Urgent _ := False
  Allowed action choice world := takesStock action choice world = false ∧ withholdsStock action choice world = false
  refl := .refl
  trans first second reservation found held := first reservation (second reservation found held) held

section Cancelling

variable {orderId : Uuid} {world : OrderWorld} {order : OrderEntity}

theorem NothingHeld.later {after} (free : NothingHeld world) (later : StockFades world after) : NothingHeld after :=
  fun reservation found held => free reservation (later reservation found held) held

theorem ready_of_nothingHeld {α : Type} {saga : OrderSaga α} (free : NothingHeld world) :
    Ready (orderCancelDiscipline orderId) (fun now _ => NothingHeld now) saga world := by
  refine Safe.of_stable (fun _ => id) trivial ?_ fun now _ later _ _ => free.later later
  intro action choice now _ allowed
  exact ⟨trivial, performOrder_fades orderId allowed.1⟩

def NamesHeld (order : OrderEntity) (world : OrderWorld) : Prop :=
  ∀ reservation, world.reservation = some reservation → reservation.state = .held →
    order.heldReservation = some reservation.id

theorem releaseHeld_clears (dto : CancelOrderDto) (names : NamesHeld order world) :
    Ready (orderCancelDiscipline orderId) (fun now _ => NothingHeld now) (releaseHeld order dto) world := by
  unfold releaseHeld
  split
  · next reservationId named =>
    refine Ready.attempt id trivial ?_
    intro now choice later _ allowed
    refine ⟨trivial, performOrder_fades orderId allowed.1, ?_⟩
    intro final _ fade _ _
    refine NothingHeld.later ?_ fade
    intro reservation found held
    obtain ⟨before, spared⟩ := performRelease_held found held
    have own := names reservation (later reservation before held) held
    rw [named] at own
    cases arrives : choice.delivery.arrives with
    | true => exact spared arrives (some.inj own).symm
    | false =>
      have through := allowed.2
      simp [withholdsStock, arrives, before, held] at through
  · next unnamed =>
    refine Ready.pure trivial fun now later _ reservation found held => ?_
    have own := names reservation (later reservation found held) held
    cases unnamed.symm.trans own

theorem cancelFound_clears (actorId : Uuid) (scope : BranchScope) (dto : CancelOrderDto)
    (names : NamesHeld order world) (ended : order.orderStatus = .cancelled → NothingHeld world) :
    Ready (orderCancelDiscipline orderId) (fun now _ => NothingHeld now) (cancelFound actorId scope dto order) world := by
  unfold cancelFound
  split
  · next cancelled => exact ready_of_nothingHeld (ended cancelled)
  · unfold cancelRead
    cases assertCancellable order dto with
    | error failure => exact Ready.throw trivial
    | ok _ => exact (releaseHeld_clears dto names).bind fun _ _ _ _ free => ready_of_nothingHeld free

end Cancelling

def OrderEntity.givenBack (order : OrderEntity) : Option Uuid :=
  if order.orderStatus = .cancelled then none else order.heldReservation

/-- Held stock is named by the order row, in a state in which a cancellation releases it. -/
def stockNamed (world : OrderWorld) : Bool :=
  world.reservation.all fun reservation =>
    reservation.state ≠ .held || world.db.order.any fun order => order.givenBack = some reservation.id

/-- A step that reserves nothing for the order and, by the given call, lets no release go astray. -/
def clearsStock (thread : Nat) (pool : OrderPool) : OrderInput → Bool
  | .advance other choice => (pool.pending other).all fun action =>
      !takesStock action choice pool.shared && (other ≠ thread || !withholdsStock action choice pool.shared)
  | _ => true

def OrderCancelTold (world : OrderWorld) (result : Except Failure OrderDetails) : Prop :=
  ∀ details, result = .ok details → NothingHeld world

section Runs

variable {orderId : Uuid} {world : OrderWorld}

theorem stockNamed_names {order} (named : stockNamed world = true) (found : world.db.order = some order) :
    NamesHeld order world ∧ (order.orderStatus = .cancelled → NothingHeld world) := by
  have given : ∀ reservation, world.reservation = some reservation → reservation.state = .held →
      order.givenBack = some reservation.id := by
    intro reservation stored held
    simpa [stockNamed, stored, held, found] using named
  refine ⟨?_, ?_⟩
  · intro reservation stored held
    have back := given reservation stored held
    unfold OrderEntity.givenBack at back
    split at back
    · cases back
    · exact back
  · intro cancelled reservation stored held
    have back := given reservation stored held
    rw [OrderEntity.givenBack, if_pos cancelled] at back
    cases back

theorem cancelAfterRead_ready (actorId : Uuid) (scope : BranchScope) (dto : CancelOrderDto) (named : stockNamed world = true) :
    Ready (orderCancelDiscipline orderId) (fun now _ => NothingHeld now)
      (checked (required ((world.db.order.map fun order => (⟨order, world.db.items⟩ : OrderRead)).filter fun read =>
        branchAllowed scope read.order.branchId) (orderNotFound orderId)) >>= fun read =>
          cancelFound actorId scope dto read.order) world := by
  cases stored : world.db.order with
  | none => exact Ready.throw trivial
  | some order =>
    rw [map_some, filter_some]
    split
    · obtain ⟨names, ended⟩ := stockNamed_names named stored
      exact cancelFound_clears actorId scope dto names ended
    · exact Ready.throw trivial

theorem cancelOrder_reads (actorId : Uuid) (scope : BranchScope) (dto : CancelOrderDto) :
    ((OrderCall.cancelOrder actorId scope dto).saga orderId).run = .perform (S := orderSignature) .findOrder
      fun read : Option OrderRead => ExceptT.run (checked (required (read.filter fun read =>
        branchAllowed scope read.order.branchId) (orderNotFound orderId)) >>= fun read =>
          cancelFound actorId scope dto read.order) := by
  refine congrArg (Program.perform (S := orderSignature) OrderAction.findOrder) (funext fun read => ?_)
  show ExceptT.bindCont (fun read : OrderRead => cancelFound actorId scope dto read.order) (required
    (Option.filter (fun read : OrderRead => branchAllowed scope read.order.branchId) read) (orderNotFound orderId)) = _
  cases required (Option.filter (fun read : OrderRead => branchAllowed scope read.order.branchId) read)
    (orderNotFound orderId) <;> rfl

theorem clearsStock_advance {thread other pool choice action}
    (clears : clearsStock thread pool (.advance other choice) = true) (pending : pool.pending other = some action) :
    takesStock action choice pool.shared = false ∧ (other = thread → withholdsStock action choice pool.shared = false) := by
  rw [clearsStock, pending] at clears
  exact spared clears

theorem clearsStock_step {thread pool input} (clears : clearsStock thread pool input = true)
    (tracked : Tracked (orderCancelDiscipline orderId) OrderCancelTold thread pool) :
    Tracked (orderCancelDiscipline orderId) OrderCancelTold thread ((orderMachine orderId).step pool input) := by
  refine tracked.step rfl (fun _ => id) trivial ?_ trivial ?_
  · rintro choice action rfl pending
    obtain ⟨untaken, through⟩ := clearsStock_advance clears pending
    exact ⟨untaken, through rfl⟩
  · refine step_shared (StockFades pool.shared) (.refl _) ?_ fun event => event.elim
    rintro other choice action rfl pending
    exact performOrder_fades orderId (clearsStock_advance clears pending).1

end Runs

theorem orderAfter_append (new : NewOrder) (first second : List OrderInput) :
    orderAfter new (first ++ second) = Run.after (orderMachine new.orderId).step (orderAfter new first) second :=
  Run.after_append _ _ _

/-- In every run in which a cancellation reads an order that names the stock held for it, its release arrives, and
nothing is reserved from then on: once it has returned, no stock is held for the order. -/
theorem cancelled_order_holds_no_stock (new : NewOrder) (earlier during : List OrderInput) (thread : Nat)
    (actorId : Uuid) (scope : BranchScope) (dto : CancelOrderDto) (choice : OrderChoice) (details : OrderDetails)
    (called : (orderAfter new earlier).running thread =
      some ((OrderCall.cancelOrder actorId scope dto).saga new.orderId).run)
    (named : stockNamed (orderAfter new earlier).shared = true)
    (clears : Run.Meets (orderMachine new.orderId).step (fun pool input => clearsStock thread pool input = true)
      (orderAfter new (earlier ++ [.advance thread choice])) during)
    (returned : (orderAfter new (earlier ++ .advance thread choice :: during)).returned thread = some details) :
    NothingHeld (orderAfter new (earlier ++ .advance thread choice :: during)).shared := by
  rw [cancelOrder_reads] at called
  have read : orderAfter new (earlier ++ [.advance thread choice]) =
      (orderMachine new.orderId).step (orderAfter new earlier) (.advance thread choice) := orderAfter_append new _ _
  rw [read] at clears
  rw [orderAfter_append] at returned ⊢
  have tracked : Tracked (orderCancelDiscipline new.orderId) OrderCancelTold thread
      (Run.after (orderMachine new.orderId).step (orderAfter new earlier) (.advance thread choice :: during)) :=
    Tracked.of_action called (cancelAfterRead_ready actorId scope dto named) (fun _ _ step => clearsStock_step step) clears
  unfold OrderPool.returned at returned
  split at returned
  · next ended running => exact tracked.returned trivial running _ rfl
  · cases returned

theorem orderAfter_call (new : NewOrder) (inputs : List OrderInput) (call : OrderCall) :
    (orderAfter new (inputs ++ [.call call])).running (orderAfter new inputs).threads.length =
      some (call.saga new.orderId).run := by
  rw [orderAfter_append]
  exact (running_call call _).trans (if_pos rfl)

def answeredConfirmation : List OrderInput := .call (.confirmOrder 7 none {}) :: orderTurns 0 5

/-- A confirmed order is cancelled, and its stock comes free. -/
theorem cancelled_order_holds_no_stock_confirmed :
    let cancelled := orderAfter unitOrder
      (answeredConfirmation ++ [.call (.cancelOrder 7 none {})] ++ .advance 1 {} :: orderTurns 1 3)
    (cancelled.returned 1).map (·.order.orderStatus) = some .cancelled ∧
      cancelled.shared.reservation.map (·.state) = some .released ∧ NothingHeld cancelled.shared := by
  have returned : ((orderAfter unitOrder (answeredConfirmation ++ [.call (.cancelOrder 7 none {})] ++
      .advance 1 {} :: orderTurns 1 3)).returned 1).map (·.order.orderStatus) = some .cancelled := by decide +kernel
  have first : (orderAfter unitOrder answeredConfirmation).threads.length = 1 := by decide +kernel
  have called := orderAfter_call unitOrder answeredConfirmation (.cancelOrder 7 none {})
  rw [first] at called
  obtain ⟨details, known, _⟩ := map_eq_some_iff.mp returned
  have free := cancelled_order_holds_no_stock unitOrder (answeredConfirmation ++ [.call (.cancelOrder 7 none {})])
    (orderTurns 1 3) 1 7 none {} {}
  exact ⟨returned, by decide +kernel, free details called (by decide +kernel) (by decide +kernel) known⟩

def OrderPool.idle (pool : OrderPool) : Bool := pool.threads.all fun thread => thread.program.all (·.action.isNone)

def unansweredConfirmation : List OrderInput :=
  .call (.confirmOrder 7 none {}) :: orderTurns 0 2 ++ [.advance 0 { delivery := .lost, newId := 300 }]

/-- The answer to the reservation is lost: the order never learns of it, and its cancellation leaves it held. -/
theorem cancelled_order_keeps_lost_reservation :
    ¬∀ new earlier during thread actorId scope dto details,
      (orderAfter new earlier).running thread = some ((OrderCall.cancelOrder actorId scope dto).saga new.orderId).run →
      (orderAfter new (earlier ++ during)).returned thread = some details →
      (orderAfter new (earlier ++ during)).idle = true → NothingHeld (orderAfter new (earlier ++ during)).shared := by
  intro claimed
  have returned : ((orderAfter unitOrder (unansweredConfirmation ++ [.call (.cancelOrder 7 none {})] ++ orderTurns 1 3)).returned 1).map
      (·.order.orderStatus) = some .cancelled := by decide +kernel
  have held : (orderAfter unitOrder (unansweredConfirmation ++ [.call (.cancelOrder 7 none {})] ++ orderTurns 1 3)).shared.reservation.any
      (·.state = .held) = true := by decide +kernel
  have first : (orderAfter unitOrder unansweredConfirmation).threads.length = 1 := by decide +kernel
  have called := orderAfter_call unitOrder unansweredConfirmation (.cancelOrder 7 none {})
  obtain ⟨details, known, _⟩ := map_eq_some_iff.mp returned
  obtain ⟨reservation, found, state⟩ := (any_eq_true _ _).mp held
  let earlier : List OrderInput := unansweredConfirmation ++ [.call (.cancelOrder 7 none {})]
  have free := claimed unitOrder earlier (orderTurns 1 3) 1 7 none {} details called known (by decide +kernel)
  exact free reservation found (of_decide_eq_true state)

end Sales
