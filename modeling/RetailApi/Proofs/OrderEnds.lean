import RetailApi.Proofs.ConfirmedOrders
import RetailApi.Sales.LifecycleSystem

/-! Orders that have ended. A cancelled order has nothing reserved or fulfilled, so the
aggregate refuses to fulfil it, unless it was paid in full: then `markFulfilled` completes
it first and checks afterwards. -/

namespace Sales

open Process Transaction LifecycleDb OrderEntity Option Run

def LifecycleEvent.isOrderCompleted : LifecycleEvent → Bool
  | .orderCompleted _ => true
  | _ => false

namespace LifecycleDb

def status (db : LifecycleDb) : Option CommercialOrderStatus := db.order.map (·.orderStatus)

def completions (db : LifecycleDb) : Nat := db.events.countP LifecycleEvent.isOrderCompleted

end LifecycleDb

def CancelledUnfulfilled (db : LifecycleDb) : Prop :=
  ∀ order, db.order = some order → order.orderStatus = .cancelled → order.fulfillmentStatus = .unfulfilled

/-- A change of the order; one that respects its end leaves a cancelled order as it is. -/
structure StatusStep (respects : Prop) (before after : LifecycleDb) : Prop where
  cancelled : respects → before.status = some .cancelled → after.order = before.order
  completed : before.status = some .completed → after.status = some .completed
  told : after.completions =
    before.completions + if after.status = some .completed ∧ before.status ≠ some .completed then 1 else 0
  unfulfilled : CancelledUnfulfilled before → CancelledUnfulfilled after

structure EndsOnce (db : LifecycleDb) : Prop where
  told : db.completions = if db.status = some .completed then 1 else 0
  unfulfilled : CancelledUnfulfilled db

section Steps

variable {orderId : Uuid} {db after : LifecycleDb} {order written : OrderEntity} {respects : Prop}

theorem EndsOnce.step (once : EndsOnce db) (stepped : StatusStep respects db after) : EndsOnce after := by
  refine ⟨?_, stepped.unfulfilled once.unfulfilled⟩
  rw [stepped.told, once.told]
  by_cases ended : db.status = some .completed
  · rw [if_pos ended, if_neg (fun changed => changed.2 ended), if_pos (stepped.completed ended)]
  · rw [if_neg ended, Nat.zero_add]
    by_cases now : after.status = some .completed
    · rw [if_pos ⟨now, ended⟩, if_pos now]
    · rw [if_neg (fun changed => now changed.1), if_neg now]

theorem StatusStep.of_same (same : after.order = db.order) (quiet : after.completions = db.completions) :
    StatusStep respects db after := by
  have status : after.status = db.status := congrArg (Option.map _) same
  refine ⟨fun _ _ => same, fun ended => status.trans ended, ?_, fun held order found => held order (same ▸ found)⟩
  rw [quiet, status, if_neg (fun changed => changed.2 changed.1), Nat.add_zero]

theorem StatusStep.refl (db : LifecycleDb) : StatusStep respects db db := .of_same rfl rfl

theorem StatusStep.of_written (stored : db.order = some order) (rewritten : after.order = some written)
    (alive : respects → order.orderStatus ≠ .cancelled) (ended : order.orderStatus = .completed → written.orderStatus = .completed)
    (told : after.completions =
      db.completions + if written.orderStatus = .completed ∧ order.orderStatus ≠ .completed then 1 else 0)
    (unfulfilled : written.orderStatus = .cancelled → written.fulfillmentStatus = .unfulfilled) : StatusStep respects db after := by
  have before : db.status = some order.orderStatus := congrArg (Option.map _) stored
  have now : after.status = some written.orderStatus := congrArg (Option.map _) rewritten
  refine ⟨?_, ?_, ?_, ?_⟩
  · intro respected cancelled
    exact absurd (Option.some.inj (before.symm.trans cancelled)) (alive respected)
  · intro completed
    rw [now, ended (Option.some.inj (before.symm.trans completed))]
  · rw [told, before, now]
    simp only [Option.some.injEq, ne_eq]
  · intro _ row found
    cases rewritten.symm.trans found
    exact unfulfilled

theorem StatusStep.of_status (stored : db.order = some order) (rewritten : after.order = some written)
    (alive : order.orderStatus ≠ .cancelled) (same : written.orderStatus = order.orderStatus)
    (quiet : after.completions = db.completions) : StatusStep respects db after := by
  refine .of_written stored rewritten (fun _ => alive) (fun ended => same.trans ended) ?_ fun cancelled => ?_
  · rw [quiet, same, if_neg (fun changed => changed.2 changed.1), Nat.add_zero]
  · exact absurd (same.symm.trans cancelled) alive

theorem isOpen_eq_true : order.isOpen = true ↔ order.orderStatus = .draft ∨ order.orderStatus = .pending := by
  simp [isOpen]

theorem isOpen_alive (opened : order.isOpen = true) : order.orderStatus ≠ .cancelled ∧ order.orderStatus ≠ .completed := by
  rcases isOpen_eq_true.mp opened with status | status <;> rw [status] <;> decide

variable {scope : BranchScope} {actorId fulfillmentId : Uuid} {version : Nat} {events : List LifecycleEvent}

theorem updateDraft_ok {edited dto quote} (updated : updateDraft orderId db.toOrderDb scope dto quote = .ok edited) :
    ∃ order written, db.order = some order ∧ edited.order = some written ∧ order.isOpen = true ∧
      written.orderStatus = order.orderStatus := by
  simp only [updateDraft, assertEditable, eq_ok] at updated
  obtain ⟨order, found, _, _, _, ⟨_, _, opened⟩, stored⟩ := updated
  have known := (filter_eq_some_iff.mp found).1
  cases quote with
  | none =>
    cases stored
    exact ⟨order, _, known, rfl, opened, rfl⟩
  | some quote =>
    cases stored
    exact ⟨order, _, known, rfl, opened, rfl⟩

theorem confirmReserved_ok {confirmed warehouseId reservationId}
    (ran : confirmReserved orderId db.toOrderDb actorId warehouseId reservationId = .ok confirmed) :
    confirmed = db.toOrderDb ∨ ∃ order written, db.order = some order ∧ confirmed.order = some written ∧
      order.isOpen = true ∧ written.orderStatus = .confirmed := by
  simp only [confirmReserved, eq_ok] at ran
  obtain ⟨order, found, rest⟩ := ran
  split at rest
  · exact .inl (Except.ok.inj rest).symm
  · simp only [confirmWithReservation, assertCanConfirm, eq_ok] at rest
    obtain ⟨_, ⟨_, _, _, opened, _, _, rfl⟩, rfl⟩ := rest
    exact .inr ⟨order, _, found, rfl, opened, rfl⟩

theorem cancelLocked_row {cancelled reason} (ran : cancelLocked orderId db.toOrderDb actorId reason = .ok cancelled) :
    cancelled = db.toOrderDb ∨ ∃ order written, db.order = some order ∧ cancelled.order = some written ∧
      order.orderStatus ≠ .cancelled ∧ order.orderStatus ≠ .completed ∧ written.orderStatus = .cancelled ∧
      written.fulfillmentStatus = .unfulfilled := by
  unfold cancelLocked at ran
  split at ran
  · exact .inl (Except.ok.inj ran).symm
  · next order found =>
    simp only [cancel, assertCanCancelOrder, eq_ok] at ran
    obtain ⟨_, _, row, ⟨_, _, _, ⟨_, alive, unfinished⟩, _, _, rfl⟩, coupons, _, rfl⟩ := ran
    exact .inr ⟨order, _, (filter_eq_some_iff.mp found).1, rfl, alive, unfinished.1, rfl, rfl⟩

theorem statusStep_settled {world : LifecycleWorld} {outcome itemIds}
    (committed : ∀ row, outcome = .ok row → StatusStep respects world.db { world.db with toOrderDb := row, itemIds }) :
    StatusStep respects world.db
      { world.db with toOrderDb := (settleOrder ⟨world.db.toOrderDb, world.reservation⟩ outcome).1.db, itemIds } := by
  cases outcome with
  | error failure => exact .of_same rfl rfl
  | ok row => exact committed row rfl

theorem performOpenOrder_statusStep (action : OrderAction) (choice : LifecycleChoice) (world : LifecycleWorld) :
    StatusStep respects world.db (performOpenOrder orderId action choice world).1.db := by
  cases action with
  | findOrder | resolveAndQuoteLines | resolveSaleWarehouse | getOrderDetails | reserveWarehouseStock
    | releaseWarehouseReservation => exact .of_same rfl rfl
  | updateDraft scope dto quote =>
    refine statusStep_settled fun row updated => ?_
    obtain ⟨order, written, found, rewritten, opened, same⟩ := updateDraft_ok updated
    exact .of_status found rewritten (isOpen_alive opened).1 same rfl
  | confirmReserved read actorId warehouseId reservationId =>
    refine statusStep_settled fun row ran => ?_
    rcases confirmReserved_ok ran with rfl | ⟨order, written, found, rewritten, opened, now⟩
    · exact .of_same rfl rfl
    · refine .of_written found rewritten (fun _ => (isOpen_alive opened).1) ?_ ?_ ?_
      · exact fun ended => absurd ended (isOpen_alive opened).2
      · simp [now, completions]
      · exact fun cancelled => by cases now.symm.trans cancelled
  | cancelLocked actorId reason =>
    refine statusStep_settled fun row ran => ?_
    rcases cancelLocked_row ran with rfl | ⟨order, written, found, rewritten, alive, unfinished, now, unfulfilled⟩
    · exact .of_same rfl rfl
    · refine .of_written found rewritten (fun _ => alive) (fun ended => absurd ended unfinished) ?_ fun _ => unfulfilled
      simp [now, completions]

theorem createFulfillment_statusStep {ids dto}
    (created : createFulfillment orderId ids db actorId scope dto = .ok after) : StatusStep respects db after := by
  simp only [createFulfillment, eq_ok] at created
  obtain ⟨_, _, rfl⟩ := created
  exact .of_same rfl rfl

theorem createFulfillmentRow_kept {ids fulfillmentType status carrierCode trackingNumber}
    (created : db.createFulfillmentRow ids order actorId fulfillmentType status carrierCode trackingNumber = .ok after) :
    after.order = db.order ∧ after.events = db.events := by
  simp only [createFulfillmentRow, eq_ok] at created
  obtain ⟨_, _, rfl⟩ := created
  exact ⟨rfl, rfl⟩

theorem lock_eq_ok (locked : db.lock orderId scope version = .ok order) : db.order = some order := by
  simp only [lock, eq_ok] at locked
  obtain ⟨_, found, _, _, rfl⟩ := locked
  exact (filter_eq_some_iff.mp found).1

theorem completions_append (told : after.events = db.events ++ events) :
    after.completions = db.completions + events.countP LifecycleEvent.isOrderCompleted := by
  rw [completions, told, List.countP_append]
  rfl

theorem completions_quiet (told : after.events = db.events ++ events)
    (quiet : events.countP LifecycleEvent.isOrderCompleted = 0) : after.completions = db.completions := by
  rw [completions_append told, quiet, Nat.add_zero]

theorem countP_completion (payload : OrderCompletedPayload) (before now : CommercialOrderStatus) :
    (if before ≠ .completed ∧ now = .completed then [LifecycleEvent.orderCompleted payload] else []).countP
      LifecycleEvent.isOrderCompleted = if now = .completed ∧ before ≠ .completed then 1 else 0 := by
  by_cases completes : now = .completed ∧ before ≠ .completed
  · rw [if_pos completes, if_pos completes.symm]
    rfl
  · rw [if_neg completes, if_neg fun both => completes both.symm]
    rfl

theorem confirmed_alive (confirmed : order.orderStatus = .confirmed) : order.orderStatus ≠ .cancelled := by
  rw [confirmed]
  decide

theorem pack_statusStep (packed : pack orderId db actorId scope version = .ok after) : StatusStep respects db after := by
  simp only [pack, eq_ok] at packed
  obtain ⟨order, locked, _, ⟨confirmed, _⟩, rfl⟩ := packed
  exact .of_status (lock_eq_ok locked) rfl (confirmed_alive confirmed) rfl (completions_quiet rfl rfl)

theorem ship_statusStep {ids dto}
    (shipped : ship orderId ids db actorId scope dto = .ok after) : StatusStep respects db after := by
  simp only [ship, eq_ok] at shipped
  obtain ⟨order, locked, _, ⟨confirmed, _⟩, _, _, created, made, rfl⟩ := shipped
  obtain ⟨_, events⟩ := createFulfillmentRow_kept made
  refine .of_status (lock_eq_ok locked) rfl (confirmed_alive confirmed) rfl ?_
  exact completions_quiet (congrArg (· ++ [_]) events) rfl

theorem openForCompletion_statusStep {ids opened} (ran : openForCompletion orderId ids db actorId scope version = .ok (after, opened)) :
    StatusStep respects db after := by
  simp only [openForCompletion, eq_ok] at ran
  obtain ⟨order, _, _, _, rest⟩ := ran
  split at rest
  · simp only [eq_ok] at rest
    obtain ⟨_, _, created, made, stored⟩ := rest
    cases stored
    obtain ⟨same, events⟩ := createFulfillmentRow_kept made
    exact .of_same same (congrArg (List.countP _) events)
  · cases rest
    exact .refl db

theorem paymentEvents_completed (actorId : Uuid) (order paid : OrderEntity) (dto : RecordPaymentDto) (shiftId : Option Uuid) :
    (db.paymentEvents orderId actorId order paid dto shiftId).countP LifecycleEvent.isOrderCompleted =
      if paid.orderStatus = .completed ∧ order.orderStatus ≠ .completed then 1 else 0 := by
  rw [paymentEvents, List.countP_append, orderCompleted, countP_completion]
  apply Nat.add_eq_right.mpr
  by_cases refund : dto.refund = true
  · rw [if_pos refund]
    rfl
  · rw [if_neg refund]
    by_cases paidOff : paid.paymentStatus = .paid
    · rw [if_pos paidOff]
      rfl
    · rw [if_neg paidOff]
      rfl

theorem withPayment_orderStatus (order : OrderEntity) (dto : RecordPaymentDto) :
    (order.withPayment dto).orderStatus = order.orderStatus ∨
      (order.orderStatus = .confirmed ∧ (order.withPayment dto).orderStatus = .completed) := by
  have status : (order.withPayment dto).orderStatus =
      if (order.withPayment dto).paymentStatus = .paid ∧ order.orderStatus = .confirmed ∧ order.fulfillmentStatus = .fulfilled
        then .completed else order.orderStatus := rfl
  rw [status]
  split
  · next completes => exact .inr ⟨completes.2.1, rfl⟩
  · exact .inl rfl

theorem recordPayment_statusStep {ids key dto recorded}
    (ran : recordPayment orderId ids db actorId scope key dto = .ok (after, recorded)) : StatusStep respects db after := by
  simp only [recordPayment, eq_ok] at ran
  obtain ⟨order, found, rest⟩ := ran
  split at rest
  · cases rest
    exact .refl db
  · simp only [assertPayable, eq_ok] at rest
    obtain ⟨_, ⟨_, ⟨alive, _⟩, _⟩, shiftId, _, cash, _, stored⟩ := rest
    cases stored
    refine .of_written (filter_eq_some_iff.mp found).1 rfl (fun _ => alive) ?_ ?_ ?_
    · intro ended
      rcases withPayment_orderStatus order dto with same | ⟨confirmed, _⟩
      · exact same.trans ended
      · cases ended.symm.trans confirmed
    · rw [completions_append rfl, paymentEvents_completed]
    · intro cancelled
      rcases withPayment_orderStatus order dto with same | ⟨_, completed⟩
      · exact absurd (same.symm.trans cancelled) alive
      · cases cancelled.symm.trans completed

/-- The order that a confirmation of this fulfilment would complete, although it was cancelled. -/
def completesCancelled (db : LifecycleDb) (fulfillmentId : Uuid) : Bool :=
  (db.fulfillment fulfillmentId).isSome && db.order.any fun order => order.orderStatus = .cancelled ∧ order.paymentStatus = .paid

theorem confirmedEvents_completed (actorId : Uuid) (locked fulfilled : OrderEntity) (fulfillment : OrderFulfillmentEntity) :
    (db.confirmedEvents orderId actorId locked fulfilled fulfillment).countP LifecycleEvent.isOrderCompleted =
      if fulfilled.orderStatus = .completed ∧ locked.orderStatus ≠ .completed then 1 else 0 := by
  rw [confirmedEvents, List.countP_append, orderCompleted, countP_completion]
  rfl

theorem fulfilled_orderStatus (order : OrderEntity) :
    order.fulfilled.orderStatus = if order.paymentStatus = .paid then .completed else order.orderStatus := rfl

theorem markFulfilled_ok (marked : order.markFulfilled = .ok written) :
    written = order.fulfilled ∧ order.fulfilled.orderStatus ≠ .cancelled := by
  simp only [markFulfilled, assertLegal, validateOrderStateCombination, eq_ok] at marked
  obtain ⟨_, _, _, ⟨_, _, _, retained, _⟩, rfl⟩ := marked
  exact ⟨rfl, fun cancelled => (retained cancelled).2 rfl⟩

theorem confirmLocked_statusStep (ran : confirmLocked orderId db actorId fulfillmentId = .ok after) :
    StatusStep (completesCancelled db fulfillmentId = false) db after := by
  simp only [confirmLocked, eq_ok] at ran
  obtain ⟨lockedF, found, rest⟩ := ran
  split at rest
  · cases rest
    exact .of_same rfl rfl
  · next locked stored =>
    simp only [eq_ok] at rest
    obtain ⟨row, marked, rfl⟩ := rest
    obtain ⟨rfl, alive⟩ := markFulfilled_ok marked
    refine .of_written stored rfl ?_ ?_ ?_ fun cancelled => absurd cancelled alive
    · -- A cancelled order that is fulfilled was completed by its payment.
      intro respects cancelled
      rw [fulfilled_orderStatus, cancelled] at alive
      have paid : locked.paymentStatus = .paid := by
        by_contra unpaid
        exact alive (if_neg unpaid)
      simp [completesCancelled, found, stored, cancelled, paid] at respects
    · intro ended
      rw [fulfilled_orderStatus, ended, ite_self]
    · rw [completions_append rfl, confirmedEvents_completed]

theorem confirmLocked_revives (orderId actorId : Uuid) (once : EndsOnce db)
    (revives : completesCancelled db fulfillmentId = true) :
    ∃ after, confirmLocked orderId db actorId fulfillmentId = .ok after ∧ db.status = some .cancelled ∧
      after.status = some .completed := by
  obtain ⟨exists_, paidOff⟩ := Bool.and_eq_true_iff.mp revives
  obtain ⟨lockedF, found⟩ := isSome_iff_exists.mp exists_
  obtain ⟨order, stored, condition⟩ := (any_eq_true _ _).mp paidOff
  obtain ⟨cancelled, paid⟩ := of_decide_eq_true condition
  have unfulfilled := once.unfulfilled order stored cancelled
  have marked : order.markFulfilled = .ok order.fulfilled := by
    simp [markFulfilled, assertLegal, validateOrderStateCombination, fulfilled, ensure,
      cancelled, paid, unfulfilled, bind, Except.bind, pure, Except.pure]
  have ran : ∃ after, confirmLocked orderId db actorId fulfillmentId = .ok after ∧ after.order = some order.fulfilled := by
    simp only [confirmLocked, found, required, stored, marked]
    exact ⟨_, rfl, rfl⟩
  obtain ⟨after, executed, rewritten⟩ := ran
  refine ⟨after, executed, by rw [status, stored, map_some, cancelled], ?_⟩
  rw [status, rewritten, map_some, fulfilled_orderStatus, if_pos paid]

end Steps

def LifecycleAction.revives (db : LifecycleDb) : LifecycleAction → Bool
  | .confirmLocked _ fulfillmentId => completesCancelled db fulfillmentId
  | _ => false

/-- An input that confirms a fulfilment of a cancelled order that was paid. -/
def revivesOrder (pool : LifecyclePool) : LifecycleInput → Bool
  | .advance thread _ => (pool.pending thread).any (·.revives pool.shared.db)
  | _ => false

structure OrderEndsKept (new : NewLifecycle) (inputs : List LifecycleInput) : Prop where
  cancelled : ∀ earlier later, inputs = earlier ++ later → (lifecycleAfter new earlier).shared.db.status = some .cancelled →
    (lifecycleAfter new inputs).shared.db.status = some .cancelled ∧
      (lifecycleAfter new inputs).shared.db.completions = (lifecycleAfter new earlier).shared.db.completions
  completed : ∀ earlier later, inputs = earlier ++ later → (lifecycleAfter new earlier).shared.db.status = some .completed →
    (lifecycleAfter new inputs).shared.db.status = some .completed
  once : (lifecycleAfter new inputs).shared.db.completions ≤ 1

section Runs

variable {orderId : Uuid} {pool : LifecyclePool} {input : LifecycleInput} {respects : Prop}

variable {world : LifecycleWorld} {inputs : List LifecycleInput}

theorem settleLifecycle_statusStep {α : Type} {outcome : Except Failure (LifecycleDb × α)}
    (committed : ∀ db result, outcome = .ok (db, result) → StatusStep respects world.db db) :
    StatusStep respects world.db (settleLifecycle world outcome).1.db := by
  cases outcome with
  | error failure => exact .refl world.db
  | ok done => exact committed done.1 done.2 rfl

theorem silent_statusStep {outcome} (committed : ∀ db, outcome = .ok db → StatusStep respects world.db db) :
    StatusStep respects world.db (settleLifecycle world (silent outcome)).1.db := by
  cases outcome with
  | error failure => exact .refl world.db
  | ok db => exact committed db rfl

theorem performLifecycle_statusStep (orderId : Uuid) (action : LifecycleAction) (choice : LifecycleChoice) (world : LifecycleWorld) :
    StatusStep (action.revives world.db = false) world.db (performLifecycle orderId action choice world).1.db := by
  cases action with
  | order action => exact performOpenOrder_statusStep action choice world
  | readFulfillment | findFulfillmentItems | commitWarehouseReservation | view => exact .refl world.db
  | createFulfillment => exact silent_statusStep fun _ created => createFulfillment_statusStep created
  | confirmLocked => exact silent_statusStep fun _ ran => confirmLocked_statusStep ran
  | pack => exact silent_statusStep fun _ packed => pack_statusStep packed
  | ship => exact silent_statusStep fun _ shipped => ship_statusStep shipped
  | openForCompletion => exact settleLifecycle_statusStep fun _ _ ran => openForCompletion_statusStep ran
  | recordPayment => exact settleLifecycle_statusStep fun _ _ ran => recordPayment_statusStep ran

theorem lifecycle_statusStep (orderId : Uuid) (pool : LifecyclePool) (input : LifecycleInput) :
    StatusStep (revivesOrder pool input = false) pool.shared.db
      ((lifecycleMachine orderId).step pool input).shared.db := by
  refine step_shared (fun world : LifecycleWorld => StatusStep (revivesOrder pool input = false) pool.shared.db world.db)
    (.refl _) ?_ fun event => event.elim
  rintro thread choice action rfl pending
  have performed := performLifecycle_statusStep orderId action choice pool.shared
  refine ⟨fun respects => performed.cancelled ?_, performed.completed, performed.told, performed.unfulfilled⟩
  rw [revivesOrder, pending] at respects
  exact respects

theorem lifecycle_revives (orderId : Uuid) (once : EndsOnce pool.shared.db) (revives : revivesOrder pool input = true) :
    pool.shared.db.status = some .cancelled ∧
      ((lifecycleMachine orderId).step pool input).shared.db.status = some .completed := by
  cases input with
  | call | crash | environment => cases revives
  | advance thread choice =>
    obtain ⟨action, pending, condition⟩ := (any_eq_true _ _).mp revives
    obtain ⟨program, running, acts⟩ := bind_eq_some_iff.mp pending
    cases program with
    | done => cases acts
    | perform action next =>
      cases acts
      cases action with
      | confirmLocked actorId fulfillmentId =>
        obtain ⟨after, ran, cancelled, completed⟩ := confirmLocked_revives orderId actorId once condition
        refine ⟨cancelled, ?_⟩
        rw [(step_advance _ choice running).1]
        simp only [lifecycleMachine, performLifecycle, ran]
        exact completed
      | _ => cases condition

theorem lifecycle_endsOnce (once : EndsOnce pool.shared.db) :
    EndsOnce (after (lifecycleMachine orderId).step pool inputs).shared.db :=
  invariant (fun later : LifecyclePool => EndsOnce later.shared.db)
    (fun later input held => held.step (lifecycle_statusStep orderId later input)) once inputs

theorem lifecycle_completed (orderId : Uuid) (inputs : List LifecycleInput) (completed : pool.shared.db.status = some .completed) :
    (after (lifecycleMachine orderId).step pool inputs).shared.db.status = some .completed :=
  invariant (fun later : LifecyclePool => later.shared.db.status = some .completed)
    (fun later input held => (lifecycle_statusStep orderId later input).completed held) completed inputs

theorem lifecycle_cancelled (cancelled : pool.shared.db.status = some .cancelled)
    (met : Meets (lifecycleMachine orderId).step (fun pool input => revivesOrder pool input = false) pool inputs) :
    (after (lifecycleMachine orderId).step pool inputs).shared.db.status = some .cancelled := by
  refine invariant_of_meets (fun later : LifecyclePool => later.shared.db.status = some .cancelled) ?_ met cancelled
  intro later input respects held
  have same := (lifecycle_statusStep orderId later input).cancelled respects held
  rw [status, same]
  exact held

end Runs

theorem lifecycleAfter_append (new : NewLifecycle) (first second : List LifecycleInput) :
    lifecycleAfter new (first ++ second) = after (lifecycleMachine new.orderId).step (lifecycleAfter new first) second :=
  after_append _ _ _

theorem lifecycleAfter_endsOnce (new : NewLifecycle) (inputs : List LifecycleInput) :
    EndsOnce (lifecycleAfter new inputs).shared.db := by
  have alive : ∀ status : Option InitialStatus, (status.getD .pending).orderStatus ≠ .completed ∧
      (status.getD .pending).orderStatus ≠ .cancelled := by
    rintro (_ | _ | _) <;> decide
  refine lifecycle_endsOnce ⟨?_, ?_⟩
  · have open_ : new.world.db.status ≠ some .completed :=
      fun completed => (alive new.dto.initialStatus).1 (some.inj completed)
    exact (if_neg open_).symm
  · rintro order found cancelled
    cases found
    exact absurd cancelled (alive new.dto.initialStatus).2

/-- Over every run of a new order, ended orders stay as they are exactly when no confirmation of a fulfilment finds the
order cancelled after it was paid. -/
theorem order_ends_kept_iff (new : NewLifecycle) (inputs : List LifecycleInput) :
    OrderEndsKept new inputs ↔ Meets (lifecycleMachine new.orderId).step
      (fun pool input => revivesOrder pool input = false) { shared := new.world } inputs := by
  constructor
  · intro kept
    refine meets_iff_each.mpr fun earlier input later whole => ?_
    by_contra revives
    obtain ⟨cancelled, completed⟩ := lifecycle_revives new.orderId (lifecycleAfter_endsOnce new earlier)
      (Bool.not_eq_false _ ▸ revives : revivesOrder (lifecycleAfter new earlier) input = true)
    have ended := (kept.cancelled earlier _ whole cancelled).1
    have stays := lifecycle_completed new.orderId later completed
    rw [whole, lifecycleAfter_append] at ended
    cases ended.symm.trans stays
  · intro met
    have once := lifecycleAfter_endsOnce new inputs
    refine ⟨?_, ?_, ?_⟩
    · rintro earlier later rfl cancelled
      have rest := (meets_append.mp met).2
      have ended := lifecycle_cancelled cancelled rest
      rw [← lifecycleAfter_append] at ended
      refine ⟨ended, ?_⟩
      rw [once.told, (lifecycleAfter_endsOnce new earlier).told, ended, cancelled]
    · rintro earlier later rfl completed
      rw [lifecycleAfter_append]
      exact lifecycle_completed _ _ completed
    · rw [once.told]
      split <;> decide

def pricedOrder : NewLifecycle where
  toNewOrder := { unitOrder with quote := { unitOrder.quote with grandTotal := 100 } }
  firstItemId := 400

def lifecycleTurns (thread count : Nat) : List LifecycleInput :=
  List.replicate count (.advance thread {
    newId := 300, saleWarehouse := .ok 3, fulfillment := ⟨500, "VD000500"⟩, payment := ⟨600, 601, 0⟩ })

/-- The order is confirmed, paid in full, given a fulfilment, and cancelled. -/
def cancelledPaid : List LifecycleInput :=
  .call (.order (.confirmOrder 7 none {})) :: lifecycleTurns 0 5 ++
  .call (.recordPayment 7 none "key" { method := .bankTransfer, amount := 100 }) :: lifecycleTurns 1 1 ++
  .call (.createFulfillment 7 none {}) :: lifecycleTurns 2 1 ++
  .call (.order (.cancelOrder 7 none {})) :: lifecycleTurns 3 4

/-- The fulfilment outlives the cancellation, and its confirmation completes the cancelled order. -/
theorem cancelled_order_completed : ¬∀ new inputs, OrderEndsKept new inputs := by
  intro claimed
  let confirmation : List LifecycleInput := .call (.confirmFulfillment 500 7 none) :: lifecycleTurns 4 2
  have cancelled : (lifecycleAfter pricedOrder cancelledPaid).shared.db.status = some .cancelled := by decide +kernel
  have completed : (lifecycleAfter pricedOrder (cancelledPaid ++ confirmation)).shared.db.status = some .completed := by
    decide +kernel
  have kept := (claimed pricedOrder (cancelledPaid ++ confirmation)).cancelled cancelledPaid confirmation rfl cancelled
  cases kept.1.symm.trans completed

end Sales
