import RetailApi.Base.Confined
import RetailApi.Proofs.OrderEnds

/-! What fulfilments carry of an order. Nothing sums the lines of its fulfilments, the first
confirmation marks the whole order fulfilled, and a confirmation completes a fulfilment
without a second look at the status it read before. -/

namespace Sales

open Process Transaction LifecycleDb SagaUses List LifecycleEvent

def LifecycleEvent.isCompletionOf (fulfillmentId : Uuid) : LifecycleEvent → Bool
  | .fulfillmentCompleted id .. => id = fulfillmentId
  | _ => false

def carried (orderItemId : Uuid) (items : List FulfillmentItemEntity) : Int :=
  Keyed.total FulfillmentItemEntity.orderItemId FulfillmentItemEntity.qty orderItemId items

namespace LifecycleDb

def isCompleted (db : LifecycleDb) (fulfillmentId : Uuid) : Bool :=
  (db.fulfillment fulfillmentId).any (·.status = .completed)

def completedItems (db : LifecycleDb) : List FulfillmentItemEntity :=
  db.fulfillmentItems.filter fun item => db.isCompleted item.fulfillmentId

def toldCompletions (db : LifecycleDb) (fulfillmentId : Uuid) : Nat :=
  db.events.countP (isCompletionOf fulfillmentId)

end LifecycleDb

structure FulfilledMeansShipped (db : LifecycleDb) : Prop where
  ordered : ∀ line ∈ db.lines, carried line.1 db.fulfillmentItems ≤ line.2.qty
  fulfilled : ∀ order, db.order = some order → order.fulfillmentStatus = .fulfilled →
    ∀ line ∈ db.lines, carried line.1 db.completedItems = line.2.qty
  once : ∀ fulfillmentId, db.toldCompletions fulfillmentId ≤ 1

/-- The rows of the order agree, and a completion is told exactly when a row is completed. -/
structure FulfillmentBooks (db : LifecycleDb) : Prop where
  order : db.order.isSome = true
  ids : (db.fulfillments.map (·.id)).Nodup
  items : ∀ item ∈ db.fulfillmentItems, item.fulfillmentId ∈ db.fulfillments.map (·.id)
  statuses : ∀ row ∈ db.fulfillments, row.status = .pending ∨
    row.status = .completed ∧ ∀ order, db.order = some order → order.fulfillmentStatus = .fulfilled
  told : ∀ fulfillmentId, 0 < db.toldCompletions fulfillmentId ↔ db.isCompleted fulfillmentId = true
  lineIds : (db.lines.map (·.1)).Nodup

def LifecycleDb.withinOrder (db : LifecycleDb) (items : List FulfillmentItemEntity) : Bool :=
  db.lines.all fun line => carried line.1 db.fulfillmentItems + carried line.1 items ≤ line.2.qty

/-- A fulfilment that is not completed yet, and completes what was ordered. -/
def LifecycleDb.completesOrder (db : LifecycleDb) (row : OrderFulfillmentEntity) : Bool :=
  row.status ≠ .completed && db.lines.all fun line =>
    carried line.1 (db.fulfillmentItems.filter fun item => db.isCompleted item.fulfillmentId || item.fulfillmentId = row.id) =
      line.2.qty

/-- An order that `markFulfilled` admits. -/
def OrderEntity.fulfillable (order : OrderEntity) : Bool := order.markFulfilled.toOption.isSome

/-- A new fulfilment stays within the order, and a confirmed one is the first to be and completes it. -/
def LifecycleAction.shipsOrdered (orderId : Uuid) (choice : LifecycleChoice) (db : LifecycleDb) : LifecycleAction → Bool
  | .createFulfillment _ scope dto =>
    match admitFulfillment orderId (choice.newFulfillment db).id db scope dto with
    | .ok admitted => db.withinOrder admitted.items
    | .error _ => true
  | .confirmLocked _ fulfillmentId =>
    (db.fulfillment fulfillmentId).all fun row => db.order.all fun order => !order.fulfillable || db.completesOrder row
  | _ => true

inductive FulfillmentStep (kept : Prop) (db after : LifecycleDb) : Prop where
  | still (same : after = db) (keeps : kept)
  | added (row : OrderFulfillmentEntity) (items : List FulfillmentItemEntity) (pending : row.status = .pending)
    (fresh : row.id ∉ db.fulfillments.map (·.id)) (own : ∀ item ∈ items, item.fulfillmentId = row.id)
    (changed : after = { db with fulfillments := db.fulfillments ++ [row], fulfillmentItems := db.fulfillmentItems ++ items })
    (exactly : kept ↔ db.withinOrder items = true)
  | completed (row : OrderFulfillmentEntity) (order : OrderEntity) (found : db.fulfillment row.id = some row)
    (stored : after.order = some order) (fulfilled : order.fulfillmentStatus = .fulfilled) (lines : after.lines = db.lines)
    (rows : after.fulfillments = db.completedRows row.id) (items : after.fulfillmentItems = db.fulfillmentItems)
    (told : ∀ fulfillmentId, after.toldCompletions fulfillmentId =
      db.toldCompletions fulfillmentId + if row.id = fulfillmentId then 1 else 0)
    (exactly : kept ↔ db.completesOrder row = true)

section Steps

variable {orderId : Uuid} {db after : LifecycleDb} {kept : Prop} {row : OrderFulfillmentEntity}

theorem carried_append (id : Uuid) (first second : List FulfillmentItemEntity) :
    carried id (first ++ second) = carried id first + carried id second := Keyed.total_append first second

theorem fulfillment_mem {id} (found : db.fulfillment id = some row) : row ∈ db.fulfillments ∧ row.id = id :=
  ⟨mem_of_find?_eq_some found, by simpa using find?_some found⟩

theorem isCompleted_added (pending : row.status = .pending)
    (items : List FulfillmentItemEntity) (id : Uuid) :
    isCompleted { db with fulfillments := db.fulfillments ++ [row], fulfillmentItems := items } id = db.isCompleted id := by
  unfold isCompleted fulfillment
  rw [find?_append]
  cases found : db.fulfillments.find? (·.id = id) with
  | some existing => rfl
  | none =>
    by_cases same : row.id = id
    · simp [same, pending]
    · simp [same]

theorem fulfillment_completedRows (id other : Uuid) (rows : after.fulfillments = db.completedRows id) :
    after.fulfillment other = (db.fulfillment other).map fun row => if row.id = id then { row with status := .completed } else row := by
  unfold fulfillment
  rw [rows, completedRows, find?_map]
  have sameId : ((fun row : OrderFulfillmentEntity => decide (row.id = other)) ∘ fun row =>
      if row.id = id then { row with status := .completed } else row) = fun row => decide (row.id = other) := by
    funext row
    by_cases same : row.id = id
    · simp only [Function.comp_apply, if_pos same]
    · simp only [Function.comp_apply, if_neg same]
  rw [sameId]

theorem isCompleted_completed (found : db.fulfillment row.id = some row) (rows : after.fulfillments = db.completedRows row.id)
    (id : Uuid) : after.isCompleted id = (db.isCompleted id || decide (id = row.id)) := by
  unfold isCompleted
  rw [fulfillment_completedRows row.id id rows]
  by_cases same : id = row.id
  · subst same
    simp [found]
  · rw [decide_eq_false same, Bool.or_false]
    cases other : db.fulfillment id with
    | none => rfl
    | some existing =>
      have different : existing.id ≠ row.id := fun equal => same ((fulfillment_mem other).2.symm.trans equal)
      rw [Option.map_some, if_neg different]

theorem FulfillmentBooks.step (books : FulfillmentBooks db) (stepped : FulfillmentStep kept db after) :
    FulfillmentBooks after := by
  cases stepped with
  | still same _ => exact same ▸ books
  | added row items pending fresh own changed _ =>
    subst changed
    refine ⟨books.order, ?_, ?_, ?_, ?_, books.lineIds⟩
    · refine Keyed.nodup_append books.ids fun other member same => fresh ?_
      exact same ▸ mem_map_of_mem member
    · intro item member
      rw [map_append]
      rcases mem_append.mp member with old | new
      · exact mem_append_left _ (books.items item old)
      · exact mem_append_right _ (by simp [own item new])
    · exact forall_concat books.statuses (.inl pending)
    · intro id
      rw [isCompleted_added pending]
      exact books.told id
  | completed row order found stored fulfilled lines rows items told _ =>
    have sameIds : after.fulfillments.map (·.id) = db.fulfillments.map (·.id) := by
      rw [rows, completedRows, map_map]
      refine map_congr_left fun other _ => ?_
      simp only [Function.comp_apply]
      split <;> rfl
    refine ⟨by rw [stored]; rfl, sameIds ▸ books.ids, ?_, ?_, ?_, by rw [lines]; exact books.lineIds⟩
    · intro item member
      rw [sameIds]
      exact books.items item (items ▸ member)
    · intro other member
      rw [rows] at member
      obtain ⟨before, inside, rfl⟩ := mem_map.mp member
      have now : ∀ current, after.order = some current → current.fulfillmentStatus = .fulfilled := by
        intro current known
        cases stored.symm.trans known
        exact fulfilled
      split
      · exact .inr ⟨rfl, now⟩
      · exact (books.statuses before inside).imp_right fun ended => ⟨ended.1, now⟩
    · intro id
      rw [told, isCompleted_completed found rows]
      have before := books.told id
      by_cases same : row.id = id
      · simp [same]
      · rw [if_neg same, Nat.add_zero, before, decide_eq_false (Ne.symm same), Bool.or_false]

theorem FulfilledMeansShipped.step_iff (books : FulfillmentBooks db) (shipped : FulfilledMeansShipped db)
    (stepped : FulfillmentStep kept db after) : FulfilledMeansShipped after ↔ kept := by
  cases stepped with
  | still same keeps => exact ⟨fun _ => keeps, fun _ => same ▸ shipped⟩
  | added row items pending fresh own changed exactly =>
    subst changed
    have within : db.withinOrder items = true ↔
        ∀ line ∈ db.lines, carried line.1 (db.fulfillmentItems ++ items) ≤ line.2.qty := by
      simp only [withinOrder, all_eq_true, decide_eq_true_eq, carried_append]
    rw [exactly, within]
    refine ⟨fun after => after.ordered, fun bounded => ⟨bounded, ?_, shipped.once⟩⟩
    intro order found fulfilled line member
    rw [← shipped.fulfilled order found fulfilled line member]
    -- The lines of the new fulfilment are not completed, and those of the others are as they were.
    have uncompleted : items.filter (fun item => db.isCompleted item.fulfillmentId) = [] := by
      refine filter_eq_nil_iff.mpr fun item inside done => fresh ?_
      obtain ⟨other, known, _⟩ := (Option.any_eq_true _ _).mp done
      obtain ⟨listed, same⟩ := fulfillment_mem known
      exact mem_map.mpr ⟨other, listed, same.trans (own item inside)⟩
    unfold completedItems
    simp only [isCompleted_added pending, filter_append, uncompleted, append_nil]
  | completed row order found stored fulfilled lines rows items told exactly =>
    have status : row.status = .completed ↔ db.isCompleted row.id = true := by
      simp [isCompleted, found]
    have completedItems : after.completedItems =
        db.fulfillmentItems.filter fun item => db.isCompleted item.fulfillmentId || item.fulfillmentId = row.id := by
      unfold completedItems
      rw [items]
      exact filter_congr fun item _ => isCompleted_completed found rows item.fulfillmentId
    have covers : db.completesOrder row = true ↔
        row.status ≠ .completed ∧ ∀ line ∈ db.lines, carried line.1 after.completedItems = line.2.qty := by
      rw [completedItems]
      simp only [completesOrder, Bool.and_eq_true, all_eq_true, decide_eq_true_eq]
    rw [exactly, covers]
    constructor
    · intro law
      refine ⟨fun done => ?_, ?_⟩
      · have twice := law.once row.id
        have before := (books.told row.id).mpr (status.mp done)
        rw [told, if_pos rfl] at twice
        omega
      · rw [← lines]
        exact law.fulfilled order stored fulfilled
    · rintro ⟨first, covered⟩
      refine ⟨?_, ?_, ?_⟩
      · rw [lines, items]
        exact shipped.ordered
      · intro _ _ _
        rw [lines]
        exact covered
      · intro id
        rw [told]
        by_cases same : row.id = id
        · have none : db.toldCompletions id = 0 := by
            refine Nat.eq_zero_of_not_pos fun before => first (status.mpr ?_)
            rw [same]
            exact (books.told id).mp before
          rw [none, if_pos same]
        · rw [if_neg same]
          exact shipped.once id

theorem admitFulfillment_own {id scope dto admitted}
    (admits : admitFulfillment orderId id db scope dto = .ok admitted) : ∀ item ∈ admitted.items, item.fulfillmentId = id := by
  simp only [admitFulfillment, eq_ok] at admits
  obtain ⟨order, _, _, _, _, _, _, _, items, mapped, rfl⟩ := admits
  intro item member
  obtain ⟨input, _, read⟩ := mapM_mem mapped member
  simp only [fulfillmentItem, eq_ok] at read
  obtain ⟨_, _, _, _, rfl⟩ := read
  rfl

theorem newFulfillment_fresh (choice : LifecycleChoice) (db : LifecycleDb) :
    (choice.newFulfillment db).id ∉ db.fulfillments.map (·.id) := Fresh.pick_not_mem _ _

variable {world : LifecycleWorld} {order : OrderEntity}

theorem createFulfillment_step (choice : LifecycleChoice) (actorId : Uuid) (scope : BranchScope) (dto : CreateFulfillmentDto) :
    FulfillmentStep ((LifecycleAction.createFulfillment actorId scope dto).shipsOrdered orderId choice world.db = true) world.db
      (settleLifecycle world (silent (createFulfillment orderId (choice.newFulfillment world.db) world.db actorId scope
        dto))).1.db := by
  simp only [createFulfillment, LifecycleAction.shipsOrdered]
  cases admits : admitFulfillment orderId (choice.newFulfillment world.db).id world.db scope dto with
  | error failure => exact .still rfl rfl
  | ok admitted =>
    exact .added (admitted.order.fulfillment (choice.newFulfillment world.db) actorId (dto.fulfillmentType.getD .delivery)
      .pending dto.carrierCode dto.trackingNumber) admitted.items rfl (newFulfillment_fresh choice world.db)
      (admitFulfillment_own admits) rfl Iff.rfl

theorem createFulfillmentRow_ok {ids actorId fulfillmentType status carrierCode trackingNumber}
    (created : db.createFulfillmentRow ids order actorId fulfillmentType status carrierCode trackingNumber = .ok after) :
    after = { db with
      fulfillments := db.fulfillments ++ [order.fulfillment ids actorId fulfillmentType status carrierCode trackingNumber]
      fulfillmentItems := db.fulfillmentItems ++ db.lines.map fun line => ⟨ids.id, line.1, line.2.sku, line.2.qty⟩ } := by
  simp only [createFulfillmentRow, eq_ok] at created
  obtain ⟨items, mapped, rfl⟩ := created
  have copied : items.map id = db.lines.map fun line => ⟨ids.id, line.1, line.2.sku, line.2.qty⟩ := by
    refine mapM_map_eq (fun line item read => ?_) mapped
    simp only [eq_ok] at read
    obtain ⟨qty, parsed, rfl⟩ := read
    rw [parseQtyMillis_format_ok parsed]
    rfl
  rw [map_id] at copied
  rw [copied]

theorem FulfillmentBooks.unshipped (books : FulfillmentBooks db) (stored : db.order = some order)
    (unfulfilled : order.fulfillmentStatus ≠ .fulfilled) (closed : db.openRows = []) : db.fulfillmentItems = [] := by
  have none : db.fulfillments = [] := by
    refine eq_nil_iff_forall_not_mem.mpr fun row member => ?_
    rcases books.statuses row member with pending | ⟨_, fulfilled⟩
    · have open_ : row.id ∈ db.openRows := mem_map_of_mem (mem_filter.mpr ⟨member, by simp [pending]⟩)
      rw [closed] at open_
      cases open_
    · exact unfulfilled (fulfilled order stored)
  refine eq_nil_iff_forall_not_mem.mpr fun item member => ?_
  have owner := books.items item member
  rw [none] at owner
  cases owner

theorem withinOrder_whole (books : FulfillmentBooks db) (none : db.fulfillmentItems = []) (id : Uuid) :
    db.withinOrder (db.lines.map fun line => ⟨id, line.1, line.2.sku, line.2.qty⟩) = true := by
  refine all_eq_true.mpr fun line member => decide_eq_true ?_
  have whole : carried line.1 (db.lines.map fun line => (⟨id, line.1, line.2.sku, line.2.qty⟩ : FulfillmentItemEntity)) =
      line.2.qty := by
    rw [carried, Keyed.total_map]
    exact Keyed.total_of_nodup books.lineIds member
  rw [none, whole]
  exact (Int.zero_add _).le

theorem openForCompletion_step (choice : LifecycleChoice) (books : FulfillmentBooks world.db)
    (orderId actorId : Uuid) (scope : BranchScope) (version : Nat) : FulfillmentStep True world.db (settleLifecycle world
      (openForCompletion orderId (choice.newFulfillment world.db) world.db actorId scope version)).1.db := by
  cases opened : openForCompletion orderId (choice.newFulfillment world.db) world.db actorId scope version with
  | error failure => exact .still rfl trivial
  | ok done =>
    simp only [openForCompletion, eq_ok] at opened
    obtain ⟨order, locked, _, ⟨_, unfulfilled, _⟩, rest⟩ := opened
    split at rest
    · next closed =>
      simp only [eq_ok] at rest
      obtain ⟨_, _, created, made, rfl⟩ := rest
      have none := books.unshipped (lock_eq_ok locked) unfulfilled closed
      refine .added _ _ rfl (newFulfillment_fresh choice world.db) ?_ (createFulfillmentRow_ok made) ?_
      · rw [forall_mem_map]
        intro _ _
        rfl
      · exact iff_of_true trivial (withinOrder_whole books none _)
    · cases rest
      exact .still rfl trivial

theorem confirmedEvents_told (db : LifecycleDb) (orderId actorId : Uuid) (locked fulfilled : OrderEntity) (fulfillmentId : Uuid) :
    (db.confirmedEvents orderId actorId locked fulfilled row).countP (isCompletionOf fulfillmentId) =
      if row.id = fulfillmentId then 1 else 0 := by
  rw [confirmedEvents, countP_append]
  have silent : ∀ condition : Prop, ∀ _ : Decidable condition,
      (if condition then [db.orderCompleted orderId actorId fulfilled] else []).countP
        (isCompletionOf fulfillmentId) = 0 := by
    intro condition _
    split <;> rfl
  rw [silent, Nat.zero_add]
  simp [isCompletionOf]

theorem confirmLocked_step (choice : LifecycleChoice) (books : FulfillmentBooks world.db) (actorId fulfillmentId : Uuid) :
    FulfillmentStep ((LifecycleAction.confirmLocked actorId fulfillmentId).shipsOrdered orderId choice world.db = true) world.db
      (settleLifecycle world (silent (confirmLocked orderId world.db actorId fulfillmentId))).1.db := by
  obtain ⟨order, stored⟩ := Option.isSome_iff_exists.mp books.order
  simp only [LifecycleAction.shipsOrdered, confirmLocked, stored]
  cases found : world.db.fulfillment fulfillmentId with
  | none => exact .still rfl rfl
  | some row =>
    obtain ⟨_, rfl⟩ := fulfillment_mem found
    cases marked : order.markFulfilled with
    | error failure => exact .still rfl (by simp [OrderEntity.fulfillable, marked, Except.toOption])
    | ok fulfilled =>
      obtain ⟨rfl, _⟩ := markFulfilled_ok marked
      refine .completed row order.fulfilled found rfl rfl rfl rfl rfl ?_ ?_
      · intro id
        rw [← confirmedEvents_told world.db orderId actorId order order.fulfilled id]
        exact countP_append
      · simp [OrderEntity.fulfillable, marked, Except.toOption]

end Steps

def LifecycleAction.isShipping : LifecycleAction → Bool
  | .order _ | .pack .. | .ship .. | .recordPayment .. => false
  | _ => true

abbrev ShippingSaga (saga : LifecycleSaga Unit) : Prop :=
  SagaUses (S := lifecycleSignature) (fun _ _ => True) (fun action => LifecycleAction.isShipping action = true) saga

theorem confirmFulfillment_ships (fulfillmentId actorId : Uuid) (scope : BranchScope) :
    ShippingSaga (confirmFulfillment fulfillmentId actorId scope) := by
  refine bind (attempt rfl) fun read => ?_
  unfold confirmReadFulfillment
  split
  · exact attempt rfl
  · split
    · exact throw _
    · refine bind ?_ fun _ => attempt rfl
      unfold commitReserved
      split
      · exact attempt rfl
      · exact pure ()

theorem fulfillmentCall_ships (orderId : Uuid) (call : FulfillmentCall) : ShippingSaga (call.lifecycle.saga orderId) := by
  cases call with
  | createFulfillment => exact attempt rfl
  | confirmFulfillment => exact confirmFulfillment_ships _ _ _
  | complete =>
    refine bind (attempt rfl) fun opened => ?_
    refine bind (forM fun id => confirmFulfillment_ships id _ _) fun _ => ?_
    exact attempt rfl

abbrev FulfillmentInput := Input FulfillmentCall LifecycleChoice Empty

abbrev FulfillmentPool := Pool lifecycleSignature LifecycleWorld FulfillmentCall (Except Failure Unit)

def shipsOrdered (orderId : Uuid) (pool : FulfillmentPool) : FulfillmentInput → Bool
  | .advance thread choice => (pool.pending thread).all fun action => action.shipsOrdered orderId choice pool.shared.db
  | _ => true

/-- The calls of a pool and its rows are as the three operations leave them. -/
structure ShippingPool (pool : FulfillmentPool) : Prop where
  confined : Confined (S := lifecycleSignature) (fun _ => True) (fun _ _ => True)
    (fun action => LifecycleAction.isShipping action = true) pool
  books : FulfillmentBooks pool.shared.db

section Runs

variable {orderId : Uuid} {pool : FulfillmentPool}

theorem performLifecycle_shipping {action} (choice : LifecycleChoice) {world}
    (books : FulfillmentBooks world.db) (shipping : action.isShipping = true) :
    FulfillmentStep (action.shipsOrdered orderId choice world.db = true) world.db
      (performLifecycle orderId action choice world).1.db := by
  cases action with
  | order | pack | ship | recordPayment => cases shipping
  | readFulfillment | findFulfillmentItems | commitWarehouseReservation | view => exact .still rfl rfl
  | createFulfillment actorId scope dto => exact createFulfillment_step choice actorId scope dto
  | confirmLocked actorId fulfillmentId => exact confirmLocked_step choice books actorId fulfillmentId
  | openForCompletion actorId scope version =>
    have opened := openForCompletion_step choice books orderId actorId scope version
    rwa [← eq_self true] at opened

theorem ShippingPool.stepped (valid : ShippingPool pool) (input : FulfillmentInput) :
    FulfillmentStep (shipsOrdered orderId pool input = true) pool.shared.db
      ((fulfillmentMachine orderId).step pool input).shared.db := by
  cases input with
  | call | environment => exact .still rfl rfl
  | crash => exact .still (congrArg LifecycleWorld.db (step_crash_shared _)) rfl
  | advance thread choice =>
    cases pending : pool.pending thread with
    | none =>
      rw [step_advance_idle pending, shipsOrdered, pending]
      exact .still rfl rfl
    | some action =>
      obtain ⟨program, running, acts⟩ := Option.bind_eq_some_iff.mp pending
      cases program with
      | done => cases acts
      | perform action next =>
        cases acts
        rw [(step_advance _ choice running).1, shipsOrdered, pending]
        exact performLifecycle_shipping choice valid.books (valid.confined.calls thread _ running).1

theorem ShippingPool.step (valid : ShippingPool pool) (input : FulfillmentInput) :
    ShippingPool ((fulfillmentMachine orderId).step pool input) := by
  refine ⟨?_, valid.books.step (valid.stepped input)⟩
  exact valid.confined.step (fun _ _ _ _ _ => ⟨trivial, trivial⟩) (fun _ _ _ => trivial) (fulfillmentCall_ships orderId)

end Runs

theorem toldCompletions_start {db : LifecycleDb} (events : db.events = []) (id : Uuid) : db.toldCompletions id = 0 := by
  rw [toldCompletions, events]
  rfl

section

variable (unshipped : UnshippedOrder)
include unshipped

theorem UnshippedOrder.shippingPool : ShippingPool { shared := unshipped.world } := by
  refine ⟨⟨trivial, fun _ _ running => by cases running⟩, ⟨?_, ?_, ?_, ?_, ?_, unshipped.lineIds⟩⟩
  · exact Option.isSome_iff_exists.mpr ⟨_, unshipped.stored⟩
  · simp only [unshipped.fulfillments, map_nil, nodup_nil]
  · simp [unshipped.fulfillmentItems]
  · simp [unshipped.fulfillments]
  · intro id
    rw [toldCompletions_start unshipped.events]
    simp [isCompleted, fulfillment, unshipped.fulfillments]

theorem UnshippedOrder.shipped : FulfilledMeansShipped unshipped.world.db := by
  refine ⟨?_, ?_, fun id => by rw [toldCompletions_start unshipped.events]; decide⟩
  · intro line member
    rw [unshipped.fulfillmentItems]
    exact unshipped.quantities line member
  · intro order found fulfilled
    cases unshipped.stored.symm.trans found
    exact absurd fulfilled unshipped.unfulfilled

theorem fulfillmentAfter_append (first second : List FulfillmentInput) :
    fulfillmentAfter unshipped (first ++ second) =
      Run.after (fulfillmentMachine unshipped.orderId).step (fulfillmentAfter unshipped first) second :=
  Run.after_append _ _ _

theorem fulfillmentAfter_valid (inputs : List FulfillmentInput) :
    ShippingPool (fulfillmentAfter unshipped inputs) :=
  Run.invariant ShippingPool (fun _ input valid => valid.step input) unshipped.shippingPool inputs

/-- Over every run, the law of the order holds in every state exactly when every new fulfilment stays within the order
and every confirmed one is the first to be and completes it. -/
theorem fulfilled_means_shipped_iff (inputs : List FulfillmentInput) :
    (∀ earlier later, inputs = earlier ++ later → FulfilledMeansShipped (fulfillmentAfter unshipped earlier).shared.db) ↔
      Run.Meets (fulfillmentMachine unshipped.orderId).step
        (fun pool input => shipsOrdered unshipped.orderId pool input = true) { shared := unshipped.world } inputs := by
  constructor
  · intro law
    refine Run.meets_iff_each.mpr fun earlier input later whole => ?_
    have valid := fulfillmentAfter_valid unshipped earlier
    have before := law earlier _ whole
    have after := law (earlier ++ [input]) later (by rw [whole, append_assoc]; rfl)
    rw [fulfillmentAfter_append] at after
    exact (before.step_iff valid.books (valid.stepped input)).mp after
  · rintro met earlier later rfl
    refine (Run.invariant_of_meets (fun pool => ShippingPool pool ∧ FulfilledMeansShipped pool.shared.db) ?_
      (Run.meets_append.mp met).1 ⟨unshipped.shippingPool, unshipped.shipped⟩).2
    rintro pool input ships ⟨valid, shipped⟩
    exact ⟨valid.step input, (shipped.step_iff valid.books (valid.stepped input)).mpr ships⟩

end

private def twoUnitsWorld : LifecycleWorld :=
  (lifecycleAfter { toNewOrder := { unitOrder with quote := unitsQuote 2000 }, firstItemId := 400 }
    (.call (.order (.confirmOrder 7 none {})) :: lifecycleTurns 0 5)).shared

private def twoUnits : UnshippedOrder where
  orderId := 50
  world := twoUnitsWorld
  order := twoUnitsWorld.db.order.get (by decide +kernel)
  stored := (Option.some_get _).symm
  unfulfilled := by decide +kernel
  fulfillments := rfl
  fulfillmentItems := rfl
  events := rfl
  lineIds := by decide +kernel
  quantities := by decide +kernel

private def shipUnits (qty : String) : FulfillmentInput :=
  .call (.createFulfillment 7 none { items := [⟨400, qty⟩] })

private def fulfillmentTurns (thread count : Nat) (id : Uuid) : List FulfillmentInput :=
  replicate count (.advance thread { fulfillment := ⟨id, "VD"⟩ })

private def partlyShipped : List FulfillmentInput :=
  shipUnits "1" :: fulfillmentTurns 0 1 500 ++ .call (.confirmFulfillment 500 7 none) :: fulfillmentTurns 1 3 0

theorem fulfilled_not_shipped :
    ¬∀ unshipped inputs, FulfilledMeansShipped (fulfillmentAfter unshipped inputs).shared.db := by
  intro claimed
  have status : (fulfillmentAfter twoUnits partlyShipped).shared.db.order.any (·.fulfillmentStatus = .fulfilled) = true := by
    decide +kernel
  have short : ¬∀ line ∈ (fulfillmentAfter twoUnits partlyShipped).shared.db.lines,
      carried line.1 (fulfillmentAfter twoUnits partlyShipped).shared.db.completedItems = line.2.qty := by decide +kernel
  obtain ⟨order, stored, fulfilled⟩ := (Option.any_eq_true _ _).mp status
  exact short ((claimed twoUnits partlyShipped).fulfilled order stored (of_decide_eq_true fulfilled))

end Sales
