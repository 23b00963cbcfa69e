import RetailApi.Proofs.ReturnCounters

/-! When an order is RETURNED: exactly when all of it came back, as long as no return is received
while the counters of its order are full with returns that are still under way. -/

namespace Sales

open Transaction ReturnsDb Option Table

def completed (returns : Table Uuid SalesReturnEntity) (returnId : Uuid) : Bool :=
  (returns.lookup returnId).any (·.status = .completed)

theorem completed_insert (returns : Table Uuid SalesReturnEntity) (returnId other : Uuid) (ret : SalesReturnEntity) :
    completed (returns.insert returnId ret) other =
      if other = returnId then decide (ret.status = .completed) else completed returns other := by
  unfold completed
  rw [lookup_insert_if]
  split <;> rfl

variable {returns : Table Uuid SalesReturnEntity} {orderItemId actorId : Uuid} {scope : BranchScope} {answer : RestockAnswer}
  {old new ret : SalesReturnEntity} {dto : CreateReturnDto}

theorem stands_of_completed {returnId} (done : completed returns returnId = true) : stands returns returnId = true := by
  obtain ⟨ret, found, status⟩ := (any_eq_true _ _).mp done
  rw [stands, found, any_some, decide_eq_true_eq, of_decide_eq_true status]
  rintro ⟨⟩

namespace ReturnsDb

def back (db : ReturnsDb) (orderItemId : Uuid) : Int :=
  Keyed.total SalesReturnItemEntity.orderItemId SalesReturnItemEntity.returnQty orderItemId
    (db.returnItems.filter fun line => completed db.returns line.returnId)

def AllBack (db : ReturnsDb) (orderId : Uuid) : Prop :=
  ∀ orderItemId item, db.orderItems.lookup orderItemId = some item → item.orderId = orderId → db.back orderItemId = item.qty

def ReturnedIffBack (db : ReturnsDb) (orderId : Uuid) : Prop :=
  ∀ order, db.orders.lookup orderId = some order → (order.fulfillmentStatus = .returned ↔ db.AllBack orderId)

def Owned (db : ReturnsDb) : Prop :=
  ∀ line ∈ db.returnItems, ∀ ret, db.returns.lookup line.returnId = some ret →
    ∀ item, db.orderItems.lookup line.orderItemId = some item → item.orderId = ret.orderId

/-- The counters of an order's lines are full once these quantities are added. -/
def Covered (db : ReturnsDb) (orderId : Uuid) (added : Uuid → Int) : Prop :=
  ∀ entry ∈ db.itemsOf orderId, entry.2.returnedQty + added entry.1 = entry.2.qty

instance (db : ReturnsDb) (orderId : Uuid) (added : Uuid → Int) : Decidable (db.Covered orderId added) :=
  inferInstanceAs (Decidable (∀ _ ∈ _, _))

def OthersEnded (db : ReturnsDb) (orderId returnId : Uuid) : Prop :=
  ∀ entry ∈ db.returns.entries, entry.2.orderId = orderId → entry.1 ≠ returnId →
    entry.2.status = .completed ∨ entry.2.status = .rejected

instance (db : ReturnsDb) (orderId returnId : Uuid) : Decidable (db.OthersEnded orderId returnId) :=
  inferInstanceAs (Decidable (∀ _ ∈ _, _))

end ReturnsDb

variable {db after : ReturnsDb} {orderId returnId : Uuid}

theorem ReturnsDb.AddsUp.back_le (sums : db.AddsUp) {item}
    (found : db.orderItems.lookup orderItemId = some item) : db.back orderItemId ≤ item.returnedQty := by
  rw [sums.returned orderItemId item found]
  exact Keyed.total_filter_le (fun line member => (sums.positive line member).1.le) fun _ _ => stands_of_completed

theorem ReturnsDb.back_congr (lines : after.returnItems = db.returnItems)
    (same : ∀ line ∈ db.returnItems, line.orderItemId = orderItemId →
      completed after.returns line.returnId = completed db.returns line.returnId) :
    after.back orderItemId = db.back orderItemId := by
  rw [back, back, lines]
  exact Keyed.total_filter_congr same

theorem ReturnsDb.ReturnedIffBack.kept (law : db.ReturnedIffBack orderId)
    (orders : after.orders.lookup orderId = db.orders.lookup orderId)
    (items : ∀ orderItemId, (after.orderItems.lookup orderItemId).map (fun item => (item.orderId, item.qty)) =
      (db.orderItems.lookup orderItemId).map fun item => (item.orderId, item.qty))
    (back : ∀ orderItemId item, db.orderItems.lookup orderItemId = some item → item.orderId = orderId →
      after.back orderItemId = db.back orderItemId) : after.ReturnedIffBack orderId := by
  intro order found
  rw [law order (orders ▸ found)]
  constructor
  · intro all orderItemId item present own
    have same := items orderItemId
    rw [present, map_some] at same
    obtain ⟨before, was, pair⟩ := map_eq_some_iff.mp same.symm
    obtain ⟨ownBefore, qty⟩ := Prod.mk.inj pair
    rw [back orderItemId before was (ownBefore.trans own), ← qty]
    exact all orderItemId before was (ownBefore.trans own)
  · intro all orderItemId before was own
    have same := items orderItemId
    rw [was, map_some] at same
    obtain ⟨item, present, pair⟩ := map_eq_some_iff.mp same
    obtain ⟨ownAfter, qty⟩ := Prod.mk.inj pair
    rw [← back orderItemId before was own, ← qty]
    exact all orderItemId item present (ownAfter.trans own)

def SalesReturnEntity.receivable (ret : SalesReturnEntity) : Bool := ret.status = .approved ∨ ret.status = .refundRequested

theorem allReturned_ok {lines} (sound : ∀ entry ∈ lines, entry.2.Sound) {returned}
    (executed : allReturned lines = .ok returned) : returned = true ↔ ∀ entry ∈ lines, entry.2.returnedQty + 0 = entry.2.qty := by
  induction lines with
  | nil =>
    cases executed
    simp
  | cons entry lines inner =>
    have first := sound entry (.head _)
    have sold := first.sold
    have most := first.balanced.returned_le
    have step : ∀ read : Int, read = entry.2.returnedQty →
        (if entry.2.qty ≤ read then allReturned lines else pure false) = .ok returned →
        (returned = true ↔ entry.2.returnedQty + 0 = entry.2.qty ∧ ∀ other ∈ lines, other.2.returnedQty + 0 = other.2.qty) := by
      intro read same ran
      by_cases full : entry.2.qty ≤ read
      · rw [if_pos full] at ran
        rw [inner (fun other member => sound other (.tail _ member)) ran]
        exact ⟨fun rest => ⟨by omega, rest⟩, fun all => all.2⟩
      · rw [if_neg full, pure_eq_ok] at ran
        rw [← ran]
        exact ⟨nofun, fun all => absurd all.1 (by omega)⟩
    have nonnegative : 0 ≤ entry.2.returnedQty := first.balanced.returned_nonneg
    simp only [allReturned, eq_ok, parseQtyMillis_format sold, Except.ok.injEq, isPositiveNumber_format
      nonnegative] at executed
    obtain ⟨_, rfl, ran⟩ := executed
    rw [List.forall_mem_cons]
    by_cases some : 0 < entry.2.returnedQty
    · simp only [some, decide_true, ↓reduceIte, eq_ok, parseQtyMillis_format some, Except.ok.injEq] at ran
      obtain ⟨_, rfl, ran⟩ := ran
      exact step entry.2.returnedQty rfl ran
    · simp only [some, decide_false, Bool.false_eq_true, ↓reduceIte, eq_ok, Except.ok.injEq] at ran
      obtain ⟨_, rfl, ran⟩ := ran
      exact step 0 (by omega) ran

/-- What receiving a return does: it is completed, and its order is RETURNED when the counters of its lines are full. -/
structure Received (db : ReturnsDb) (returnId : Uuid) (ret : SalesReturnEntity) (after : ReturnsDb) : Prop where
  found : db.returns.lookup returnId = some ret
  receivable : ret.receivable = true
  returns : ∃ done, after.returns = db.returns.insert returnId done ∧ done.status = .completed ∧ done.orderId = ret.orderId
  orderItems : after.orderItems = db.orderItems
  returnItems : after.returnItems = db.returnItems
  others : ∀ other, other ≠ ret.orderId → after.orders.lookup other = db.orders.lookup other
  full : db.Covered ret.orderId (fun _ => 0) → after.orders.lookup ret.orderId =
    (db.orders.lookup ret.orderId).map fun order => { order with fulfillmentStatus := .returned, version := order.version + 1 }
  short : ¬db.Covered ret.orderId (fun _ => 0) → after.orders.lookup ret.orderId = db.orders.lookup ret.orderId

theorem receiveReturn_ok (sums : db.AddsUp) (ran : receiveReturn db returnId actorId scope answer = .ok after) :
    after = db ∨ ∃ ret, Received db returnId ret after := by
  refine (receiveReturn_cases ran).imp_right ?_
  rintro ⟨ret, new, returned, orders, _, found, pending, notRejected, notRequested, completed, own, checked, looked, rfl⟩
  have sound : ∀ entry ∈ db.itemsOf ret.orderId, entry.2.Sound := fun entry member =>
    sums.sound entry.1 entry.2 (mem_itemsOf.mp member).1
  have covered : returned = true ↔ db.Covered ret.orderId fun _ => 0 := allReturned_ok sound checked
  have receivable : ret.receivable = true := by
    rw [SalesReturnEntity.receivable, decide_eq_true_eq]
    cases status : ret.status <;> simp_all
  refine ⟨ret, found, receivable, ⟨new, rfl, completed, own⟩, rfl, rfl, fun other apart => ?_, fun full => ?_, fun short => ?_⟩
  · exact (looked other).trans (if_neg fun both => apart both.2)
  · exact (looked _).trans (if_pos ⟨covered.mpr full, rfl⟩)
  · exact (looked _).trans (if_neg fun both => short (covered.mp both.1))

/-- Lines of returns, what each order line sold and the order of each return stay. -/
structure Decides (db after : ReturnsDb) : Prop where
  returnItems : after.returnItems = db.returnItems
  items : ∀ orderItemId, (after.orderItems.lookup orderItemId).map (fun item => (item.orderId, item.qty)) =
    (db.orderItems.lookup orderItemId).map fun item => (item.orderId, item.qty)
  returns : ∀ returnId, (after.returns.lookup returnId).map (·.orderId) = (db.returns.lookup returnId).map (·.orderId)

theorem Decides.refl (db : ReturnsDb) : Decides db db := ⟨rfl, fun _ => rfl, fun _ => rfl⟩

theorem Decides.owned (decides : Decides db after) (owned : db.Owned) : after.Owned := by
  intro line member ret found item present
  have sameReturn := decides.returns line.returnId
  have sameItem := decides.items line.orderItemId
  rw [found, map_some] at sameReturn
  rw [present, map_some] at sameItem
  obtain ⟨before, was, own⟩ := map_eq_some_iff.mp sameReturn.symm
  obtain ⟨row, stood, pair⟩ := map_eq_some_iff.mp sameItem.symm
  rw [← own, ← (Prod.mk.inj pair).1]
  exact owned line (decides.returnItems ▸ member) before was row stood

theorem lookup_rewritten (found : returns.lookup returnId = some old) (own : new.orderId = old.orderId) (other : Uuid) :
    ((returns.insert returnId new).lookup other).map (·.orderId) = (returns.lookup other).map (·.orderId) := by
  rw [lookup_insert_if]
  by_cases same : other = returnId
  · rw [if_pos same, same, found, map_some, map_some, own]
  · rw [if_neg same]

theorem completed_rewritten
    (found : returns.lookup returnId = some old) (both : old.status ≠ .completed ∧ new.status ≠ .completed) (other : Uuid) :
    completed (returns.insert returnId new) other = completed returns other := by
  rw [completed_insert]
  by_cases same : other = returnId
  · rw [if_pos same, same, completed, found, any_some, decide_eq_false both.1, decide_eq_false both.2]
  · rw [if_neg same]

structure Undone (db after : ReturnsDb) : Prop where
  decides : Decides db after
  orders : after.orders = db.orders
  completed : ∀ returnId, completed after.returns returnId = completed db.returns returnId

theorem Undone.refl (db : ReturnsDb) : Undone db db := ⟨.refl db, rfl, fun _ => rfl⟩

theorem Undone.law (undone : Undone db after) (law : db.ReturnedIffBack orderId) : after.ReturnedIffBack orderId := by
  apply law.kept
  · rw [undone.orders]
  · exact undone.decides.items
  · intro orderItemId _ _ _
    exact back_congr undone.decides.returnItems fun line _ _ => undone.completed line.returnId

theorem approveReturn_undone (ran : approveReturn db returnId actorId scope = .ok after) : Undone db after := by
  rw [approveReturn, bind_eq_ok] at ran
  obtain ⟨ret, locked, ran⟩ := ran
  split at ran
  · exact pure_eq_ok.mp ran ▸ .refl db
  · simp only [eq_ok] at ran
    obtain ⟨_, requested, rfl⟩ := ran
    have found := lockReturn_ok locked
    exact ⟨⟨rfl, fun _ => rfl, lookup_rewritten found rfl⟩, rfl,
      completed_rewritten found ⟨by simp [requested], by simp⟩⟩

theorem rejectReturn_undone {reason} (sums : db.AddsUp)
    (ran : rejectReturn db returnId scope reason = .ok after) : Undone db after := by
  rw [sums.floor] at ran
  obtain rfl | ⟨ret, new, orderItems, found, _, open_, rejected, own, given, rfl⟩ := rejectReturn_ok ran
  · exact .refl _
  · refine ⟨⟨rfl, fun orderItemId => ?_, lookup_rewritten found own⟩, rfl, completed_rewritten found ⟨open_.1, by simp [rejected]⟩⟩
    rw [(giveBackAll_ok given).2, map_map]
    rfl

theorem Received.decides (received : Received db returnId ret after) : Decides db after := by
  obtain ⟨done, returns, _, own⟩ := received.returns
  refine ⟨received.returnItems, fun _ => by rw [received.orderItems], fun other => ?_⟩
  rw [returns]
  exact lookup_rewritten received.found own other

theorem receiveReturn_owned (sums : db.AddsUp) (owned : db.Owned)
    (ran : receiveReturn db returnId actorId scope answer = .ok after) : after.Owned := by
  rcases receiveReturn_ok sums ran with rfl | ⟨ret, received⟩
  · exact owned
  · exact received.decides.owned owned

/-- What a new return does: its lines are of its own order, and what it asks back is added to their counters. -/
structure Created (db : ReturnsDb) (returnId : Uuid) (dto : CreateReturnDto) (after : ReturnsDb) : Prop where
  fresh : db.returns.lookup returnId = none
  returns : ∃ ret, after.returns = db.returns.insert returnId ret ∧ ret.orderId = dto.orderId ∧ ret.status ≠ .completed
  orders : after.orders = db.orders
  returnItems : ∃ lines : List CalculatedReturnLine, after.returnItems = db.returnItems ++ lines.map (·.entity returnId) ∧
    ∀ line ∈ lines, ∀ item, db.orderItems.lookup line.orderItemId = some item → item.orderId = dto.orderId
  items : ∀ orderItemId, (after.orderItems.lookup orderItemId).map (fun item => (item.orderId, item.qty, item.returnedQty)) =
    (db.orderItems.lookup orderItemId).map fun item =>
      (item.orderId, item.qty, item.returnedQty + askedOf orderItemId dto.requests)

theorem newReturn_open (code : String) (actorId : Uuid) (order : OrderEntity) (dto : CreateReturnDto) (total : Int) :
    (newReturn code actorId order dto total).status ≠ .completed := by
  unfold newReturn
  split <;> simp

theorem createReturnRow_created (sums : db.AddsUp) {code}
    (ran : createReturnRow db returnId code actorId scope dto = .ok after) : Created db returnId dto after := by
  obtain ⟨order, lines, result, _, _, read, calculated, fresh, _, moved, rfl⟩ := createReturnRow_ok ran
  obtain ⟨snapshots, _⟩ := snapshotsOf_ok sums.sound read
  obtain ⟨each, _⟩ := calculateReturnRefund_ok snapshots calculated
  obtain ⟨tally, tallied, same⟩ := calculateReturnRefund_tallied snapshots calculated
  refine ⟨fresh, ⟨newReturn code actorId order dto _, rfl, rfl, newReturn_open _ _ _ _ _⟩, rfl, ⟨result.lines, rfl, ?_⟩, ?_⟩
  · intro line member item found
    obtain ⟨orig, inside, origId⟩ := List.mem_map.mp (each line member).2.2
    obtain ⟨entry, listed, shown⟩ := mapM_mem read inside
    obtain ⟨rowFound, rowOrder⟩ := mem_itemsOf.mp listed
    rw [← (snapshotOf_ok shown).1, origId, found, some.injEq] at rowFound
    exact rowFound ▸ rowOrder
  · intro orderItemId
    have asked : returnedOn orderItemId result.lines = askedOf orderItemId dto.requests := by rw [same, tallied.asked]
    rw [moved, map_map, asked]
    rfl

theorem Created.owned (sums : db.AddsUp) (owned : db.Owned) (created : Created db returnId dto after) : after.Owned := by
  obtain ⟨made, returns, order, _⟩ := created.returns
  obtain ⟨lines, returnItems, own⟩ := created.returnItems
  intro line member ret found item present
  have items := created.items line.orderItemId
  rw [present, map_some] at items
  obtain ⟨before, was, same⟩ := map_eq_some_iff.mp items.symm
  rw [← (Prod.mk.inj same).1]
  rw [returns, lookup_insert_if] at found
  rw [returnItems] at member
  rcases List.mem_append.mp member with earlier | new
  · have other : line.returnId ≠ returnId := fun same => sums.filed line earlier (same ▸ created.fresh)
    rw [if_neg other] at found
    exact owned line earlier ret found before was
  · obtain ⟨calculated, inside, rfl⟩ := List.mem_map.mp new
    rw [CalculatedReturnLine.entity_returnId, if_pos rfl] at found
    rw [← some.inj found, order]
    exact own calculated inside before was

theorem insertLines_owned {order lines} (sums : db.AddsUp) (owned : db.Owned)
    (placed : placeOrder db orderId order lines = .ok after) : after.Owned := by
  simp only [placeOrder, eq_ok] at placed
  obtain ⟨_, _, inserted⟩ := placed
  -- a new line is none that was returned before
  have step : ∀ entry ∈ lines, ∀ before next : ReturnsDb,
      (before.Owned ∧ ∀ line ∈ before.returnItems, before.orderItems.lookup line.orderItemId ≠ none) →
      insertLine orderId before entry = .ok next →
      next.Owned ∧ ∀ line ∈ next.returnItems, next.orderItems.lookup line.orderItemId ≠ none := by
    intro entry _ before next found stepped
    obtain ⟨kept, sold⟩ := found
    simp only [insertLine, eq_ok] at stepped
    obtain ⟨_, fresh, rfl⟩ := stepped
    have older : ∀ line ∈ before.returnItems, line.orderItemId ≠ entry.1 := fun line member same =>
      sold line member (same ▸ fresh)
    refine ⟨fun line member ret found item present => ?_, fun line member => ?_⟩
    · rw [lookup_insert_if, if_neg (older line member)] at present
      exact kept line member ret found item present
    · rw [lookup_insert_if, if_neg (older line member)]
      exact sold line member
  exact (foldlM_preserves (fun db => db.Owned ∧ ∀ line ∈ db.returnItems, db.orderItems.lookup line.orderItemId ≠ none)
    step ⟨owned, sums.sold⟩ inserted).1

theorem performReturn_owned (sums : db.AddsUp) (owned : db.Owned) (operation : ReturnOperation) :
    (performReturn db operation).Owned := by
  cases operation with
  | placeOrder orderId order lines => exact commit_preserves _ owned fun _ placed => insertLines_owned sums owned placed
  | changeOrder orderId order => exact owned
  | shift operation => exact owned
  | createReturn returnId code actorId scope dto answer =>
    change (Sales.createReturn db returnId code actorId scope dto answer).1.Owned
    unfold createReturn
    split
    · exact owned
    · next created row =>
      have made := (createReturnRow_created sums row).owned sums owned
      split
      · split
        · next received => exact receiveReturn_owned (createReturnRow_addsUp sums row) made received
        · exact made
      · exact made
  | approveReturn returnId actorId scope =>
    exact commit_preserves _ owned fun _ ran => (approveReturn_undone ran).decides.owned owned
  | rejectReturn returnId scope reason =>
    exact commit_preserves _ owned fun _ ran => (rejectReturn_undone sums ran).decides.owned owned
  | receiveReturn returnId actorId scope answer =>
    exact commit_preserves _ owned fun _ ran => receiveReturn_owned sums owned ran
  | createRefundRequest requestId entryId returnId actorId scope key dto latestShift =>
    refine commit_preserves _ owned fun after ran => ?_
    obtain ⟨items, returns, lines, _⟩ := createRefundRequest_ok ran
    exact Decides.owned ⟨lines, fun _ => by rw [items], fun _ => by rw [returns]⟩ owned

theorem returnsAfter_owned (operations : List ReturnOperation) : (returnsAfter operations).Owned := by
  have both : (returnsAfter operations).AddsUp ∧ (returnsAfter operations).Owned :=
    Run.invariant (fun db : ReturnsDb => db.AddsUp ∧ db.Owned)
      (fun _ operation held => ⟨performReturn_addsUp held.1 operation, performReturn_owned held.1 held.2 operation⟩)
      ⟨addsUp_empty, nofun⟩ operations
  exact both.2

theorem Created.law (sums : db.AddsUp) (created : Created db returnId dto after)
    (law : db.ReturnedIffBack orderId) : after.ReturnedIffBack orderId := by
  obtain ⟨made, returns, _, opened⟩ := created.returns
  obtain ⟨lines, returnItems, _⟩ := created.returnItems
  apply law.kept
  · rw [created.orders]
  · intro orderItemId
    have items := congrArg (Option.map fun row : Uuid × Int × Int => (row.1, row.2.1)) (created.items orderItemId)
    rw [Option.map_map, Option.map_map] at items
    exact items
  · intro orderItemId _ _ _
    -- no line of the new return came back
    have earlier : (db.returnItems.filter fun line => completed after.returns line.returnId) =
        db.returnItems.filter fun line => completed db.returns line.returnId := by
      apply List.filter_congr
      intro line member
      have other : line.returnId ≠ returnId := fun same => sums.filed line member (same ▸ created.fresh)
      rw [returns, completed_insert, if_neg other]
    have own : ((lines.map (·.entity returnId)).filter fun line => completed after.returns line.returnId) = [] := by
      refine List.filter_eq_nil_iff.mpr (List.forall_mem_map.mpr fun calculated _ => ?_)
      rw [returns, completed_insert, CalculatedReturnLine.entity_returnId, if_pos rfl, decide_eq_false opened]
      nofun
    rw [back, back, returnItems, List.filter_append, earlier, own, List.append_nil]

theorem Received.all_back (sums : db.AddsUp) (owned : db.Owned)
    (received : Received db returnId ret after) (full : db.Covered ret.orderId fun _ => 0)
    (ended : db.OthersEnded ret.orderId returnId) : after.AllBack ret.orderId := by
  obtain ⟨done, returns, status, _⟩ := received.returns
  intro orderItemId item found own
  rw [received.orderItems] at found
  have counted : item.returnedQty + 0 = item.qty := full (orderItemId, item) (mem_itemsOf.mpr ⟨found, own⟩)
  rw [← counted, sums.returned orderItemId item found, add_zero, back, standing, received.returnItems]
  apply Keyed.total_filter_congr
  intro line member here
  rw [returns, completed_insert]
  by_cases same : line.returnId = returnId
  · have approved := received.receivable
    rw [SalesReturnEntity.receivable, decide_eq_true_eq] at approved
    rw [if_pos same, same, stands, received.found, any_some, decide_eq_true status]
    rcases approved with approved | requested
    · rw [approved]
      rfl
    · rw [requested]
      rfl
  · rw [if_neg same]
    obtain ⟨other, present⟩ := ne_none_iff_exists'.mp (sums.filed line member)
    have sameOrder : other.orderId = ret.orderId := by
      rw [← own]
      exact (owned line member other present item (here ▸ found)).symm
    rw [completed, stands, present, any_some, any_some]
    rcases ended ⟨line.returnId, other⟩ (AList.mem_lookup_iff.mp present) sameOrder same with finished | rejected
    · rw [finished]
      rfl
    · rw [rejected]
      rfl

theorem ReturnsDb.AddsUp.not_all_back (sums : db.AddsUp) (short : ¬db.Covered orderId fun _ => 0) : ¬db.AllBack orderId := by
  intro all
  apply short
  intro entry member
  obtain ⟨found, own⟩ := mem_itemsOf.mp member
  have back := all entry.1 entry.2 found own
  have least := sums.back_le found
  have most := (sums.sound entry.1 entry.2 found).balanced.returned_le
  change entry.2.returnedQty + 0 = entry.2.qty
  omega

theorem Received.law (sums : db.AddsUp) (later : after.AddsUp) (owned : db.Owned) (received : Received db returnId ret after)
    (law : db.ReturnedIffBack orderId)
    (last : ret.orderId = orderId → db.Covered orderId (fun _ => 0) → db.OthersEnded orderId returnId) :
    after.ReturnedIffBack orderId := by
  by_cases own : ret.orderId = orderId
  · subst own
    by_cases full : db.Covered ret.orderId fun _ => 0
    · intro order found
      rw [received.full full] at found
      obtain ⟨before, _, rfl⟩ := map_eq_some_iff.mp found
      exact ⟨fun _ => received.all_back sums owned full (last rfl full), fun _ => rfl⟩
    · intro order found
      rw [received.short full] at found
      have shortAfter : ¬after.Covered ret.orderId fun _ => 0 := by
        rw [ReturnsDb.Covered, itemsOf, received.orderItems]
        exact full
      rw [law order found]
      exact ⟨fun all => absurd all (sums.not_all_back full), fun all => absurd all (later.not_all_back shortAfter)⟩
  · obtain ⟨done, returns, _, sameOrder⟩ := received.returns
    apply law.kept
    · exact received.others orderId (Ne.symm own)
    · exact received.decides.items
    · intro orderItemId item found home
      apply back_congr received.returnItems
      intro line member here
      have other : line.returnId ≠ returnId := by
        intro same
        apply own
        rw [← home]
        exact (owned line member ret (same ▸ received.found) item (here ▸ found)).symm
      rw [returns, completed_insert, if_neg other]

def ReturnOperation.isReturnCall : ReturnOperation → Bool
  | .createReturn .. | .approveReturn .. | .rejectReturn .. | .receiveReturn .. => true
  | _ => false

/-- No return is received while the counters of its order are full and another return of it is still under way. -/
def ReceivedLast (orderId : Uuid) (db : ReturnsDb) : ReturnOperation → Prop
  | .createReturn returnId _ _ _ dto _ => dto.autoReceive = true → dto.orderId = orderId →
      db.Covered orderId (askedOf · dto.requests) → db.OthersEnded orderId returnId
  | .receiveReturn returnId _ _ _ => ∀ ret ∈ db.returns.lookup returnId, ret.receivable = true → ret.orderId = orderId →
      db.Covered orderId (fun _ => 0) → db.OthersEnded orderId returnId
  | _ => True

instance (orderId : Uuid) (db : ReturnsDb) : ∀ operation, Decidable (ReceivedLast orderId db operation)
  | .createReturn returnId _ _ _ dto _ => inferInstanceAs (Decidable (dto.autoReceive = true → dto.orderId = orderId →
      db.Covered orderId (askedOf · dto.requests) → db.OthersEnded orderId returnId))
  | .receiveReturn returnId _ _ _ => inferInstanceAs (Decidable (∀ ret ∈ db.returns.lookup returnId, ret.receivable = true →
      ret.orderId = orderId → db.Covered orderId (fun _ => 0) → db.OthersEnded orderId returnId))
  | .placeOrder .. | .changeOrder .. | .shift .. | .approveReturn .. | .rejectReturn .. | .createRefundRequest .. => isTrue trivial

theorem receiveReturn_law (sums : db.AddsUp) (owned : db.Owned) (law : db.ReturnedIffBack orderId)
    (last : ∀ ret ∈ db.returns.lookup returnId, ret.receivable = true → ret.orderId = orderId →
      db.Covered orderId (fun _ => 0) → db.OthersEnded orderId returnId)
    (ran : receiveReturn db returnId actorId scope answer = .ok after) : after.ReturnedIffBack orderId := by
  have later := (receiveReturn_rewrites ran).addsUp sums
  rcases receiveReturn_ok sums ran with rfl | ⟨ret, received⟩
  · exact law
  · exact received.law sums later owned law (last ret received.found received.receivable)

theorem Created.covered (created : Created db returnId dto after)
    (full : after.Covered orderId fun _ => 0) : db.Covered orderId (askedOf · dto.requests) := by
  intro entry member
  obtain ⟨found, own⟩ := mem_itemsOf.mp member
  have items := created.items entry.1
  rw [found, map_some] at items
  obtain ⟨item, present, same⟩ := map_eq_some_iff.mp items
  obtain ⟨home, counters⟩ := Prod.mk.inj same
  obtain ⟨qty, returned⟩ := Prod.mk.inj counters
  have counted : item.returnedQty + 0 = item.qty := full (entry.1, item) (mem_itemsOf.mpr ⟨present, home.trans own⟩)
  rw [← returned, ← qty]
  omega

theorem Created.others (created : Created db returnId dto after)
    (ended : db.OthersEnded orderId returnId) : after.OthersEnded orderId returnId := by
  obtain ⟨made, returns, _, _⟩ := created.returns
  intro entry member home other
  have found : after.returns.lookup entry.1 = some entry.2 := AList.mem_lookup_iff.mpr member
  rw [returns, lookup_insert_if, if_neg other] at found
  exact ended entry (AList.mem_lookup_iff.mp found) home other

theorem createReturn_law (sums : db.AddsUp) (owned : db.Owned) (law : db.ReturnedIffBack orderId) {code}
    (last : dto.autoReceive = true → dto.orderId = orderId →
      db.Covered orderId (askedOf · dto.requests) → db.OthersEnded orderId returnId) :
    (createReturn db returnId code actorId scope dto answer).1.ReturnedIffBack orderId := by
  unfold createReturn
  split
  · exact law
  · next made row =>
    have created := createReturnRow_created sums row
    have kept := created.law sums law
    split
    · next auto =>
      split
      · next received =>
        refine receiveReturn_law (createReturnRow_addsUp sums row) (created.owned sums owned) kept ?_ received
        intro ret found _ home full
        obtain ⟨_, returns, order, _⟩ := created.returns
        rw [mem_def, returns, lookup_insert_if, if_pos rfl] at found
        have sameOrder : dto.orderId = orderId := by rw [← order, some.inj found, home]
        exact created.others (last auto sameOrder (created.covered full))
      · exact kept
    · exact kept

theorem performReturn_law (sums : db.AddsUp) (owned : db.Owned) (law : db.ReturnedIffBack orderId) {operation}
    (call : operation.isReturnCall = true) (last : ReceivedLast orderId db operation) :
    (performReturn db operation).ReturnedIffBack orderId := by
  cases operation with
  | createReturn returnId code actorId scope dto answer => exact createReturn_law sums owned law last
  | approveReturn returnId actorId scope =>
    exact commit_preserves (ReturnedIffBack · orderId) law fun _ ran => (approveReturn_undone ran).law law
  | rejectReturn returnId scope reason =>
    exact commit_preserves (ReturnedIffBack · orderId) law fun _ ran => (rejectReturn_undone sums ran).law law
  | receiveReturn returnId actorId scope answer =>
    exact commit_preserves (ReturnedIffBack · orderId) law fun _ ran => receiveReturn_law sums owned law last ran
  | placeOrder | changeOrder | shift | createRefundRequest => cases call

structure ReturnsDb.Unreturned (db : ReturnsDb) (orderId : Uuid) : Prop where
  status : ∀ order ∈ db.orders.lookup orderId, order.fulfillmentStatus ≠ .returned
  lines : db.itemsOf orderId ≠ []
  returns : ∀ entry ∈ db.returns.entries, entry.2.orderId ≠ orderId

theorem ReturnsDb.Unreturned.law (sums : db.AddsUp) (owned : db.Owned) (fresh : db.Unreturned orderId) :
    db.ReturnedIffBack orderId := by
  intro order found
  obtain ⟨entry, member⟩ := List.exists_mem_of_ne_nil _ fresh.lines
  obtain ⟨present, home⟩ := mem_itemsOf.mp member
  refine ⟨fun returned => absurd returned (fresh.status order found), fun all => ?_⟩
  have none_back : db.back entry.1 = 0 := by
    refine Keyed.total_of_absent fun line inside here => ?_
    obtain ⟨ret, filed⟩ := ne_none_iff_exists'.mp (sums.filed line (List.mem_of_mem_filter inside))
    apply fresh.returns ⟨line.returnId, ret⟩ (AList.mem_lookup_iff.mp filed)
    rw [← home]
    exact (owned line (List.mem_of_mem_filter inside) ret filed entry.2 (here ▸ present)).symm
  have sold := (sums.sound entry.1 entry.2 present).sold
  have back := all entry.1 entry.2 present home
  omega

/-- An order of which nothing was returned yet is RETURNED after any calls on returns exactly when all of it came back, as long
as no return is received while the counters of its lines are full with another that is still under way. -/
theorem returned_iff_back (earlier calls : List ReturnOperation) (orderId : Uuid) (fresh : (returnsAfter earlier).Unreturned orderId)
    (each : ∀ call ∈ calls, call.isReturnCall = true)
    (last : Run.Meets performReturn (ReceivedLast orderId) (returnsAfter earlier) calls) :
    (Run.after performReturn (returnsAfter earlier) calls).ReturnedIffBack orderId := by
  have sums := returnsAfter_addsUp earlier
  have owned := returnsAfter_owned earlier
  have met := last.and (Run.meets_of_inputs each)
  refine (Run.invariant_of_meets (fun db : ReturnsDb => db.AddsUp ∧ db.Owned ∧ db.ReturnedIffBack orderId) ?_ met
    ⟨sums, owned, fresh.law sums owned⟩).2.2
  rintro db operation ⟨lastly, call⟩ ⟨sums, owned, law⟩
  exact ⟨performReturn_addsUp sums operation, performReturn_owned sums owned operation, performReturn_law sums owned law call lastly⟩

private def bringBack (returnId orderItemId : Uuid) (autoReceive : Bool) : ReturnOperation :=
  .createReturn returnId "TH000001" 3 none
    { orderId := 1, items := [{ orderItemId, returnQty := "1" }], autoApprove := true, autoReceive } fun _ => .ok 0

private def receiveBag (returnId : Uuid) : ReturnOperation := .receiveReturn returnId 3 none fun _ => .ok 0

private theorem riceSale_unreturned : (returnsAfter [riceSale]).Unreturned 1 := by
  constructor
  · decide +kernel
  · decide +kernel
  · decide +kernel

/-- Each bag comes back with a return of its own, and the last one ends the order. -/
theorem bags_returned : (Run.after performReturn (returnsAfter [riceSale])
    [bringBack 20 7 false, receiveBag 20, bringBack 21 8 true]).ReturnedIffBack 1 := by
  apply returned_iff_back [riceSale] _ 1 riceSale_unreturned
  · decide
  · decide +kernel

/-- The first bag is received while the second is only announced. -/
theorem returned_before_back : ¬∀ earlier calls orderId, (returnsAfter earlier).Unreturned orderId →
    (∀ call ∈ calls, call.isReturnCall = true) →
    (Run.after performReturn (returnsAfter earlier) calls).ReturnedIffBack orderId := by
  intro claim
  have law := claim [riceSale] [bringBack 20 7 false, bringBack 21 8 false, receiveBag 20] 1 riceSale_unreturned (by decide)
  generalize ended : Run.after performReturn (returnsAfter [riceSale]) [bringBack 20 7 false, bringBack 21 8 false, receiveBag 20] =
    after at law
  have status : (after.orders.lookup 1).any (·.fulfillmentStatus = .returned) = true := by
    rw [← ended]
    decide +kernel
  have second : (after.orderItems.lookup 8).any (fun item => item.orderId = 1 ∧ after.back 8 ≠ item.qty) = true := by
    rw [← ended]
    decide +kernel
  obtain ⟨order, found, returned⟩ := (any_eq_true _ _).mp status
  obtain ⟨item, present, short⟩ := (any_eq_true _ _).mp second
  obtain ⟨home, partly⟩ := of_decide_eq_true short
  exact partly ((law order found).mp (of_decide_eq_true returned) 8 item present home)

end Sales
