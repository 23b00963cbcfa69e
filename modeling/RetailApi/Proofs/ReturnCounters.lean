import RetailApi.Base.Run
import RetailApi.Proofs.ReturnRefunds
import RetailApi.Sales.ReturnOperations

/-! The counters an order line keeps of its returns. They are the sums over the returns that still
stand, whatever returns were created and rejected before, so the floor under them is never reached. -/

namespace Sales

open Transaction ReturnsDb Keyed List Table

variable {after next : ReturnsDb} {orderItemId orderId actorId : Uuid} {scope : BranchScope} {answer : RestockAnswer}

theorem updateItem_ok {db : ReturnsDb} {change}
    (updated : db.updateItem orderItemId change = .ok after) : after = { db with orderItems := after.orderItems } ∧
      ∀ other, after.orderItems.lookup other =
        if other = orderItemId then (db.orderItems.lookup other).map change else db.orderItems.lookup other := by
  unfold updateItem at updated
  split at updated
  · next missing =>
    obtain rfl : db = after := Except.ok.inj updated
    refine ⟨rfl, fun other => ?_⟩
    split
    · next same => rw [same, missing, Option.map_none]
    · rfl
  · next item found =>
    simp only [eq_ok] at updated
    obtain ⟨_, _, rfl⟩ := updated
    refine ⟨rfl, fun other => ?_⟩
    rw [lookup_insert_if]
    split
    · next same => rw [same, found, Option.map_some]
    · rfl

def OrderItemEntity.moved (item : OrderItemEntity) (qty money : Int) : OrderItemEntity :=
  { item with returnedQty := item.returnedQty + qty, refundedAmount := item.refundedAmount + money }

theorem updateItems_ok {α : Type} {key : α → Uuid} {qty money} {lines} {db : ReturnsDb}
    (ran : lines.foldlM (fun db line => db.updateItem (key line) (·.moved (qty line) (money line))) db = .ok after) :
    after = { db with orderItems := after.orderItems } ∧ ∀ orderItemId, after.orderItems.lookup orderItemId =
      (db.orderItems.lookup orderItemId).map
        (·.moved (Keyed.total key qty orderItemId lines) (Keyed.total key money orderItemId lines)) := by
  induction lines generalizing db with
  | nil =>
    obtain rfl := foldlM_nil.mp ran
    refine ⟨rfl, fun orderItemId => ?_⟩
    cases db.orderItems.lookup orderItemId <;> simp [OrderItemEntity.moved]
  | cons line lines inner =>
    obtain ⟨middle, first, rest⟩ := foldlM_cons.mp ran
    obtain ⟨frame, moved⟩ := updateItem_ok first
    obtain ⟨restFrame, restMoved⟩ := inner rest
    refine ⟨by rw [restFrame, frame], fun orderItemId => ?_⟩
    rw [restMoved, moved, Keyed.total_cons, Keyed.total_cons]
    by_cases here : key line = orderItemId
    · rw [if_pos here.symm, if_pos here, if_pos here]
      cases db.orderItems.lookup orderItemId with
      | none => rfl
      | some item => simp [OrderItemEntity.moved, add_assoc]
    · rw [if_neg (Ne.symm here), if_neg here, if_neg here, zero_add, zero_add]

theorem mem_itemsOf {db : ReturnsDb} {entry} :
    entry ∈ db.itemsOf orderId ↔ db.orderItems.lookup entry.1 = some entry.2 ∧ entry.2.orderId = orderId := by
  have listed : entry ∈ db.orderItems.entries.map (fun row => (row.1, row.2)) ↔
      db.orderItems.lookup entry.1 = some entry.2 := by
    constructor
    · intro member
      obtain ⟨row, inside, rfl⟩ := mem_map.mp member
      exact AList.mem_lookup_iff.mpr inside
    · intro found
      exact mem_map.mpr ⟨⟨entry.1, entry.2⟩, AList.mem_lookup_iff.mp found, rfl⟩
  rw [itemsOf, mem_insertionSort, mem_filter, listed, decide_eq_true_eq]

theorem nodup_itemsOf (db : ReturnsDb) (orderId : Uuid) : ((db.itemsOf orderId).map (·.1)).Nodup := by
  have keys : ((db.orderItems.entries.map fun row => (row.1, row.2)).map (·.1)).Nodup := by
    rw [map_map]
    exact db.orderItems.nodupKeys
  have chosen := keys.sublist ((filter_sublist (p := fun entry : Uuid × OrderItemEntity =>
    decide (entry.2.orderId = orderId))).map (·.1))
  exact ((perm_insertionSort _ _).map _).nodup_iff.mpr chosen

theorem snapshotsOf_ok {db : ReturnsDb} (sound : ∀ orderItemId item, db.orderItems.lookup orderItemId = some item → item.Sound)
    {lines} (read : db.snapshotsOf orderId = .ok lines) : Snapshots lines (db.orderItems.lookup ·) ∧
      ∀ orderItemId item, db.orderItems.lookup orderItemId = some item → item.orderId = orderId →
        ∃ orig ∈ lines, orig.orderItemId = orderItemId ∧ Shows item orig := by
  have ids : lines.map (·.orderItemId) = (db.itemsOf orderId).map (·.1) :=
    mapM_map_eq (fun _ _ shown => (snapshotOf_ok shown).1) read
  refine ⟨⟨ids ▸ nodup_itemsOf db orderId, fun orig member => ?_⟩, fun orderItemId item found same => ?_⟩
  · obtain ⟨entry, inside, shown⟩ := mapM_mem read member
    obtain ⟨sameId, shows⟩ := snapshotOf_ok shown
    have found := (mem_itemsOf.mp inside).1
    exact ⟨entry.2, sameId ▸ found, shows, sound entry.1 entry.2 found⟩
  · have inside : (orderItemId, item) ∈ db.itemsOf orderId := mem_itemsOf.mpr ⟨found, same⟩
    obtain ⟨orig, made, shown⟩ := mapM_made read inside
    obtain ⟨sameId, shows⟩ := snapshotOf_ok shown
    exact ⟨orig, made, sameId, shows⟩

def stands (returns : Table Uuid SalesReturnEntity) (returnId : Uuid) : Bool :=
  (returns.lookup returnId).any (·.status ≠ .rejected)

theorem stands_insert (returns : Table Uuid SalesReturnEntity) (returnId other : Uuid) (ret : SalesReturnEntity) :
    stands (returns.insert returnId ret) other =
      if other = returnId then decide (ret.status ≠ .rejected) else stands returns other := by
  unfold stands
  rw [lookup_insert_if]
  split <;> rfl

def ReturnsDb.standing (db : ReturnsDb) (amount : SalesReturnItemEntity → Int) (orderItemId : Uuid) : Int :=
  Keyed.total SalesReturnItemEntity.orderItemId amount orderItemId
    (db.returnItems.filter fun line => stands db.returns line.returnId)

/-- The counters of every order line are the sums over its standing returns. -/
structure ReturnsDb.AddsUp (db : ReturnsDb) : Prop where
  sound : ∀ orderItemId item, db.orderItems.lookup orderItemId = some item → item.Sound
  returned : ∀ orderItemId item, db.orderItems.lookup orderItemId = some item →
    item.returnedQty = db.standing SalesReturnItemEntity.returnQty orderItemId
  refunded : ∀ orderItemId item, db.orderItems.lookup orderItemId = some item →
    item.refundedAmount = db.standing SalesReturnItemEntity.refundAmount orderItemId
  positive : ∀ line ∈ db.returnItems, 0 < line.returnQty ∧ 0 ≤ line.refundAmount
  filed : ∀ line ∈ db.returnItems, db.returns.lookup line.returnId ≠ none
  sold : ∀ line ∈ db.returnItems, db.orderItems.lookup line.orderItemId ≠ none

theorem addsUp_empty : ({} : ReturnsDb).AddsUp := by
  constructor
  all_goals intros
  all_goals simp_all

theorem ReturnsDb.AddsUp.moved {db : ReturnsDb} (sums : db.AddsUp) (items : next.orderItems = db.orderItems)
    (lines : next.returnItems = db.returnItems) (standing : ∀ returnId, stands next.returns returnId = stands db.returns returnId)
    (filed : ∀ returnId, db.returns.lookup returnId ≠ none → next.returns.lookup returnId ≠ none) : next.AddsUp := by
  have same : ∀ amount orderItemId, next.standing amount orderItemId = db.standing amount orderItemId := by
    intro amount orderItemId
    simp only [ReturnsDb.standing, lines, standing]
  constructor
  · rw [items]
    exact sums.sound
  · intro orderItemId item found
    rw [same]
    exact sums.returned orderItemId item (items ▸ found)
  · intro orderItemId item found
    rw [same]
    exact sums.refunded orderItemId item (items ▸ found)
  · rw [lines]
    exact sums.positive
  · rw [lines]
    exact fun line member => filed line.returnId (sums.filed line member)
  · rw [lines, items]
    exact sums.sold

theorem ReturnsDb.AddsUp.rewritten {db : ReturnsDb} (sums : db.AddsUp) {returnId old new}
    (found : db.returns.lookup returnId = some old) (items : next.orderItems = db.orderItems)
    (lines : next.returnItems = db.returnItems) (returns : next.returns = db.returns.insert returnId new)
    (both : old.status ≠ .rejected ∧ new.status ≠ .rejected) : next.AddsUp := by
  refine sums.moved items lines (fun other => ?_) fun other present => ?_
  · rw [returns, stands_insert]
    split
    · next same =>
      subst same
      simp [stands, found, both.1, both.2]
    · rfl
  · rw [returns, lookup_insert_if]
    split
    · simp
    · exact present

theorem lockReturn_ok {db : ReturnsDb} {returnId ret}
    (locked : db.lockReturn returnId scope = .ok ret) : db.returns.lookup returnId = some ret := by
  simp only [lockReturn, eq_ok] at locked
  obtain ⟨_, found, _, _, rfl⟩ := locked
  exact found

theorem placeOrder_addsUp {db : ReturnsDb} {order lines}
    (sums : db.AddsUp) (placed : placeOrder db orderId order lines = .ok after) : after.AddsUp := by
  simp only [placeOrder, eq_ok] at placed
  obtain ⟨_, _, inserted⟩ := placed
  have started : ({ db with orders := db.orders.insert orderId order } : ReturnsDb).AddsUp :=
    sums.moved rfl rfl (fun _ => rfl) fun _ present => present
  refine foldlM_preserves AddsUp ?_ started inserted
  intro entry _ before next kept stepped
  simp only [insertLine, eq_ok] at stepped
  obtain ⟨_, fresh, rfl⟩ := stepped
  -- a line that is new has no return yet
  have none_yet : ∀ amount, before.standing amount entry.1 = 0 := by
    intro amount
    refine total_of_absent fun line member same => ?_
    exact kept.sold line (mem_of_mem_filter member) (same ▸ fresh)
  constructor
  · have sold := entry.2.sold
    exact forall_insert ⟨sold, le_rfl, sold.le, le_rfl, entry.2.priced, fun all => absurd all sold.ne⟩ kept.sound
  · exact forall_insert (none_yet _).symm kept.returned
  · exact forall_insert (none_yet _).symm kept.refunded
  · exact kept.positive
  · exact kept.filed
  · intro line member
    rw [lookup_insert_if]
    split
    · simp
    · exact kept.sold line member

theorem calculated_moves {db : ReturnsDb} (sums : db.AddsUp) {lines} (read : db.snapshotsOf orderId = .ok lines) {requests result}
    (calculated : calculateReturnRefund lines requests = .ok result) {item}
    (found : db.orderItems.lookup orderItemId = some item) :
    (item.moved (returnedOn orderItemId result.lines) (refundedOn orderItemId result.lines)).Sound := by
  obtain ⟨snapshots, covered⟩ := snapshotsOf_ok sums.sound read
  obtain ⟨each, balanced⟩ := calculateReturnRefund_ok snapshots calculated
  have sound := sums.sound orderItemId item found
  by_cases same : item.orderId = orderId
  · obtain ⟨orig, member, rfl, shows⟩ := covered orderItemId item found same
    exact ⟨sound.sold, balanced orig member item shows sound⟩
  · have absent : ∀ line ∈ result.lines, line.orderItemId ≠ orderItemId := by
      intro line member here
      obtain ⟨orig, inside, origId⟩ := mem_map.mp (each line member).2.2
      obtain ⟨entry, listed, shown⟩ := mapM_mem read inside
      obtain ⟨rowFound, rowOrder⟩ := mem_itemsOf.mp listed
      rw [← (snapshotOf_ok shown).1, origId, here, found, Option.some.injEq] at rowFound
      exact same (rowFound ▸ rowOrder)
    rw [returnedOn, refundedOn, total_of_absent absent, total_of_absent absent]
    simpa [OrderItemEntity.moved] using sound

theorem takeLines_ok {db} {lines : List CalculatedReturnLine}
    (taken : lines.foldlM takeLine db = .ok after) : after = { db with orderItems := after.orderItems } ∧
      ∀ orderItemId, after.orderItems.lookup orderItemId = (db.orderItems.lookup orderItemId).map
        (·.moved (returnedOn orderItemId lines) (refundedOn orderItemId lines)) :=
  updateItems_ok taken

theorem CalculatedReturnLine.entity_returnId (returnId : Uuid) (line : CalculatedReturnLine) :
    (line.entity returnId).returnId = returnId := rfl

theorem newReturn_status (code : String) (actorId : Uuid) (order : OrderEntity) (dto : CreateReturnDto) (total : Int) :
    (newReturn code actorId order dto total).status ≠ .rejected := by
  unfold newReturn
  split <;> simp

theorem insertReturn_standing {db : ReturnsDb} (sums : db.AddsUp) {returnId}
    (fresh : db.returns.lookup returnId = none) (ret : SalesReturnEntity) (accepted : ret.status ≠ .rejected)
    (lines : List CalculatedReturnLine) (amount : SalesReturnItemEntity → Int) (orderItemId : Uuid) :
    Keyed.total SalesReturnItemEntity.orderItemId amount orderItemId
      ((db.returnItems ++ lines.map (·.entity returnId)).filter fun line => stands (db.returns.insert returnId ret) line.returnId) =
    db.standing amount orderItemId + Keyed.total SalesReturnItemEntity.orderItemId amount orderItemId (lines.map (·.entity returnId)) := by
  have earlier : (db.returnItems.filter fun line => stands (db.returns.insert returnId ret) line.returnId) =
      db.returnItems.filter fun line => stands db.returns line.returnId := by
    apply filter_congr
    intro line member
    have other : line.returnId ≠ returnId := fun same => sums.filed line member (same ▸ fresh)
    rw [stands_insert, if_neg other]
  have own : ((lines.map (·.entity returnId)).filter fun line => stands (db.returns.insert returnId ret) line.returnId) =
      lines.map (·.entity returnId) := by
    refine filter_eq_self.mpr (forall_mem_map.mpr fun calculated _ => ?_)
    rw [stands_insert, CalculatedReturnLine.entity_returnId, if_pos rfl]
    exact decide_eq_true accepted
  rw [filter_append, Keyed.total_append, earlier, own]
  rfl

def CreateReturnDto.requests (dto : CreateReturnDto) : List ReturnLineRequest :=
  dto.items.map fun item => {
    orderItemId := item.orderItemId, returnQty := item.returnQty
    disposition := item.disposition.getD .restock, reason := item.reason }

/-- All that a new return changes. -/
theorem createReturnRow_ok {db : ReturnsDb} {returnId code dto}
    (ran : createReturnRow db returnId code actorId scope dto = .ok after) :
    ∃ order lines result orderItems outbox, db.snapshotsOf dto.orderId = .ok lines ∧
      calculateReturnRefund lines dto.requests = .ok result ∧ db.returns.lookup returnId = none ∧
      (∀ item ∈ result.lines.map (·.entity returnId), 0 < item.returnQty ∧ 0 ≤ item.refundAmount) ∧
      (∀ orderItemId, orderItems.lookup orderItemId = (db.orderItems.lookup orderItemId).map
        (·.moved (returnedOn orderItemId result.lines) (refundedOn orderItemId result.lines))) ∧
      after = { db with
        orderItems, outbox, returns := db.returns.insert returnId (newReturn code actorId order dto result.totalRefundAmount)
        returnItems := db.returnItems ++ result.lines.map (·.entity returnId) } := by
  simp only [createReturnRow, eq_ok] at ran
  obtain ⟨order, _, _, _, _, _, lines, read, result, calculated, middle, taken, inserted⟩ := ran
  obtain ⟨frame, moved⟩ := takeLines_ok taken
  rw [frame] at inserted
  simp only [insertReturn, eq_ok] at inserted
  obtain ⟨_, fresh, _, _, _, legal, rfl⟩ := inserted
  exact ⟨order, lines, result, _, _, read, calculated, fresh, legal, moved, rfl⟩

theorem createReturnRow_addsUp {db : ReturnsDb} {returnId code dto} (sums : db.AddsUp)
    (created : createReturnRow db returnId code actorId scope dto = .ok after) : after.AddsUp := by
  obtain ⟨order, lines, result, orderItems, _, read, calculated, fresh, legal, moved, rfl⟩ := createReturnRow_ok created
  obtain ⟨snapshots, _⟩ := snapshotsOf_ok sums.sound read
  obtain ⟨each, _⟩ := calculateReturnRefund_ok snapshots calculated
  have back : ∀ orderItemId item, orderItems.lookup orderItemId = some item → ∃ before,
      db.orderItems.lookup orderItemId = some before ∧
        item = before.moved (returnedOn orderItemId result.lines) (refundedOn orderItemId result.lines) := by
    intro orderItemId item found
    rw [moved] at found
    obtain ⟨before, was, rfl⟩ := Option.map_eq_some_iff.mp found
    exact ⟨before, was, rfl⟩
  have standing := insertReturn_standing sums fresh (newReturn code actorId order dto result.totalRefundAmount)
    (newReturn_status code actorId order dto _) result.lines
  constructor
  · intro orderItemId item found
    obtain ⟨before, was, rfl⟩ := back orderItemId item found
    exact calculated_moves sums read calculated was
  · intro orderItemId item found
    obtain ⟨before, was, rfl⟩ := back orderItemId item found
    rw [ReturnsDb.standing, standing, total_map, ← sums.returned orderItemId before was]
    rfl
  · intro orderItemId item found
    obtain ⟨before, was, rfl⟩ := back orderItemId item found
    rw [ReturnsDb.standing, standing, total_map, ← sums.refunded orderItemId before was]
    rfl
  · exact forall_mem_append.mpr ⟨fun line earlier => sums.positive line earlier, legal⟩
  · intro line member
    rw [lookup_insert_if]
    rcases mem_append.mp member with earlier | new
    · split
      · simp
      · exact sums.filed line earlier
    · obtain ⟨calculatedLine, _, rfl⟩ := mem_map.mp new
      rw [CalculatedReturnLine.entity_returnId, if_pos rfl]
      simp
  · intro line member
    dsimp only
    rw [moved, ne_eq, Option.map_eq_none_iff]
    rcases mem_append.mp member with earlier | new
    · exact sums.sold line earlier
    · obtain ⟨calculatedLine, inside, rfl⟩ := mem_map.mp new
      obtain ⟨orig, origIn, origId⟩ := mem_map.mp (each calculatedLine inside).2.2
      obtain ⟨row, found, _⟩ := snapshots.shown orig origIn
      rw [origId] at found
      change db.orderItems.lookup calculatedLine.orderItemId ≠ none
      simp [found]

def ReturnsDb.lineSum (db : ReturnsDb) (returnId : Uuid) (amount : SalesReturnItemEntity → Int) (orderItemId : Uuid) : Int :=
  Keyed.total SalesReturnItemEntity.orderItemId amount orderItemId (db.linesOf returnId)

theorem giveBack_floor {lines} {db} (each : ∀ line ∈ lines, 0 ≤ line.returnQty ∧ 0 ≤ line.refundAmount)
    (enough : ∀ orderItemId item, db.orderItems.lookup orderItemId = some item →
      Keyed.total SalesReturnItemEntity.orderItemId SalesReturnItemEntity.returnQty orderItemId lines ≤ item.returnedQty ∧
      Keyed.total SalesReturnItemEntity.orderItemId SalesReturnItemEntity.refundAmount orderItemId lines ≤ item.refundedAmount) :
    lines.foldlM (giveBack (max 0)) db = lines.foldlM (giveBack id) db := by
  induction lines generalizing db with
  | nil => rfl
  | cons line lines inner =>
    have later := fun other member => each other (List.mem_cons_of_mem line member)
    have restQty : ∀ orderItemId, 0 ≤ Keyed.total SalesReturnItemEntity.orderItemId SalesReturnItemEntity.returnQty orderItemId lines :=
      fun _ => total_nonneg fun other member => (later other member).1
    have restMoney : ∀ orderItemId, 0 ≤ Keyed.total SalesReturnItemEntity.orderItemId SalesReturnItemEntity.refundAmount orderItemId lines :=
      fun _ => total_nonneg fun other member => (later other member).2
    have first : giveBack (max 0) db line = giveBack id db line := by
      unfold giveBack updateItem
      cases found : db.orderItems.lookup line.orderItemId with
      | none => rfl
      | some item =>
        obtain ⟨qty, money⟩ := enough line.orderItemId item found
        rw [Keyed.total_cons, if_pos rfl] at qty money
        have qtyLeft := restQty line.orderItemId
        have moneyLeft := restMoney line.orderItemId
        have keptQty : max 0 (item.returnedQty - line.returnQty) = item.returnedQty - line.returnQty :=
          max_eq_right (by omega)
        have keptMoney : max 0 (item.refundedAmount - line.refundAmount) = item.refundedAmount - line.refundAmount :=
          max_eq_right (by omega)
        simp only [keptQty, keptMoney, id_eq]
    rw [List.foldlM_cons, List.foldlM_cons, first]
    cases given : giveBack id db line with
    | error _ => rfl
    | ok next =>
      refine inner later fun orderItemId item found => ?_
      obtain ⟨_, moved⟩ := updateItem_ok given
      rw [moved] at found
      split at found
      · next same =>
        obtain ⟨before, was, rfl⟩ := Option.map_eq_some_iff.mp found
        obtain ⟨qty, money⟩ := enough orderItemId before was
        rw [Keyed.total_cons, if_pos same.symm] at qty money
        dsimp only [id_eq]
        constructor <;> omega
      · next different =>
        have bound := enough orderItemId item found
        rw [Keyed.total_cons, Keyed.total_cons, if_neg (Ne.symm different), if_neg (Ne.symm different), zero_add,
          zero_add] at bound
        exact bound

theorem giveBackAll_ok {db} {lines : List SalesReturnItemEntity}
    (given : lines.foldlM (giveBack id) db = .ok after) : after = { db with orderItems := after.orderItems } ∧
      ∀ orderItemId, after.orderItems.lookup orderItemId = (db.orderItems.lookup orderItemId).map
        (·.moved (-Keyed.total SalesReturnItemEntity.orderItemId SalesReturnItemEntity.returnQty orderItemId lines)
          (-Keyed.total SalesReturnItemEntity.orderItemId SalesReturnItemEntity.refundAmount orderItemId lines)) := by
  have same : giveBack id = fun db line =>
      db.updateItem line.orderItemId (·.moved (-line.returnQty) (-line.refundAmount)) := by
    funext db line
    simp only [giveBack, OrderItemEntity.moved, id_eq, sub_eq_add_neg]
  obtain ⟨frame, moved⟩ := updateItems_ok given
  refine ⟨frame, fun orderItemId => ?_⟩
  rw [moved, total_neg, total_neg]

def ReturnsDb.elsewhere (db : ReturnsDb) (returnId : Uuid) (amount : SalesReturnItemEntity → Int) (orderItemId : Uuid) :
    Int :=
  Keyed.total SalesReturnItemEntity.orderItemId amount orderItemId
    (db.returnItems.filter fun line => stands db.returns line.returnId && !decide (line.returnId = returnId))

theorem standing_split {db : ReturnsDb} {returnId} (standing : stands db.returns returnId = true)
    (amount : SalesReturnItemEntity → Int) (orderItemId : Uuid) :
    db.standing amount orderItemId = db.lineSum returnId amount orderItemId + db.elsewhere returnId amount orderItemId := by
  rw [ReturnsDb.standing, total_filter_not fun line => decide (line.returnId = returnId), filter_filter,
    filter_filter]
  congr 2
  · apply filter_congr
    intro line _
    by_cases own : line.returnId = returnId
    · simp [own, standing]
    · simp [own]
  · apply filter_congr
    intro line _
    rw [Bool.and_comm]

theorem standing_rejected {db : ReturnsDb} {returnId} (standing : stands db.returns returnId = true)
    (new : SalesReturnEntity) (rejected : new.status = .rejected) (amount : SalesReturnItemEntity → Int) (orderItemId : Uuid) :
    Keyed.total SalesReturnItemEntity.orderItemId amount orderItemId
        (db.returnItems.filter fun line => stands (db.returns.insert returnId new) line.returnId) =
      db.standing amount orderItemId + -db.lineSum returnId amount orderItemId := by
  have others : (db.returnItems.filter fun line => stands (db.returns.insert returnId new) line.returnId) =
      db.returnItems.filter fun line => stands db.returns line.returnId && !decide (line.returnId = returnId) := by
    apply filter_congr
    intro line _
    rw [stands_insert]
    by_cases own : line.returnId = returnId
    · simp [own, rejected]
    · simp [own]
  have split := standing_split standing amount orderItemId
  rw [others, split, elsewhere]
  omega

theorem elsewhere_nonneg {db : ReturnsDb} {amount} (each : ∀ line ∈ db.returnItems, 0 ≤ amount line)
    (returnId orderItemId : Uuid) : 0 ≤ db.elsewhere returnId amount orderItemId :=
  total_nonneg fun line member => each line (mem_of_mem_filter member)

variable {db : ReturnsDb} {returnId : Uuid} {ret : SalesReturnEntity}

theorem ReturnsDb.AddsUp.enough (sums : db.AddsUp) (standing : stands db.returns returnId = true) :
    ∀ orderItemId item, db.orderItems.lookup orderItemId = some item →
      db.lineSum returnId SalesReturnItemEntity.returnQty orderItemId ≤ item.returnedQty ∧
      db.lineSum returnId SalesReturnItemEntity.refundAmount orderItemId ≤ item.refundedAmount := by
  intro orderItemId item found
  rw [sums.returned orderItemId item found, sums.refunded orderItemId item found, standing_split standing,
    standing_split standing]
  have qty := elsewhere_nonneg (fun line member => (sums.positive line member).1.le) returnId orderItemId
  have money := elsewhere_nonneg (fun line member => (sums.positive line member).2) returnId orderItemId
  constructor <;> omega

theorem ReturnsDb.AddsUp.floor (sums : db.AddsUp) (returnId : Uuid) (scope : BranchScope) (reason : Option String) :
    rejectReturn db returnId scope reason = rejectReturnWith id db returnId scope reason := by
  unfold rejectReturn rejectReturnWith
  cases locked : db.lockReturn returnId scope with
  | error _ => rfl
  | ok ret =>
    have found := lockReturn_ok locked
    by_cases rejected : ret.status = .rejected
    · simp [rejected, bind, Except.bind]
    · have standing : stands db.returns returnId = true := by simp [stands, found, rejected]
      have same := giveBack_floor (fun line member => by
        have positive := sums.positive line (mem_of_mem_filter member)
        exact ⟨positive.1.le, positive.2⟩) (sums.enough standing)
      simp only [bind, Except.bind, if_neg rejected, same]

/-- All that a rejection changes. -/
theorem rejectReturn_ok {floor} {reason} (ran : rejectReturnWith floor db returnId scope reason = .ok after) : after = db ∨
    ∃ ret new orderItems, db.returns.lookup returnId = some ret ∧ ret.status ≠ .rejected ∧
      (ret.status ≠ .completed ∧ ret.status ≠ .received) ∧ new.status = .rejected ∧ new.orderId = ret.orderId ∧
      (db.linesOf returnId).foldlM (giveBack floor) db = .ok { db with orderItems } ∧
      after = { db with orderItems, returns := db.returns.insert returnId new } := by
  rw [rejectReturnWith, bind_eq_ok] at ran
  obtain ⟨ret, locked, ran⟩ := ran
  split at ran
  · exact .inl (pure_eq_ok.mp ran).symm
  next standing =>
  simp only [eq_ok] at ran
  obtain ⟨_, undecided, middle, given, rfl⟩ := ran
  have frame : middle = { db with orderItems := middle.orderItems } := by
    refine foldlM_preserves (fun next => next = { db with orderItems := next.orderItems }) ?_ rfl given
    intro line _ before next kept stepped
    rw [(updateItem_ok stepped).1, kept]
  rw [frame] at given ⊢
  refine .inr ⟨ret, _, _, lockReturn_ok locked, standing, undecided, ?_, ?_, given, rfl⟩ <;> rfl

theorem rejectReturn_addsUp {reason} (sums : db.AddsUp)
    (ran : rejectReturn db returnId scope reason = .ok after) : after.AddsUp := by
  rw [sums.floor] at ran
  obtain rfl | ⟨ret, new, orderItems, found, undecided, _, rejected, _, given, rfl⟩ := rejectReturn_ok ran
  · exact sums
  have standing : stands db.returns returnId = true := by simp [stands, found, undecided]
  obtain ⟨_, moved⟩ := giveBackAll_ok given
  have back : ∀ orderItemId item, orderItems.lookup orderItemId = some item → ∃ before,
      db.orderItems.lookup orderItemId = some before ∧
        item = before.moved (-db.lineSum returnId SalesReturnItemEntity.returnQty orderItemId)
          (-db.lineSum returnId SalesReturnItemEntity.refundAmount orderItemId) := by
    intro orderItemId item present
    rw [moved] at present
    obtain ⟨before, was, rfl⟩ := Option.map_eq_some_iff.mp present
    exact ⟨before, was, rfl⟩
  constructor
  · intro orderItemId item present
    obtain ⟨before, was, rfl⟩ := back orderItemId item present
    have sound := sums.sound orderItemId before was
    obtain ⟨qtyLe, moneyLe⟩ := sums.enough standing orderItemId before was
    have each := fun line member => sums.positive line (mem_of_mem_filter (p := fun line => line.returnId = returnId) member)
    refine ⟨sound.sold, sound.balanced.lowered (total_nonneg fun line member => (each line member).1.le) qtyLe
      (total_nonneg fun line member => (each line member).2) moneyLe fun nothing => ?_⟩
    exact total_of_absent (absent_of_total_eq_zero (fun line member => (each line member).1) nothing)
  · intro orderItemId item present
    obtain ⟨before, was, rfl⟩ := back orderItemId item present
    rw [ReturnsDb.standing, standing_rejected standing _ rejected, ← sums.returned orderItemId before was]
    rfl
  · intro orderItemId item present
    obtain ⟨before, was, rfl⟩ := back orderItemId item present
    rw [ReturnsDb.standing, standing_rejected standing _ rejected, ← sums.refunded orderItemId before was]
    rfl
  · intro line member
    exact sums.positive line member
  · intro line member
    rw [lookup_insert_if]
    split
    · simp
    · exact sums.filed line member
  · intro line member
    dsimp only
    rw [moved, ne_eq, Option.map_eq_none_iff]
    exact sums.sold line member

/-- A transaction that may rewrite one return, from one status that stands to another. -/
def ReturnsDb.Rewrites (db after : ReturnsDb) : Prop :=
  after.orderItems = db.orderItems ∧ after.returnItems = db.returnItems ∧ after.refundRequests = db.refundRequests ∧
    (after.returns = db.returns ∨ ∃ returnId old new, db.returns.lookup returnId = some old ∧
      after.returns = db.returns.insert returnId new ∧ old.status ≠ .rejected ∧ new.status ≠ .rejected)

theorem ReturnsDb.Rewrites.refl (db : ReturnsDb) : db.Rewrites db := ⟨rfl, rfl, rfl, .inl rfl⟩

theorem ReturnsDb.Rewrites.addsUp (rewrites : db.Rewrites after) (sums : db.AddsUp) : after.AddsUp := by
  obtain ⟨items, lines, _, same | ⟨returnId, old, new, found, returns, both⟩⟩ := rewrites
  · exact sums.moved items lines (fun _ => by rw [same]) fun _ present => by rwa [same]
  · exact sums.rewritten found items lines returns both

theorem approveReturn_rewrites (ran : approveReturn db returnId actorId scope = .ok after) : db.Rewrites after := by
  rw [approveReturn, bind_eq_ok] at ran
  obtain ⟨ret, locked, ran⟩ := ran
  split at ran
  · exact pure_eq_ok.mp ran ▸ .refl db
  · simp only [eq_ok] at ran
    obtain ⟨_, requested, rfl⟩ := ran
    exact ⟨rfl, rfl, rfl, .inr ⟨returnId, ret, _, lockReturn_ok locked, rfl, by simp [requested], by simp⟩⟩

theorem markReturned_eq (db : ReturnsDb) (orderId : Uuid) : ∃ orders, db.markReturned orderId = { db with orders } ∧
    ∀ other, orders.lookup other = if other = orderId then (db.orders.lookup other).map fun order =>
      { order with fulfillmentStatus := .returned, version := order.version + 1 } else db.orders.lookup other := by
  rw [markReturned]
  cases found : db.orders.lookup orderId with
  | none =>
    refine ⟨db.orders, rfl, fun other => ?_⟩
    by_cases same : other = orderId
    · rw [if_pos same, same, found, Option.map_none]
    · rw [if_neg same]
  | some order =>
    refine ⟨_, rfl, fun other => ?_⟩
    rw [lookup_insert_if]
    by_cases same : other = orderId
    · rw [if_pos same, if_pos same, same, found, Option.map_some]
    · rw [if_neg same, if_neg same]

/-- All that receiving a return changes. -/
theorem receiveReturn_cases (ran : receiveReturn db returnId actorId scope answer = .ok after) : after = db ∨
    ∃ ret new returned orders outbox, db.returns.lookup returnId = some ret ∧ ¬(ret.status = .completed ∨ ret.status = .received) ∧
      ret.status ≠ .rejected ∧ ret.status ≠ .requested ∧ new.status = .completed ∧ new.orderId = ret.orderId ∧
      allReturned (db.itemsOf ret.orderId) = .ok returned ∧
      (∀ other, orders.lookup other = if returned = true ∧ other = ret.orderId then (db.orders.lookup other).map fun order =>
        { order with fulfillmentStatus := .returned, version := order.version + 1 } else db.orders.lookup other) ∧
      after = { db with orders, outbox, returns := db.returns.insert returnId new } := by
  rw [receiveReturn, bind_eq_ok] at ran
  obtain ⟨ret, locked, ran⟩ := ran
  split at ran
  · exact .inl (pure_eq_ok.mp ran).symm
  next pending =>
  simp only [eq_ok] at ran
  obtain ⟨_, standing, _, asked, receipt, _, returned, checked, rfl⟩ := ran
  have found := lockReturn_ok locked
  generalize (db.orders.lookup ret.orderId).bind (·.warehouseId) = warehouseId
  cases returned with
  | true =>
    obtain ⟨orders, marked, looked⟩ := markReturned_eq { db with
      returns := db.returns.insert returnId (ret.complete warehouseId actorId receipt) } ret.orderId
    simp only [↓reduceIte]
    rw [marked]
    exact .inr ⟨ret, ret.complete warehouseId actorId receipt, true, orders, _, found, pending,
      standing, asked, rfl, rfl, checked, by simpa using looked, rfl⟩
  | false =>
    exact .inr ⟨ret, ret.complete warehouseId actorId receipt, false, db.orders, _, found, pending, standing, asked, rfl, rfl,
      checked, by simp, rfl⟩

theorem receiveReturn_rewrites (ran : receiveReturn db returnId actorId scope answer = .ok after) : db.Rewrites after := by
  obtain rfl | ⟨ret, new, _, _, _, found, _, standing, _, completed, _, _, _, rfl⟩ := receiveReturn_cases ran
  · exact .refl _
  · exact ⟨rfl, rfl, rfl, .inr ⟨returnId, ret, new, found, rfl, standing, by simp [completed]⟩⟩

/-- A refund request is the first of an approved return and asks for no more than the return is worth; a repeated
one writes nothing. -/
theorem createRefundRequest_ok {requestId entryId latestShift key dto}
    (ran : createRefundRequest db requestId entryId returnId actorId scope key dto latestShift = .ok after) :
    after.orderItems = db.orderItems ∧ after.returns = db.returns ∧ after.returnItems = db.returnItems ∧
      (after.refundRequests = db.refundRequests ∨ ∃ ret request, after.refundRequests = db.refundRequests ++ [request] ∧
        db.returns.lookup returnId = some ret ∧ ret.status ≠ .rejected ∧ request.returnId = returnId ∧
        request.amount ≤ ret.totalRefundAmount ∧ ∀ other ∈ db.refundRequests, other.returnId ≠ returnId) := by
  rw [createRefundRequest, bind_eq_ok] at ran
  obtain ⟨ret, locked, ran⟩ := ran
  split at ran
  · simp only [eq_ok] at ran
    obtain ⟨_, _, rfl⟩ := ran
    exact ⟨rfl, rfl, rfl, .inl rfl⟩
  · simp only [assertRefundable, eq_ok] at ran
    obtain ⟨_, status, _, _, _, _, requested, _, _, ⟨amounts, parsed, _, within, _, first, _⟩, shiftId, _, amount, exact_,
      _, _, _, _, _, _, rfl⟩ := ran
    refine ⟨rfl, rfl, rfl, .inr ⟨ret, _, rfl, lockReturn_ok locked, ?_, rfl, ?_, ?_⟩⟩
    · rintro rejected
      simp [rejected] at status
    · rw [first, mapM_nil, pure_eq_ok] at parsed
      rw [← parsed, sum_nil, zero_add] at within
      exact vndNumber_ok exact_ ▸ within
    · intro other member same
      have listed : other ∈ db.refundRequests.filter (·.returnId = returnId) := mem_filter.mpr ⟨member, by simp [same]⟩
      rw [first] at listed
      cases listed

theorem createReturn_addsUp {code dto}
    (sums : db.AddsUp) : (createReturn db returnId code actorId scope dto answer).1.AddsUp := by
  unfold createReturn
  split
  · exact sums
  · next created row =>
    have made := createReturnRow_addsUp sums row
    split
    · split
      · next received => exact (receiveReturn_rewrites received).addsUp made
      · exact made
    · exact made

theorem performReturn_addsUp (sums : db.AddsUp) (operation : ReturnOperation) : (performReturn db operation).AddsUp := by
  cases operation with
  | placeOrder orderId order lines => exact commit_preserves _ sums fun _ placed => placeOrder_addsUp sums placed
  | changeOrder orderId order => exact sums.moved rfl rfl (fun _ => rfl) fun _ present => present
  | shift operation => exact sums.moved rfl rfl (fun _ => rfl) fun _ present => present
  | createReturn returnId code actorId scope dto answer => exact createReturn_addsUp sums
  | approveReturn returnId actorId scope =>
    exact commit_preserves _ sums fun _ ran => (approveReturn_rewrites ran).addsUp sums
  | rejectReturn returnId scope reason =>
    exact commit_preserves _ sums fun _ ran => rejectReturn_addsUp sums ran
  | receiveReturn returnId actorId scope answer =>
    exact commit_preserves _ sums fun _ ran => (receiveReturn_rewrites ran).addsUp sums
  | createRefundRequest requestId entryId returnId actorId scope key dto latestShift =>
    refine commit_preserves _ sums fun after ran => ?_
    obtain ⟨items, returns, lines, _⟩ := createRefundRequest_ok ran
    refine sums.moved items lines (fun _ => by rw [returns]) fun _ present => ?_
    rwa [returns]

theorem returnsAfter_addsUp (operations : List ReturnOperation) : (returnsAfter operations).AddsUp :=
  Run.invariant AddsUp (fun _ operation sums => performReturn_addsUp sums operation) addsUp_empty operations

/-- After any requests the counters of an order line are the sums over its returns that are not rejected, within what was sold
and for how much, and a line that is wholly back is wholly refunded. The floor at zero of a rejection never matters. -/
theorem return_counters_exact (operations : List ReturnOperation) :
    (∀ orderItemId item, (returnsAfter operations).orderItems.lookup orderItemId = some item →
      (0 ≤ item.returnedQty ∧ item.returnedQty ≤ item.qty) ∧
      (0 ≤ item.refundedAmount ∧ item.refundedAmount ≤ item.lineTotal) ∧
      (item.returnedQty = item.qty → item.refundedAmount = item.lineTotal) ∧
      item.returnedQty = (returnsAfter operations).standing (·.returnQty) orderItemId ∧
      item.refundedAmount = (returnsAfter operations).standing (·.refundAmount) orderItemId) ∧
    ∀ returnId scope reason, rejectReturn (returnsAfter operations) returnId scope reason =
      rejectReturnWith id (returnsAfter operations) returnId scope reason := by
  have sums := returnsAfter_addsUp operations
  refine ⟨fun orderItemId item found => ?_, fun returnId scope reason => sums.floor returnId scope reason⟩
  obtain ⟨nonneg, le, paid, bound, full⟩ := (sums.sound orderItemId item found).balanced
  exact ⟨⟨nonneg, le⟩, ⟨paid, bound⟩, full, sums.returned orderItemId item found, sums.refunded orderItemId item found⟩

def soldRice : SoldLine where
  variantId := some 5
  sku := "RICE"
  name := "Rice"
  qty := 1000
  baseQty := 1000
  unitPrice := 100
  lineNet := 100
  taxAmount := 0
  lineTotal := 100
  unitCostSnapshot := 60
  sold := by decide
  priced := by decide

def riceSale : ReturnOperation :=
  .placeOrder 1 { code := "HD000001", branchId := 1, warehouseId := some 2, orderStatus := .completed, paymentStatus := .paid
                  fulfillmentStatus := .fulfilled, grandTotal := 200, totalAmount := 200, paidAmount := 200 }
    [(7, soldRice), (8, soldRice)]

def returnRice (returnId : Uuid) (qty : String) : ReturnOperation :=
  .createReturn returnId "TH000001" 3 none { orderId := 1, items := [{ orderItemId := 7, returnQty := qty }] }
    fun _ => .ok 0

theorem return_counters_exact_rejected :
    (∃ item, (returnsAfter [riceSale, returnRice 20 "0.4", .rejectReturn 20 none none, returnRice 21 "1"]).orderItems.lookup 7 =
      some item ∧ item.returnedQty = 1000 ∧ item.refundedAmount = 100) ∧
    ∀ item, (returnsAfter [riceSale, returnRice 20 "0.4", .rejectReturn 20 none none, returnRice 21 "1"]).orderItems.lookup 7 =
      some item → item.refundedAmount ≤ item.lineTotal := by
  constructor
  · have paid : ((returnsAfter [riceSale, returnRice 20 "0.4", .rejectReturn 20 none none, returnRice 21 "1"]).orderItems.lookup
        7).any (fun item => item.returnedQty = 1000 ∧ item.refundedAmount = 100) = true := by decide +kernel
    simpa [Option.any_eq_true] using paid
  · intro item found
    exact ((return_counters_exact _).1 7 item found).2.1.2

/-- All but a gram of a kilogram comes back, and its share rounds to the whole price. -/
theorem refunded_before_returned :
    ¬∀ operations orderItemId item, (returnsAfter operations).orderItems.lookup orderItemId = some item →
      (item.refundedAmount = item.lineTotal ↔ item.returnedQty = item.qty) := by
  intro claim
  have early : ((returnsAfter [riceSale, returnRice 20 "0.999"]).orderItems.lookup 7).any
      (fun item => item.refundedAmount = item.lineTotal ∧ item.returnedQty ≠ item.qty) = true := by decide +kernel
  obtain ⟨item, found, facts⟩ := (Option.any_eq_true _ _).mp early
  obtain ⟨refunded, partly⟩ := of_decide_eq_true facts
  exact partly ((claim _ 7 item found).mp refunded)

end Sales
