import RetailApi.Proofs.CheckoutOnce
import RetailApi.Proofs.StockOperations
import RetailApi.Sales.StockFlow

/-! Which stock a POS sale is deducted from. Its reservation is filed under the workflow and its
completed order is looked up under the order, so inventory takes the order for one of the older
store and deducts it there as well. -/

namespace Inventory

open Transaction LegacyStock List

/-- A completed order that the older store has nothing to do for: it has no line and no hold, its hold is committed,
or its hold is for more than is on hold. -/
def LegacyStock.Spares (legacy : LegacyStock) (order : OrderCompletedPayload) : Prop :=
  match legacy.reservations.lookup order.orderId with
  | none => order.items = []
  | some row => row.status = .committed ∨
      row.status = .held ∧ ∃ line ∈ row.items, legacy.reservedQty ⟨row.branchId, line.sku⟩ < line.quantity

section Lines

variable {legacy after : LegacyStock} {orderId branchId : Uuid}

theorem stockItem_legal {key item} (found : legacy.stockItem key = some item) : item.Legal := by
  obtain ⟨row, _, rfl⟩ := Option.map_eq_some_iff.mp found
  exact row.2

theorem deduct_ok (legacy : LegacyStock) (orderId : Uuid) {sku take fromHold item}
    (found : legacy.stockItem ⟨branchId, sku⟩ = some item)
    (legal : (⟨item.quantityOnHand - take, item.quantityReserved - fromHold⟩ : StockItem).Legal) :
    ∃ after, deduct legacy orderId branchId sku take fromHold = .ok after ∧
      after.ledger.length = legacy.ledger.length + 1 ∧ after.reservations = legacy.reservations ∧
      ∀ other, other ≠ ⟨branchId, sku⟩ → after.stockItem other = legacy.stockItem other := by
  let written : LegacyStock := { legacy with stockItems := legacy.stockItems.insert ⟨branchId, sku⟩ ⟨_, legal⟩ }
  refine ⟨written.insertLedger ⟨branchId, sku, -take, item.quantityOnHand - take, .sale, orderId⟩, ?_, ?_, rfl, ?_⟩
  · simp only [deduct, eq_ok]
    exact ⟨item, found, written, dif_pos legal, rfl⟩
  · simp [insertLedger, written]
  · intro other different
    simp [insertLedger, stockItem, written, AList.lookup_insert_ne different]

variable {line : SkuLine} {lines : List SkuLine}

theorem deductFree_ok (positive : 0 < line.quantity) :
    ∃ after, deductFree orderId branchId legacy line = .ok after ∧ legacy.ledger.length < after.ledger.length ∧
      after.reservations = legacy.reservations := by
  unfold deductFree
  by_cases short : min line.quantity (max 0 (legacy.free ⟨branchId, line.sku⟩)) = 0
  · rw [if_pos short, if_pos (by omega)]
    exact ⟨_, rfl, by simp [insertLedger], rfl⟩
  · rw [if_neg short]
    cases found : legacy.stockItem ⟨branchId, line.sku⟩ with
    | none =>
      have nothing : legacy.free ⟨branchId, line.sku⟩ = 0 := by simp [free, found]
      omega
    | some item =>
      have free : legacy.free ⟨branchId, line.sku⟩ = item.quantityOnHand - item.quantityReserved := by
        simp [free, found]
      have before := stockItem_legal found
      have legal : (⟨item.quantityOnHand - min line.quantity (max 0 (legacy.free ⟨branchId, line.sku⟩)),
          item.quantityReserved - 0⟩ : StockItem).Legal := by
        unfold StockItem.Legal at before ⊢
        rw [free]
        simp only
        omega
      split
      · obtain ⟨after, deducted, longer, reservations, _⟩ := deduct_ok (legacy.insertLedger _) orderId found legal
        refine ⟨after, deducted, ?_, reservations⟩
        simp only [insertLedger, length_append] at longer
        omega
      · obtain ⟨after, deducted, longer, reservations, _⟩ := deduct_ok legacy orderId found legal
        exact ⟨after, deducted, by omega, reservations⟩

theorem deductFree_loop (legacy : LegacyStock) (orderId branchId : Uuid) (positive : ∀ line ∈ lines, 0 < line.quantity) :
    ∃ after, lines.foldlM (deductFree orderId branchId) legacy = .ok after ∧
      legacy.ledger.length + lines.length ≤ after.ledger.length ∧ after.reservations = legacy.reservations := by
  induction lines generalizing legacy with
  | nil => exact ⟨legacy, rfl, Nat.le_refl _, rfl⟩
  | cons line lines inner =>
    obtain ⟨middle, stepped, longer, same⟩ := deductFree_ok (positive line (.head _))
    obtain ⟨after, ran, length, reservations⟩ := inner middle fun other member => positive other (.tail _ member)
    refine ⟨after, foldlM_cons.mpr ⟨middle, stepped, ran⟩, ?_, reservations.trans same⟩
    rw [length_cons]
    omega

theorem deductHeld_ok (orderId : Uuid) (positive : 0 < line.quantity)
    (covered : line.quantity ≤ legacy.reservedQty ⟨branchId, line.sku⟩) :
    ∃ after, deductHeld orderId branchId legacy line = .ok after ∧ after.reservations = legacy.reservations ∧
      ∀ other, other ≠ ⟨branchId, line.sku⟩ → after.reservedQty other = legacy.reservedQty other := by
  cases found : legacy.stockItem ⟨branchId, line.sku⟩ with
  | none =>
    simp only [reservedQty, found, Option.map_none, Option.getD_none] at covered
    omega
  | some item =>
    simp only [reservedQty, found, Option.map_some, Option.getD_some] at covered
    have before := stockItem_legal found
    have legal : (⟨item.quantityOnHand - line.quantity, item.quantityReserved - line.quantity⟩ : StockItem).Legal := by
      unfold StockItem.Legal at before ⊢
      simp only
      omega
    obtain ⟨after, deducted, _, reservations, others⟩ := deduct_ok legacy orderId found legal
    refine ⟨after, deducted, reservations, fun other different => ?_⟩
    rw [reservedQty, reservedQty, others other different]

theorem deductHeld_error (orderId : Uuid) (uncovered : legacy.reservedQty ⟨branchId, line.sku⟩ < line.quantity) :
    ∃ failure, deductHeld orderId branchId legacy line = .error failure := by
  cases outcome : deductHeld orderId branchId legacy line with
  | error failure => exact ⟨failure, rfl⟩
  | ok after =>
    simp only [deductHeld, deduct, eq_ok] at outcome
    obtain ⟨item, found, written, accepted, _⟩ := outcome
    simp only [reservedQty, found, Option.map_some, Option.getD_some] at uncovered
    unfold writeStockItem at accepted
    split at accepted
    · next legal =>
      have reserved := legal.1
      simp only at reserved
      omega
    · cases accepted

theorem deductHeld_loop (orderId : Uuid) (distinct : (lines.map (·.sku)).Nodup) (positive : ∀ line ∈ lines, 0 < line.quantity)
    (covered : ∀ line ∈ lines, line.quantity ≤ legacy.reservedQty ⟨branchId, line.sku⟩) :
    ∃ after, lines.foldlM (deductHeld orderId branchId) legacy = .ok after ∧ after.reservations = legacy.reservations := by
  induction lines generalizing legacy with
  | nil => exact ⟨legacy, rfl, rfl⟩
  | cons line lines inner =>
    rw [map_cons, nodup_cons] at distinct
    obtain ⟨middle, stepped, same, others⟩ := deductHeld_ok orderId (positive line (.head _)) (covered line (.head _))
    have rest : ∀ other ∈ lines, other.quantity ≤ middle.reservedQty ⟨branchId, other.sku⟩ := by
      intro other member
      have different : (⟨branchId, other.sku⟩ : LegacyKey) ≠ ⟨branchId, line.sku⟩ := by
        intro clash
        exact distinct.1 ((LegacyKey.mk.inj clash).2 ▸ mem_map_of_mem member)
      rw [others _ different]
      exact covered other (.tail _ member)
    obtain ⟨after, ran, reservations⟩ := inner distinct.2 (fun other member => positive other (.tail _ member)) rest
    exact ⟨after, foldlM_cons.mpr ⟨middle, stepped, ran⟩, reservations.trans same⟩

theorem deductHeld_loop_error (orderId : Uuid) (distinct : (lines.map (·.sku)).Nodup)
    (positive : ∀ line ∈ lines, 0 < line.quantity)
    (uncovered : ∃ line ∈ lines, legacy.reservedQty ⟨branchId, line.sku⟩ < line.quantity) :
    ∃ failure, lines.foldlM (deductHeld orderId branchId) legacy = .error failure := by
  induction lines generalizing legacy with
  | nil =>
    obtain ⟨_, member, _⟩ := uncovered
    cases member
  | cons line lines inner =>
    rw [List.map_cons, List.nodup_cons] at distinct
    rw [List.foldlM_cons]
    by_cases short : legacy.reservedQty ⟨branchId, line.sku⟩ < line.quantity
    · obtain ⟨failure, failed⟩ := deductHeld_error orderId short
      rw [failed]
      exact ⟨failure, rfl⟩
    · obtain ⟨middle, stepped, _, others⟩ := deductHeld_ok orderId (positive line (.head _)) (Int.not_lt.mp short)
      rw [stepped]
      refine inner distinct.2 (fun other member => positive other (.tail _ member)) ?_
      obtain ⟨other, member, below⟩ := uncovered
      rcases List.mem_cons.mp member with rfl | later
      · exact absurd below short
      · have different : (⟨branchId, other.sku⟩ : LegacyKey) ≠ ⟨branchId, line.sku⟩ := by
          intro clash
          exact distinct.1 ((LegacyKey.mk.inj clash).2 ▸ List.mem_map_of_mem later)
        exact ⟨other, later, by rwa [others _ different]⟩

theorem orderLines_perm (lines : List SkuLine) : (orderLines lines).Perm lines := perm_insertionSort _ lines

theorem mergeLines_positive (positive : ∀ line ∈ lines, 0 < line.quantity) : ∀ line ∈ mergeLines lines, 0 < line.quantity := by
  intro line member
  refine Merge.forall_foldl_insert ?_ positive (by simp) line ((orderLines_perm _).mem_iff.mp member)
  intro first second _ above below
  exact Int.add_pos above below

theorem mergeLines_eq_nil : mergeLines lines = [] ↔ lines = [] := by
  rw [mergeLines, ← length_eq_zero_iff, (orderLines_perm _).length_eq, length_eq_zero_iff,
    Merge.foldl_insert_eq_nil]
  simp

theorem markCommitted_ne {after : LegacyStock} {row} (found : legacy.reservations.lookup orderId = some row)
    (open_ : row.status ≠ .committed) : after.markCommitted orderId row ≠ legacy := by
  intro same
  have now : (after.markCommitted orderId row).reservations.lookup orderId = some { row with status := .committed } :=
    Table.lookup_insert_self _ _ _
  rw [same, found] at now
  exact open_ (congrArg StockReservation.status (Option.some.inj now))

theorem commitCompleted_spares {order : OrderCompletedPayload} (positive : ∀ line ∈ order.items, 0 < line.quantity) :
    commit legacy (commitCompleted legacy order) = legacy ↔ legacy.Spares order := by
  unfold commitCompleted Spares
  cases found : legacy.reservations.lookup order.orderId with
  | none =>
    obtain ⟨after, ran, longer, _⟩ := deductFree_loop legacy order.orderId order.branchId (mergeLines_positive positive)
    simp only [ran, Transaction.commit]
    refine ⟨fun same => ?_, fun empty => ?_⟩
    · rw [same] at longer
      exact mergeLines_eq_nil.mp (length_eq_zero_iff.mp (by omega))
    · rw [mergeLines_eq_nil.mpr empty] at ran
      exact (foldlM_nil.mp ran).symm
  | some row =>
    cases status : row.status with
    | committed => simp [status, Transaction.commit]
    | held =>
      have distinct : ((orderLines row.items).map (·.sku)).Nodup :=
        (((orderLines_perm row.items).map _).nodup_iff).mpr row.distinct
      have members : ∀ line, line ∈ orderLines row.items ↔ line ∈ row.items := fun _ => (orderLines_perm row.items).mem_iff
      have amounts : ∀ line ∈ orderLines row.items, 0 < line.quantity :=
        fun line member => row.positive line ((members line).mp member)
      by_cases short : ∃ line ∈ row.items, legacy.reservedQty ⟨row.branchId, line.sku⟩ < line.quantity
      · obtain ⟨line, member, below⟩ := short
        obtain ⟨failure, failed⟩ := deductHeld_loop_error order.orderId distinct amounts
          ⟨line, (members line).mpr member, below⟩
        simp only [status, failed, bind, Except.bind, Transaction.commit, true_iff]
        exact .inr ⟨trivial, line, member, below⟩
      · have covered : ∀ line ∈ orderLines row.items, line.quantity ≤ legacy.reservedQty ⟨row.branchId, line.sku⟩ := by
          intro line member
          by_contra below
          exact short ⟨line, (members line).mp member, Int.not_le.mp below⟩
        obtain ⟨after, ran, _⟩ := deductHeld_loop order.orderId distinct amounts covered
        simp only [status, ran, bind, Except.bind, pure, Except.pure, Transaction.commit]
        refine ⟨fun same => absurd same (markCommitted_ne found (by rw [status]; decide)), ?_⟩
        rintro (committed | ⟨_, uncovered⟩)
        · cases committed
        · exact absurd uncovered short
    | released | expired =>
      obtain ⟨after, ran, _⟩ := deductFree_loop legacy order.orderId row.branchId (mergeLines_positive positive)
      simp only [status, ran, bind, Except.bind, pure, Except.pure, Transaction.commit]
      refine ⟨fun same => absurd same (markCommitted_ne found (by rw [status]; decide)), ?_⟩
      rintro (committed | ⟨held, _⟩)
      · cases committed
      · cases held

end Lines

/-- An order that the handler skips, or that the older store has nothing to do for. -/
def InventoryDb.Spares (db : InventoryDb) (order : OrderCompletedPayload) : Prop :=
  hasWarehouseReservation db.store order.orderId = true ∨ db.legacy.Spares order

section Consumer

theorem onCompleted_inbox {db after order} (handled : onCompleted db order = .ok after) : after.inbox = db.inbox := by
  unfold onCompleted at handled
  split at handled
  · cases handled
    rfl
  · simp only [eq_ok] at handled
    obtain ⟨legacy, _, rfl⟩ := handled
    rfl

section

variable (db : InventoryDb) (event : CompletedEvent)
include db event

theorem handleCompleted_twice :
    handleCompleted (handleCompleted db event) event = handleCompleted db event := by
  by_cases known : event.id ∈ db.inbox
  · simp only [handleCompleted, if_pos known]
  · cases outcome : onCompleted { db with inbox := db.inbox ++ [event.id] } event.payload with
    | error failure =>
      have same : handleCompleted db event = db := by simp only [handleCompleted, if_neg known, outcome, Transaction.commit]
      rw [same, same]
    | ok after =>
      have handled : handleCompleted db event = after := by
        simp only [handleCompleted, if_neg known, outcome, Transaction.commit]
      have recorded : event.id ∈ after.inbox := by
        rw [onCompleted_inbox outcome]
        simp
      rw [handled, handleCompleted, if_pos recorded]

theorem deliveries_once (deliveries : Nat) :
    (replicate (deliveries + 1) event).foldl handleCompleted db = handleCompleted db event := by
  induction deliveries generalizing db with
  | zero => rfl
  | succ deliveries inner =>
    rw [replicate_succ, foldl_cons, inner, handleCompleted_twice]

theorem handleCompleted_spares (fresh : event.id ∉ db.inbox) (positive : ∀ line ∈ event.payload.items, 0 < line.quantity) :
    (handleCompleted db event).legacy = db.legacy ↔ db.Spares event.payload := by
  rw [handleCompleted, if_neg fresh, onCompleted, InventoryDb.Spares]
  by_cases found : hasWarehouseReservation db.store event.payload.orderId = true
  · simp [found, Transaction.commit]
  · rw [if_neg found, ← commitCompleted_spares positive]
    cases outcome : commitCompleted db.legacy event.payload <;>
      simp [found, bind, Except.bind, pure, Except.pure, Transaction.commit]

end

end Consumer

section Warehouse

variable {store : Store} {orderId : Uuid}

theorem hasWarehouseReservation_iff : hasWarehouseReservation store orderId = true ↔
    ∃ id row, store.reservations.lookup id = some row ∧ row.sourceRefType = .order ∧ row.sourceRefId = orderId := by
  simp only [hasWarehouseReservation, Table.rows, any_eq_true, mem_map, decide_eq_true_eq]
  constructor
  · rintro ⟨row, ⟨entry, listed, rfl⟩, source⟩
    exact ⟨entry.1, entry.2, AList.mem_lookup_iff.mpr listed, source⟩
  · rintro ⟨id, row, found, source⟩
    exact ⟨row, ⟨⟨id, row⟩, AList.mem_lookup_iff.mp found, rfl⟩, source⟩

theorem hasWarehouseReservation_insert {after : Store} {id row} (written : after.reservations = store.reservations.insert id row)
    (same : ∀ before, store.reservations.lookup id = some before →
      before.sourceRefType = row.sourceRefType ∧ before.sourceRefId = row.sourceRefId)
    (other : store.reservations.lookup id = none → row.sourceRefId ≠ orderId) :
    hasWarehouseReservation after orderId = hasWarehouseReservation store orderId := by
  rw [Bool.eq_iff_iff, hasWarehouseReservation_iff, hasWarehouseReservation_iff, written]
  constructor
  · rintro ⟨found, stored, looked, kind, source⟩
    rw [Table.lookup_insert_if] at looked
    split at looked
    · cases looked
      cases before : store.reservations.lookup id with
      | none => exact absurd source (other before)
      | some earlier =>
        obtain ⟨sameKind, sameSource⟩ := same earlier before
        exact ⟨id, earlier, before, sameKind.trans kind, sameSource.trans source⟩
    · exact ⟨found, stored, looked, kind, source⟩
  · rintro ⟨found, stored, looked, kind, source⟩
    by_cases here : found = id
    · subst here
      obtain ⟨sameKind, sameSource⟩ := same stored looked
      exact ⟨found, row, Table.lookup_insert_self _ _ _, sameKind.symm.trans kind, sameSource.symm.trans source⟩
    · exact ⟨found, stored, by rw [Table.lookup_insert_if, if_neg here]; exact looked, kind, source⟩

variable {reservationId : Uuid}

theorem reserve_unseen {now key} {req} (other : req.sourceRefId ≠ orderId) :
    hasWarehouseReservation (perform store (.reserve reservationId now key req)) orderId =
      hasWarehouseReservation store orderId := by
  rw [perform]
  refine commit_preserves (fun after => hasWarehouseReservation after orderId = hasWarehouseReservation store orderId) rfl ?_
  intro after ran
  simp only [execute, eq_ok] at ran
  obtain ⟨result, reserved, rfl⟩ := ran
  rcases reserveWarehouseStock_ok reserved with same | ⟨reservation, free, _, source, _, records⟩
  · rw [same]
  · have written : result.1.reservations = store.reservations.insert reservationId reservation := by rw [records]
    refine hasWarehouseReservation_insert written ?_ fun _ => by rw [source.2]; exact other
    intro before found
    cases free.symm.trans found

theorem commitReservation_unseen {fulfillmentId} :
    hasWarehouseReservation (perform store (.commitReservation reservationId fulfillmentId)) orderId =
      hasWarehouseReservation store orderId := by
  rw [perform]
  refine commit_preserves (fun after => hasWarehouseReservation after orderId = hasWarehouseReservation store orderId) rfl ?_
  intro after ran
  rcases commitWarehouseReservation_ok ran with rfl | ⟨header, found, _, _, records⟩
  · rfl
  · have written : after.reservations = store.reservations.insert reservationId { header with state := .committed } := by
      rw [records]
    refine hasWarehouseReservation_insert written ?_ ?_
    · intro before same
      cases found.symm.trans same
      exact ⟨rfl, rfl⟩
    · intro missing
      cases found.symm.trans missing

end Warehouse

end Inventory

namespace Sales

variable {req : Inventory.CreateWarehouseReservationRequest}

theorem sellFromWarehouse_unseen {store orderId reservationId now key} (other : req.sourceRefId ≠ orderId) :
    Inventory.hasWarehouseReservation (sellFromWarehouse store reservationId now key req) orderId =
      Inventory.hasWarehouseReservation store orderId := by
  rw [sellFromWarehouse, Inventory.commitReservation_unseen, Inventory.reserve_unseen other]

def soldThrough (db : Inventory.InventoryDb) (reservationId : Uuid) (now : Nat) (key : String)
    (req : Inventory.CreateWarehouseReservationRequest) : Inventory.InventoryDb :=
  { db with store := sellFromWarehouse db.store reservationId now key req }

theorem soldThrough_legacy (db : Inventory.InventoryDb) (reservationId : Uuid) (now : Nat) (key : String)
    (req : Inventory.CreateWarehouseReservationRequest) : (soldThrough db reservationId now key req).legacy = db.legacy := by
  dsimp only [soldThrough]

theorem soldThrough_spares {db reservationId now key}
    {payload} (other : req.sourceRefId ≠ payload.orderId) :
    (soldThrough db reservationId now key req).Spares payload ↔ db.Spares payload := by
  rw [soldThrough, Inventory.InventoryDb.Spares, Inventory.InventoryDb.Spares, sellFromWarehouse_unseen other]

theorem completedPayload_positive (order : Order) : ∀ line ∈ order.completedPayload.items, 0 < line.quantity := by
  intro line member
  obtain ⟨item, _, rfl⟩ := List.mem_map.mp member
  simp only [roundedQuantity]
  omega

/-- A POS sale leaves the older store alone, however often its completed order is delivered, exactly where that store
or another reservation had it spared: the reservation of the sale itself makes no difference. -/
theorem pos_sale_spares_legacy_stock_iff (ids : CheckoutIds) (inputs : List CheckoutInput) (order : Order)
    (completed : order ∈ (checkoutAfter ids inputs).shared.db.orders) (apart : ids.checkoutId ≠ ids.orderId)
    (db : Inventory.InventoryDb) (reservationId : Uuid) (now : Nat) (key : String)
    (lines : List Inventory.ReservationLineInput) (eventId : Uuid) (fresh : eventId ∉ db.inbox) (deliveries : Nat) :
    ((List.replicate (deliveries + 1) ⟨eventId, order.completedPayload⟩).foldl Inventory.handleCompleted
      (soldThrough db reservationId now key
        (checkoutReserveRequest ids.checkoutId order.branchId lines))).legacy = db.legacy ↔
      db.Spares order.completedPayload := by
  have named : order.id = ids.orderId := (checkoutAfter_holds ids inputs).once.named order completed
  have other : (checkoutReserveRequest ids.checkoutId order.branchId lines).sourceRefId ≠ order.completedPayload.orderId := by
    rw [Order.completedPayload, named]
    exact apart
  have handled := Inventory.handleCompleted_spares
    (soldThrough db reservationId now key (checkoutReserveRequest ids.checkoutId order.branchId lines))
    ⟨eventId, order.completedPayload⟩ (by dsimp only [soldThrough]; exact fresh) (completedPayload_positive order)
  rw [soldThrough_legacy, soldThrough_spares other] at handled
  rw [Inventory.deliveries_once]
  exact handled

/-- A cash sale of one unit of variant 5 at branch 1, seen through to its order. -/
def paidSale : List CheckoutInput :=
  openTill ++ .call (cartSale [{ method := .cash, amount := 100000, tenderedCash := some 100000 }]) :: turns 0 12

/-- The warehouse of the branch, with a receipt of ten units of the variant. -/
def branchReceipt : List Inventory.Operation :=
  [.setWarehouse 3 { code := "W3", kind := .branch, branchId := some 1, isDefault := true, status := .active },
    .createReceipt 10 { code := "R1", warehouseId := 3, autoPost := true,
                        items := [{ skuId := .ofUuid 5, qty := "10", unitCost := some 60000 }] } none]

def stockedBranch : Inventory.Store := branchReceipt.foldl Inventory.perform {}

def stockedLegacy : Inventory.LegacyStock where
  stockItems := (∅ : Table Inventory.LegacyKey _).insert ⟨1, "SKU-5"⟩ ⟨⟨10, 0⟩, by decide⟩

def stockedTwice : Inventory.InventoryDb where
  store := stockedBranch
  legacy := stockedLegacy

/-- The same, with a hold of the older store that order 200 has already used. -/
def heldBefore : Inventory.InventoryDb where
  store := stockedBranch
  legacy :=
    { stockedLegacy with
      reservations := (∅ : Table Uuid _).insert 200 ⟨1, .committed, [], by decide, by decide⟩ }

def oneUnit : List Inventory.ReservationLineInput := [{ warehouseId := some (.ofUuid 3), skuId := .ofUuid 5, qty := "1.000" }]

theorem pos_sale_spares_legacy_stock_heldBefore :
    ∃ order ∈ (checkoutAfter saleIds paidSale).shared.db.orders,
      ((List.replicate 2 ⟨900, order.completedPayload⟩).foldl Inventory.handleCompleted
        (soldThrough heldBefore 300 0 "rsv-1" (checkoutReserveRequest saleIds.checkoutId order.branchId oneUnit))).legacy =
        heldBefore.legacy := by
  obtain ⟨order, completed⟩ := List.exists_mem_of_length_pos
    (show 0 < (checkoutAfter saleIds paidSale).shared.db.orders.length by decide +kernel)
  have named : order.id = 200 := (checkoutAfter_holds saleIds paidSale).once.named order completed
  refine ⟨order, completed, ?_⟩
  refine (pos_sale_spares_legacy_stock_iff saleIds paidSale order completed (by decide) heldBefore 300 0 "rsv-1" oneUnit 900
    (by decide) 1).mpr (.inr ?_)
  have found : heldBefore.legacy.reservations.lookup 200 = some ⟨1, .committed, [], by decide, by decide⟩ := rfl
  rw [Inventory.LegacyStock.Spares, Order.completedPayload, named, found]
  exact .inl rfl

/-- The sale takes a unit from the warehouse, and the completed order takes one from the older store. -/
theorem pos_sale_deducted_twice :
    ∃ order ∈ (checkoutAfter saleIds paidSale).shared.db.orders,
      let sold := soldThrough stockedTwice 300 0 "rsv-1" (checkoutReserveRequest saleIds.checkoutId order.branchId oneUnit)
      let handled := Inventory.handleCompleted sold ⟨900, order.completedPayload⟩
      sold.store.onHandQty ⟨3, 5⟩ = 9000 ∧ handled.legacy ≠ stockedTwice.legacy ∧
        (handled.legacy.stockItem ⟨1, "SKU-5"⟩).map (·.quantityOnHand) = some 9 := by
  obtain ⟨order, completed⟩ := List.exists_mem_of_length_pos
    (show 0 < (checkoutAfter saleIds paidSale).shared.db.orders.length by decide +kernel)
  have each : ((checkoutAfter saleIds paidSale).shared.db.orders.all fun order =>
      let sold := soldThrough stockedTwice 300 0 "rsv-1" (checkoutReserveRequest saleIds.checkoutId order.branchId oneUnit)
      let handled := Inventory.handleCompleted sold ⟨900, order.completedPayload⟩
      sold.store.onHandQty ⟨3, 5⟩ = 9000 ∧ handled.legacy.ledger.length ≠ stockedTwice.legacy.ledger.length ∧
        (handled.legacy.stockItem ⟨1, "SKU-5"⟩).map (·.quantityOnHand) = some 9) = true := by decide +kernel
  obtain ⟨warehouse, longer, older⟩ := of_decide_eq_true (List.all_eq_true.mp each order completed)
  exact ⟨order, completed, warehouse, fun same => longer (by rw [same]), older⟩

end Sales
