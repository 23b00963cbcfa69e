import RetailApi.Proofs.StockMoves

/-! What each operation does when it commits: how far it moves the quantities, and which
records it leaves behind. -/

namespace Inventory

open Transaction Change List Effect

section

variable {store after : Store}

theorem sum_changes_perm {α : Type} {first second : List α} (same : first.Perm second) (change : α → Change) :
    (first.map change).sum = (second.map change).sum :=
  (same.map change).sum_eq

def StockReceipt.change (receipt : StockReceipt) : Change :=
  (receipt.items.map fun item => row ⟨receipt.warehouseId, item.skuId⟩ item.qty 0 0).sum

variable {receiptId issueId reservationId : Uuid}

theorem postReceiptInTx_ok {idempotencyKey} (ran : postReceiptInTx store receiptId idempotencyKey = .ok after) :
    (after = store ∧ ∃ receipt, store.receipts.lookup receiptId = some receipt ∧ receipt.status = .posted) ∨
    ∃ receipt key, store.receipts.lookup receiptId = some receipt ∧ receipt.status ≠ .posted ∧ Moved store after receipt.change ∧
      after.toRecords = { store.toRecords with
        receipts := store.receipts.insert receiptId { receipt with status := .posted, idempotencyKey := key } } := by
  simp only [postReceiptInTx, eq_ok] at ran
  obtain ⟨receipt, found, decision, decided, ran⟩ := ran
  have decides : (decision = .idempotentReplay ↔ receipt.status = .posted) := by
    unfold evaluateStockReceiptPostTransition at decided
    split at decided
    · next posted =>
      simp only [eq_ok] at decided
      obtain ⟨_, _, rfl⟩ := decided
      simp [posted]
    · next open_ =>
      simp only [eq_ok] at decided
      obtain ⟨_, _, rfl⟩ := decided
      simp [open_]
  split at ran
  · next replayed => exact .inl ⟨(pure_eq_ok.mp ran).symm, receipt, found, decides.mp replayed⟩
  · next proceeds =>
    simp only [eq_ok] at ran
    obtain ⟨_, _, middle, posted, _, _, total, _, rfl⟩ := ran
    have effect := loop (fun item => row ⟨receipt.warehouseId, item.skuId⟩ item.qty 0 0)
      (fun _ _ _ _ _ _ _ stepped => postReceiptItem_effect stepped) posted
    rw [sum_changes_perm (orderBySku_perm _ receipt.items)] at effect
    refine .inr ⟨receipt, receipt.idempotencyKey <|> trimmedKey idempotencyKey, found, fun posted =>
      proceeds (decides.mpr posted), effect.toMoved.inStore rfl rfl, ?_⟩
    rw [← effect.records]
    rfl

theorem createReceiptInTx_ok {answered dto idempotencyKey}
    (executed : createReceiptInTx store receiptId dto idempotencyKey = .ok (after, answered)) :
    (after = store ∧ ∃ found, findReceiptByKey store (cleanKey idempotencyKey) = some found) ∨
    ∃ receipt : StockReceipt, ∃ merged, findReceiptByKey store (cleanKey idempotencyKey) = none ∧
      store.receipts.lookup receiptId = none ∧
      receipt.warehouseId = dto.warehouseId ∧ receipt.purchaseOrderId = dto.purchaseOrderId ∧ receipt.status = .draft ∧
      receipt.idempotencyKey = cleanKey idempotencyKey ∧ dto.items.foldlM (mergeReceiptItem store) [] = .ok merged ∧
      (merged.insertionSort fun left right => left.skuId.le right.skuId = true).mapM insertReceiptItem = .ok receipt.items ∧
      (if dto.autoPost then postReceiptInTx { store with receipts := store.receipts.insert receiptId receipt } receiptId
          (cleanKey idempotencyKey) = .ok after
        else after = { store with receipts := store.receipts.insert receiptId receipt }) := by
  simp only [createReceiptInTx] at executed
  split at executed
  · next existing replayed found =>
    simp only [pure_eq_ok, Prod.mk.injEq] at executed
    exact .inl ⟨executed.1.symm, _, found⟩
  · next fresh =>
    simp only [eq_ok] at executed
    obtain ⟨_, _, merged, collected, _, free, _, _, items, inserted, executed⟩ := executed
    refine .inr ⟨{ code := dto.code, warehouseId := dto.warehouseId, sourceType := dto.sourceType
                   purchaseOrderId := dto.purchaseOrderId, supplierId := dto.supplierId
                   status := .draft, idempotencyKey := cleanKey idempotencyKey, items }, merged,
      fresh, free, rfl, rfl, rfl, rfl, collected, inserted, ?_⟩
    split at executed
    · next post =>
      simp only [eq_ok, Prod.mk.injEq] at executed
      obtain ⟨posted, ran, rfl, _⟩ := executed
      rw [if_pos post]
      exact ran
    · next draft =>
      simp only [pure_eq_ok, Prod.mk.injEq] at executed
      rw [if_neg draft]
      exact executed.1.symm

def StockIssue.change (issue : StockIssue) : Change :=
  (issue.items.map fun item => row ⟨issue.warehouseId, item.skuId⟩ (-item.qty) 0 0).sum

theorem nodup_split {α β : Type} {key : α → β} {finished rest} {item}
    (distinct : ((finished ++ item :: rest).map key).Nodup) : ∀ other ∈ finished, key other ≠ key item := by
  intro other member same
  rw [map_append, map_cons, nodup_append] at distinct
  exact distinct.2.2 (key other) (mem_map_of_mem member) (key item) (by simp) same

def Store.DraftNamesSkusOnce (store : Store) (issueId : Uuid) : Prop :=
  ∀ issue, store.issues.lookup issueId = some issue → issue.status = .draft → (issue.items.map (·.skuId)).Nodup

theorem postIssueInTx_ok {idempotencyKey} (distinct : store.DraftNamesSkusOnce issueId)
    (ran : postIssueInTx store issueId idempotencyKey = .ok after) :
    after = store ∨ ∃ issue posted, store.issues.lookup issueId = some issue ∧ Moved store after issue.change ∧
      after.toRecords = { store.toRecords with issues := store.issues.insert issueId posted } := by
  simp only [postIssueInTx, eq_ok] at ran
  obtain ⟨issue, found, ran⟩ := ran
  split at ran
  · simp only [eq_ok] at ran
    obtain ⟨_, _, rfl⟩ := ran
    exact .inl rfl
  · simp only [eq_ok] at ran
    obtain ⟨_, draft, _, _, _, enough, middle, posted, _, _, rfl⟩ := ran
    have ordered := orderBySku_perm (·.skuId) issue.items
    have apart := orderBySku_nodup (distinct issue found draft)
    -- a line still finds its balance as locked: earlier lines are of other SKUs
    have effect := loop_apart
      (fun item : StockIssueItem => row ⟨issue.warehouseId, item.skuId⟩ (-item.qty) 0 0)
      (fun item : StockIssueItem => {key | key = ⟨issue.warehouseId, item.skuId⟩})
      (fun finished item rest before next whole _ untouched stepped => by
        have fresh := nodup_split (whole ▸ apart)
        have kept := untouched ⟨issue.warehouseId, item.skuId⟩ fun other member same =>
          fresh other member (congrArg Key.skuId same).symm
        have inside : item ∈ orderBySku (·.skuId) issue.items := by simp [whole]
        exact postIssueItem_effect rfl kept (enough item inside) stepped) posted
    rw [sum_changes_perm ordered] at effect
    refine .inr ⟨issue, { issue with
        status := .posted, idempotencyKey := issue.idempotencyKey <|> trimmedKey idempotencyKey
        items := issue.items.map fun item =>
          { item with unitCost := (store.balance ⟨issue.warehouseId, item.skuId⟩).avgUnitCost } },
      found, effect.toMoved.inStore rfl rfl, ?_⟩
    rw [← effect.records]
    rfl

theorem createIssue_ok {dto idempotencyKey} (ran : createIssue store issueId dto idempotencyKey = .ok after) :
    after = store ∨ ∃ issue : StockIssue, ∃ lines, store.issues.lookup issueId = none ∧ normalizeAndSortWarehouseLines
        (dto.items.map fun item => ⟨Text.ofUuid dto.warehouseId, item.skuId, item.qty⟩) = .ok lines ∧
      lines.mapM insertIssueItem = .ok issue.items ∧ (dto.autoPost = true ∧
          postIssueInTx { store with issues := store.issues.insert issueId issue } issueId (cleanKey idempotencyKey) = .ok after ∨
        after = { store with issues := store.issues.insert issueId issue }) := by
  simp only [createIssue] at ran
  split at ran
  · exact .inl (pure_eq_ok.mp ran).symm
  · simp only [eq_ok] at ran
    obtain ⟨_, _, lines, normalized, _, free, _, _, items, inserted, ran⟩ := ran
    refine .inr ⟨{ code := dto.code, warehouseId := dto.warehouseId, reasonCode := dto.reasonCode
                   status := .draft, idempotencyKey := cleanKey idempotencyKey, items },
      lines, free, normalized, inserted, ?_⟩
    split at ran
    · next post => exact .inl ⟨post, ran⟩
    · exact .inr (pure_eq_ok.mp ran).symm

def Change.OnHandOnly (change : Change) : Prop :=
  (∀ key, change (.reserved key) = 0) ∧ (∀ key, change (.inTransit key) = 0) ∧
    ∀ transferId skuId, change (.lost transferId skuId) = 0

theorem Change.onHandOnly_zero : OnHandOnly 0 :=
  ⟨fun _ => rfl, fun _ => rfl, fun _ _ => rfl⟩

theorem Change.onHandOnly_row (key : Key) (onHand : Int) : (row key onHand 0 0).OnHandOnly := by
  refine ⟨fun other => ?_, fun other => ?_, fun _ _ => rfl⟩
  · simp [row]
  · simp [row]

theorem Change.OnHandOnly.add {first second : Change} (left : first.OnHandOnly) (right : second.OnHandOnly) :
    (first + second).OnHandOnly := by
  refine ⟨fun key => ?_, fun key => ?_, fun transferId skuId => ?_⟩
  · rw [Pi.add_apply, left.1, right.1, add_zero]
  · rw [Pi.add_apply, left.2.1, right.2.1, add_zero]
  · rw [Pi.add_apply, left.2.2, right.2.2, add_zero]

theorem Change.onHandOnly_sum {α : Type} (items : List α) {change : α → Change}
    (each : ∀ item ∈ items, (change item).OnHandOnly) : (items.map change).sum.OnHandOnly := by
  induction items with
  | nil => exact onHandOnly_zero
  | cons item items inner =>
    rw [map_cons, sum_cons]
    exact (each item (by simp)).add (inner fun other member => each other (by simp [member]))

theorem approveStocktake_ok {stockTakeId} {forceRebase : Bool}
    (ran : approveStocktake store stockTakeId forceRebase = .ok after) :
    ∃ change approved, Moved store after change ∧ change.OnHandOnly ∧
      after.toRecords = { store.toRecords with stocktakes := store.stocktakes.insert stockTakeId approved } := by
  simp only [approveStocktake, findStocktake, eq_ok] at ran
  obtain ⟨header, _, _, _, _, _, _, _, middle, looped, rfl⟩ := ran
  have moved : ∃ change, Effect store middle change ∧ change.OnHandOnly := by
    refine foldlM_preserves (fun middle => ∃ change, Effect store middle change ∧ change.OnHandOnly) ?_
      ⟨0, refl store, onHandOnly_zero⟩ looped
    rintro item _ before next ⟨change, effect, only⟩ stepped
    obtain ⟨counted, _, line⟩ := approveStocktakeItem_effect stepped
    exact ⟨_, effect.trans line, only.add (onHandOnly_row _ _)⟩
  obtain ⟨change, effect, only⟩ := moved
  refine ⟨change, ?approved, effect.toMoved.inStore rfl rfl, only, ?records⟩
  case records =>
    rw [← effect.records]
    rfl

theorem reserveWarehouseStock_ok {now idempotencyKey req result}
    (ran : reserveWarehouseStock store reservationId now idempotencyKey req = .ok result) :
    result.1 = store ∨ ∃ reservation : WarehouseReservation, store.reservations.lookup reservationId = none ∧
      reservation.state = .held ∧ (reservation.sourceRefType = req.sourceRefType ∧ reservation.sourceRefId = req.sourceRefId) ∧
      Moved store result.1 (reservation.lines.map fun line => row line.key 0 line.qty 0).sum ∧
      result.1.toRecords = { store.toRecords with reservations := store.reservations.insert reservationId reservation } := by
  simp only [reserveWarehouseStock, eq_ok] at ran
  obtain ⟨_, _, inputLines, _, _, _, _, _, ran⟩ := ran
  split at ran
  · simp only [eq_ok] at ran
    obtain ⟨_, _, rfl⟩ := ran
    exact .inl rfl
  · simp only [eq_ok] at ran
    obtain ⟨_, _, lines, _, _, _, _, free, middle, held, rfl⟩ := ran
    have effect := loop (fun line : ReservationLine => row line.key 0 line.qty 0)
      (fun _ _ _ _ _ _ _ stepped => holdLine_effect stepped) held
    refine .inr ⟨?reservation, free, ?held, ?source, ?moved, ?records⟩
    case records =>
      rw [← effect.records]
      rfl
    case held => rfl
    case source => exact ⟨rfl, rfl⟩
    case moved => exact effect.toMoved.inStore rfl rfl

/-- A hold ends in a state, and each of its lines moves stock on hand. -/
def EndsHold (store : Store) (reservationId : Uuid) (state : ReservationState) (onHand : ReservationLine → Int) (after : Store) :
    Prop :=
  ∃ header, store.reservations.lookup reservationId = some header ∧ header.state = .held ∧
    Moved store after (header.lines.map fun line => row line.key (onHand line) (-line.qty) 0).sum ∧
    after.toRecords = { store.toRecords with
      reservations := store.reservations.insert reservationId { header with state } }

theorem commitWarehouseReservation_ok {fulfillmentId}
    (ran : commitWarehouseReservation store reservationId fulfillmentId = .ok after) :
    after = store ∨ EndsHold store reservationId .committed (fun line => -line.qty) after := by
  simp only [commitWarehouseReservation, findReservation, eq_ok] at ran
  obtain ⟨header, found, ran⟩ := ran
  split at ran
  · exact .inl (pure_eq_ok.mp ran).symm
  · simp only [eq_ok] at ran
    obtain ⟨_, held, middle, committed, rfl⟩ := ran
    have effect := loop
      (fun line : ReservationLine => row line.key (-line.qty) (-line.qty) 0)
      (fun _ _ _ _ _ _ _ stepped => commitLine_effect stepped) committed
    rw [sum_changes_perm (orderByKey_perm header.lines)] at effect
    refine .inr ⟨header, found, held, effect.toMoved.inStore rfl rfl, ?_⟩
    rw [← effect.records]
    rfl

theorem qtyOf_nonneg (lines : List ReservationLine) (key : Key) :
    0 ≤ (lines.map fun line => if line.key = key then line.qty else 0).sum := by
  refine sum_nonneg (forall_mem_map.mpr fun line _ => ?_)
  have positive := line.legal
  split <;> omega

theorem sum_if_neg {α : Type} (lines : List α) (counts : α → Prop) [DecidablePred counts] (qty : α → Int) :
    (lines.map fun line => if counts line then -qty line else 0).sum =
      -(lines.map fun line => if counts line then qty line else 0).sum := by
  induction lines with
  | nil => rfl
  | cons line lines inner =>
    simp only [map_cons, sum_cons, inner]
    split <;> omega

theorem giveBackLines_effect {lines : List ReservationLine}
    (held : ∀ key, (lines.map fun line => if line.key = key then line.qty else 0).sum ≤ store.reservedQty key)
    (ran : lines.foldlM giveBackLine store = .ok after) :
    Effect store after (lines.map fun line => row line.key 0 (-line.qty) 0).sum := by
  refine loop (fun line : ReservationLine => row line.key 0 (-line.qty) 0) ?_ ran
  intro finished line rest middle next whole effect stepped
  refine giveBackLine_effect ?_ stepped
  have bound := held line.key
  have given := effect.toMoved.apply (.reserved line.key)
  simp only [sum_changes_apply, row, sum_if_neg, Store.measure] at given
  rw [whole, map_append, map_cons, sum_append, sum_cons, if_pos rfl] at bound
  have later := qtyOf_nonneg rest line.key
  omega

def Store.Covers (store : Store) (reservation : WarehouseReservation) : Prop :=
  reservation.state = .held → ∀ key, reservation.qtyOf key ≤ store.reservedQty key

theorem giveBack_ok {header middle} (covered : store.Covers header)
    (held : header.state = .held) (ran : (orderByKey header.lines).foldlM giveBackLine store = .ok middle) :
    Effect store middle (header.lines.map fun line => row line.key 0 (-line.qty) 0).sum := by
  rw [← sum_changes_perm (orderByKey_perm header.lines)]
  refine giveBackLines_effect (fun key => ?_) ran
  have bound := covered held key
  rwa [WarehouseReservation.qtyOf, ← ((orderByKey_perm header.lines).map _).sum_eq] at bound

section

variable (covered : ∀ header, store.reservations.lookup reservationId = some header → store.Covers header)

include covered

theorem releaseWarehouseReservation_ok (ran : releaseWarehouseReservation store reservationId = .ok after) :
    after = store ∨ EndsHold store reservationId .released (fun _ => 0) after := by
  simp only [releaseWarehouseReservation, findReservation, eq_ok] at ran
  obtain ⟨header, found, ran⟩ := ran
  split at ran
  · exact .inl (pure_eq_ok.mp ran).symm
  · next ended =>
    simp only [eq_ok] at ran
    obtain ⟨_, open_, middle, given, rfl⟩ := ran
    have held : header.state = .held := by
      cases state : header.state <;> simp_all
    have effect := giveBack_ok (covered header found) held given
    refine .inr ⟨header, found, held, effect.toMoved.inStore rfl rfl, ?_⟩
    rw [← effect.records]
    rfl

theorem expireWarehouseReservation_ok {now} (ran : expireWarehouseReservation store reservationId now = .ok after) :
    after = store ∨ EndsHold store reservationId .expired (fun _ => 0) after := by
  unfold expireWarehouseReservation at ran
  split at ran
  · cases ran
    exact .inl rfl
  · next header found =>
    split at ran
    · next due =>
      simp only [eq_ok] at ran
      obtain ⟨middle, given, rfl⟩ := ran
      have held : header.state = .held := by
        simp only [WarehouseReservation.isDue, Bool.and_eq_true, decide_eq_true_eq] at due
        exact due.1
      have effect := giveBack_ok (covered header found) held given
      refine .inr ⟨header, found, held, effect.toMoved.inStore rfl rfl, ?_⟩
      rw [← effect.records]
      rfl
    · cases ran
      exact .inl rfl

end

end

end Inventory
