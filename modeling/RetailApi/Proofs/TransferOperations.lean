import RetailApi.Proofs.StockOperations

/-! What the transfer operations do when they commit, SKU by SKU. -/

namespace Inventory

open Transaction Change StockTransfer Pi

def Change.shift (warehouseId : Uuid) (onHand inTransit : Uuid → Int) : Change
  | .onHand key => if warehouseId = key.warehouseId then onHand key.skuId else 0
  | .inTransit key => if warehouseId = key.warehouseId then inTransit key.skuId else 0
  | _ => 0

def Change.losses (transferId : Uuid) (lost : Uuid → Int) : Change
  | .lost otherTransfer skuId => if transferId = otherTransfer then lost skuId else 0
  | _ => 0

def sumOfSku (items : List StockTransferItem) (qty : StockTransferItem → Int) (skuId : Uuid) : Int :=
  (items.map fun item => if item.skuId = skuId then qty item else 0).sum

section Sums

theorem sum_rows_apply {α : Type} (lines : List α) (skuId : α → Uuid) (warehouseId : Uuid) (qty : α → Int) (key : Key) :
    (lines.map fun line => if (⟨warehouseId, skuId line⟩ : Key) = key then qty line else 0).sum =
      if warehouseId = key.warehouseId then (lines.map fun line => if skuId line = key.skuId then qty line else 0).sum
      else 0 := by
  obtain ⟨keyWarehouse, keySku⟩ := key
  simp only [Key.mk.injEq]
  split
  · next same => simp [same]
  · next different => simp [different]

variable {items : List StockTransferItem}

theorem sum_rows (warehouseId : Uuid) (onHand inTransit : StockTransferItem → Int) :
    (items.map fun item => row ⟨warehouseId, item.skuId⟩ (onHand item) 0 (inTransit item)).sum =
      shift warehouseId (sumOfSku items onHand) (sumOfSku items inTransit) := by
  funext measure
  rw [sum_changes_apply]
  cases measure with
  | onHand key => exact sum_rows_apply items (·.skuId) warehouseId onHand key
  | inTransit key => exact sum_rows_apply items (·.skuId) warehouseId inTransit key
  | reserved key => simp [row, shift]
  | lost transferId skuId => simp [row, shift]

theorem sum_two_rows (first second : Uuid) (onHand inTransit : StockTransferItem → Int) :
    (items.map fun item => row ⟨first, item.skuId⟩ (onHand item) 0 0 +
      row ⟨second, item.skuId⟩ 0 0 (inTransit item)).sum =
      shift first (sumOfSku items onHand) 0 + shift second 0 (sumOfSku items inTransit) := by
  have zero : sumOfSku items (fun _ => 0) = 0 := by
    funext skuId
    simp [sumOfSku]
  rw [← zero, ← sum_rows first onHand fun _ => 0, ← sum_rows second (fun _ => 0) inTransit]
  exact List.sum_map_add

theorem sum_losses (transferId : Uuid) (lost : StockTransferItem → Int) :
    (items.map fun item => loss transferId item.skuId (lost item)).sum =
      losses transferId (sumOfSku items lost) := by
  funext measure
  rw [sum_changes_apply]
  cases measure with
  | lost otherTransfer skuId =>
    simp only [loss, losses, sumOfSku, eq_comm (a := transferId), eq_comm (a := skuId)]
    split
    · next same => simp [same]
    · next different => simp [different]
  | _ => simp [loss, losses]

theorem sumOfSku_perm {other} (same : items.Perm other) (qty : StockTransferItem → Int) :
    sumOfSku items qty = sumOfSku other qty := by
  funext skuId
  exact (same.map _).sum_eq

end Sums

section Operations

variable {store after : Store} {transferId : Uuid}

theorem Moved.putTransfer (store : Store) (transferId : Uuid) (transfer : StockTransfer) :
    Moved store (store.putTransfer transferId transfer) 0 :=
  (Moved.refl store).inStore rfl rfl

theorem Effect.putTransfer_records {change} (effect : Effect store after change) (transferId : Uuid) (transfer : StockTransfer) :
    (after.putTransfer transferId transfer).toRecords = (store.putTransfer transferId transfer).toRecords := by
  simp only [Store.putTransfer, effect.records]

theorem createTransfer_ok {dto} {canApprove} (ran : createTransfer store transferId dto canApprove = .ok after) :
    ∃ transfer, store.transfers.lookup transferId = none ∧ transfer.status = .draft ∧
      (∀ item ∈ transfer.items, item.dispatchedQty = 0 ∧ item.receivedQty = 0 ∧ item.discrepancyQty = 0) ∧
      after = store.putTransfer transferId transfer := by
  simp only [createTransfer, eq_ok] at ran
  obtain ⟨_, _, fromWarehouseId, _, toWarehouseId, _, _, _, _, _, _, _, normalized, _, _, free, _, _, items, mapped,
    ran⟩ := ran
  split at ran
  swap
  · simp at ran
  split at ran
  swap
  · simp at ran
  rw [pure_eq_ok] at ran
  refine ⟨_, free, ?_, ?_, ran.symm⟩
  · rfl
  · intro item member
    obtain ⟨line, _, made⟩ := mapM_mem mapped member
    simp only [eq_ok] at made
    obtain ⟨skuId, _, checked⟩ := made
    obtain ⟨_, _, dispatched, received, lost⟩ := checkedTransferItem_ok checked
    exact ⟨dispatched, received, lost⟩

structure Dispatched (item sent : StockTransferItem) : Prop where
  sku : sent.skuId = item.skuId
  planned : sent.transferQty = item.transferQty
  dispatched : sent.dispatchedQty = item.transferQty
  received : sent.receivedQty = item.receivedQty
  lost : sent.discrepancyQty = item.discrepancyQty

theorem dispatchTransfer_ok (ran : dispatchTransfer store transferId = .ok after) :
    ∃ header sent, store.transfers.lookup transferId = some header ∧ header.status = .draft ∧
      sent.status = .dispatched ∧ sent.fromWarehouseId = header.fromWarehouseId ∧
      sent.toWarehouseId = header.toWarehouseId ∧ List.Forall₂ Dispatched header.items sent.items ∧
      Moved store after
        (shift header.fromWarehouseId (header.sumOf fun item => -item.transferQty) 0 +
          shift header.toWarehouseId 0 (header.sumOf (·.transferQty))) ∧
      after.toRecords = (store.putTransfer transferId sent).toRecords := by
  simp only [dispatchTransfer, findTransfer, assertCanDispatchStockTransfer, eq_ok] at ran
  obtain ⟨header, found, _, draft, _, _, _, _, _, enough, middle, looped, sent, mapped, ran⟩ := ran
  split at ran
  swap
  · simp at ran
  rw [pure_eq_ok] at ran
  subst ran
  have ordered := orderBySku_perm (·.skuId) header.items
  have apart := orderBySku_nodup header.distinct
  -- a line still finds the source as locked: earlier lines touch other SKUs, and the destination is elsewhere
  have effect := Effect.loop_apart
    (fun item : StockTransferItem => row ⟨header.fromWarehouseId, item.skuId⟩ (-item.transferQty) 0 0 +
      row ⟨header.toWarehouseId, item.skuId⟩ 0 0 item.transferQty)
    (fun item : StockTransferItem =>
      {key | key = ⟨header.fromWarehouseId, item.skuId⟩ ∨ key = ⟨header.toWarehouseId, item.skuId⟩})
    (fun finished item rest before next whole _ untouched stepped => by
      have fresh := nodup_split (whole ▸ apart)
      have kept := untouched ⟨header.fromWarehouseId, item.skuId⟩ fun other member same => by
        rcases same with same | same
        · exact fresh other member (congrArg Key.skuId same).symm
        · exact header.apart (congrArg Key.warehouseId same)
      have inside : item ∈ orderBySku (·.skuId) header.items := by simp [whole]
      obtain ⟨line, others⟩ := dispatchTransferItem_effect rfl rfl kept (enough item inside) stepped
      exact ⟨line, fun key outside => others key (fun same => outside (.inl same)) fun same => outside (.inr same)⟩)
    looped
  rw [sum_two_rows, sumOfSku_perm ordered, sumOfSku_perm ordered] at effect
  refine ⟨header, ?sent, found, draft, ?status, ?source, ?destination, ?lines, effect.toMoved.inStore rfl rfl, ?records⟩
  case records => exact effect.putTransfer_records _ _
  case status => rfl
  case source => rfl
  case destination => rfl
  case lines =>
    refine (mapM_eq_ok.mp mapped).imp fun item line made => ?_
    obtain ⟨sku, planned, dispatched, received, lost⟩ := checkedTransferItem_ok made
    exact ⟨sku, planned, dispatched, received, lost⟩

/-- A transfer as a receipt leaves it: only received and lost quantities have grown. -/
structure Progressed (before after : StockTransfer) (received lost : Uuid → Int) : Prop where
  source : after.fromWarehouseId = before.fromWarehouseId
  destination : after.toWarehouseId = before.toWarehouseId
  status : after.status = before.status
  receives : ∀ skuId, 0 ≤ received skuId
  loses : ∀ skuId, 0 ≤ lost skuId
  skus : after.items.map (·.skuId) = before.items.map (·.skuId)
  dispatchedQty : after.sumOf (·.dispatchedQty) = before.sumOf (·.dispatchedQty)
  receivedQty : after.sumOf (·.receivedQty) = before.sumOf (·.receivedQty) + received
  discrepancyQty : after.sumOf (·.discrepancyQty) = before.sumOf (·.discrepancyQty) + lost

theorem Progressed.refl (transfer : StockTransfer) : Progressed transfer transfer 0 0 :=
  ⟨rfl, rfl, rfl, fun _ => le_rfl, fun _ => le_rfl, rfl, rfl, (add_zero _).symm, (add_zero _).symm⟩

theorem Progressed.trans {first second third} {received lost moreReceived moreLost}
    (left : Progressed first second received lost) (right : Progressed second third moreReceived moreLost) :
    Progressed first third (received + moreReceived) (lost + moreLost) where
  source := right.source.trans left.source
  destination := right.destination.trans left.destination
  status := right.status.trans left.status
  receives skuId := add_nonneg (left.receives skuId) (right.receives skuId)
  loses skuId := add_nonneg (left.loses skuId) (right.loses skuId)
  skus := right.skus.trans left.skus
  dispatchedQty := right.dispatchedQty.trans left.dispatchedQty
  receivedQty := by rw [right.receivedQty, left.receivedQty, add_assoc]
  discrepancyQty := by rw [right.discrepancyQty, left.discrepancyQty, add_assoc]

variable {transfer header : StockTransfer}

theorem sumOf_setItem {old new} (member : old ∈ transfer.items)
    (same : new.skuId = old.skuId) (qty : StockTransferItem → Int) :
    (transfer.setItem new).sumOf qty = transfer.sumOf qty + single old.skuId (qty new - qty old) := by
  funext skuId
  have replaced := Merge.sum_replace transfer.distinct member same fun item => if item.skuId = skuId then qty item else 0
  simp only [sumOf, setItem, Pi.add_apply, single_apply, eq_comm (a := skuId)]
  rw [replaced, same]
  split <;> omega

theorem LineReceived.progress (line : LineReceived transferId header store after) :
    ∃ before transfer middle received lost, store.transfers.lookup transferId = some before ∧
      Progressed before transfer received lost ∧
      Effect store middle (shift header.toWarehouseId received (-(received + lost))) ∧
      after = middle.putTransfer transferId transfer := by
  obtain @⟨transfer, item, received, receiveNow, discrepancyNow, middle, stored, member, receives, loses, within, sku,
    planned, dispatched, receivedQty, discrepancyQty, effect⟩ := line
  refine ⟨transfer, transfer.setItem received, middle, single item.skuId receiveNow,
    single item.skuId discrepancyNow, stored, ?_, effect.of_eq ?_, rfl⟩
  · refine ⟨rfl, rfl, rfl, fun skuId => ?_, fun skuId => ?_, setItem_skus _ _, ?_, ?_, ?_⟩
    · rw [single_apply]
      split <;> omega
    · rw [single_apply]
      split <;> omega
    · rw [sumOf_setItem member sku, dispatched, sub_self, single_zero, add_zero]
    · rw [sumOf_setItem member sku, receivedQty, add_sub_cancel_left]
    · rw [sumOf_setItem member sku, discrepancyQty, add_sub_cancel_left]
  · funext measure
    cases measure with
    | onHand key =>
      obtain ⟨warehouseId, skuId⟩ := key
      simp only [row, shift, Key.mk.injEq, single_apply, eq_comm (a := skuId)]
      by_cases there : header.toWarehouseId = warehouseId <;> simp [there]
    | inTransit key =>
      obtain ⟨warehouseId, skuId⟩ := key
      simp only [row, shift, Key.mk.injEq, Pi.neg_apply, Pi.add_apply, single_apply, eq_comm (a := skuId)]
      by_cases there : header.toWarehouseId = warehouseId <;> by_cases same : item.skuId = skuId <;> simp [there, same]
    | _ => simp [row, shift]

theorem shift_add (warehouseId : Uuid) (onHand inTransit moreOnHand moreInTransit : Uuid → Int) :
    shift warehouseId onHand inTransit + shift warehouseId moreOnHand moreInTransit =
      shift warehouseId (onHand + moreOnHand) (inTransit + moreInTransit) := by
  funext measure
  cases measure <;> simp only [shift, Pi.add_apply]
  · split <;> simp
  · rfl
  · split <;> simp
  · rfl

theorem putTransfer_putTransfer (store : Store) (transferId : Uuid) (first second : StockTransfer) :
    (store.putTransfer transferId first).putTransfer transferId second = store.putTransfer transferId second := by
  simp only [Store.putTransfer, AList.insert_insert]

/-- Request lines worked off so far: progress of the transfer, and its stock. -/
structure LinesReceived (transferId : Uuid) (header : StockTransfer) (before after : Store) (transfer : StockTransfer)
    (received lost : Uuid → Int) : Prop where
  progress : Progressed header transfer received lost
  stored : after.transfers.lookup transferId = some transfer
  moved : Moved before after (shift header.toWarehouseId received (-(received + lost)))
  records : ∀ other, (after.putTransfer transferId other).toRecords = (before.putTransfer transferId other).toRecords

theorem receiveTransferLines_ok {resolve} {lines : List ReceiveStockTransferLine}
    (found : store.transfers.lookup transferId = some header)
    (ran : lines.foldlM (receiveTransferLine transferId header resolve) store = .ok after) :
    ∃ transfer received lost, LinesReceived transferId header store after transfer received lost := by
  refine foldlM_preserves
    (fun middle => ∃ transfer received lost, LinesReceived transferId header store middle transfer received lost)
    ?_ ⟨header, 0, 0, Progressed.refl header, found, ?_, fun _ => rfl⟩ ran
  · rintro line _ before next ⟨transfer, received, lost, so_far⟩ stepped
    obtain ⟨current, progressed, middle, moreReceived, moreLost, stored, progress, effect, rfl⟩ :=
      (receiveTransferLine_ok stepped).progress
    cases so_far.stored.symm.trans stored
    refine ⟨progressed, received + moreReceived, lost + moreLost, so_far.progress.trans progress,
      Table.lookup_insert_self _ _ _, ?_, fun other => ?_⟩
    · have both := so_far.moved.trans effect.toMoved
      rw [shift_add, ← neg_add, add_add_add_comm received] at both
      exact both.inStore rfl rfl
    · rw [putTransfer_putTransfer, effect.putTransfer_records, so_far.records]
  · have nothing : shift header.toWarehouseId 0 (-(0 + 0)) = 0 := by
      funext measure
      cases measure <;> simp [shift]
    rw [nothing]
    exact Moved.refl store

theorem writeTransferLosses_effect (found : store.transfers.lookup transferId = some transfer)
    (ran : writeTransferLosses transferId header store = .ok after) :
    Effect store after (losses transferId (transfer.sumOf (·.discrepancyQty))) := by
  simp only [writeTransferLosses, findTransfer, eq_ok] at ran
  obtain ⟨current, stored, looped⟩ := ran
  cases found.symm.trans stored
  have effect := Effect.loop (fun line => loss transferId line.skuId line.discrepancyQty)
    (fun _ _ _ _ _ _ _ stepped => writeTransferLoss_effect stepped) looped
  refine effect.of_eq ?_
  rw [sum_changes_perm (orderBySku_perm _ _), sum_losses]
  congr 1
  funext skuId
  -- a line without a discrepancy loses nothing
  unfold sumOfSku sumOf
  induction transfer.items with
  | nil => rfl
  | cons item items inner =>
    have legal := item.legal
    by_cases lost : 0 < item.discrepancyQty
    · simp [lost, inner]
    · have none : item.discrepancyQty = 0 := by omega
      simp [none, inner]

def Change.writeOff (transferId : Uuid) (transfer : StockTransfer) (resolveDiscrepancy : Bool) : Change
  | .lost otherTransfer skuId =>
    if transferId = otherTransfer ∧ nextTransferStatus transfer.items resolveDiscrepancy = .received ∧
        resolveDiscrepancy = true then
      transfer.sumOf (·.discrepancyQty) skuId
    else 0
  | _ => 0

theorem closeLosses_effect {resolve} (found : store.transfers.lookup transferId = some transfer)
    (ran : closeLosses transferId header (nextTransferStatus transfer.items resolve) resolve store = .ok after) :
    Effect store after (writeOff transferId transfer resolve) := by
  unfold closeLosses at ran
  split at ran
  · next resolved =>
    refine (writeTransferLosses_effect found ran).of_eq ?_
    funext measure
    cases measure <;> simp only [losses, writeOff, eq_true resolved, and_true]
  · next pending =>
    cases ran
    refine (Effect.refl store).of_eq ?_
    funext measure
    cases measure <;> simp only [writeOff, pending, and_false, if_false] <;> rfl

theorem receiveTransfer_ok {dto} (ran : receiveTransfer store transferId dto = .ok after) :
    ∃ header transfer received lost, store.transfers.lookup transferId = some header ∧ header.status.isOpen = true ∧
      Progressed header transfer received lost ∧
      Moved store after (shift header.toWarehouseId received (-(received + lost)) +
        writeOff transferId transfer dto.resolveDiscrepancy) ∧ after.toRecords = (store.putTransfer transferId
        { transfer with status := nextTransferStatus transfer.items dto.resolveDiscrepancy }).toRecords := by
  simp only [receiveTransfer, findTransfer, eq_ok] at ran
  obtain ⟨_, _, header, found, _, open_, _, _, middle, looped, current, stored, last, closed, rfl⟩ := ran
  obtain ⟨transfer, received, lost, lines⟩ := receiveTransferLines_ok found looped
  obtain rfl : transfer = current := Option.some.inj (lines.stored.symm.trans stored)
  have closing := closeLosses_effect stored closed
  refine ⟨header, transfer, received, lost, found, open_, lines.progress,
    (lines.moved.trans closing.toMoved).inStore rfl rfl, ?_⟩
  exact (closing.putTransfer_records _ _).trans (lines.records _)

/-- What a cancelled transfer gives back: everything still on the road, unless it never left. -/
def StockTransfer.returned (transfer : StockTransfer) : Uuid → Int :=
  if transfer.status = .draft then 0 else transfer.sumOf (·.remaining)

theorem cancelTransfer_ok (ran : cancelTransfer store transferId = .ok after) :
    ∃ header, store.transfers.lookup transferId = some header ∧
      (header.status = .draft ∨ header.status = .dispatched ∨ header.status = .partiallyReceived) ∧
      Moved store after
        (shift header.fromWarehouseId header.returned 0 +
          shift header.toWarehouseId 0 (-header.returned)) ∧
      after.toRecords = (store.putTransfer transferId { header with status := .cancelled }).toRecords := by
  simp only [cancelTransfer, findTransfer, assertCanCancelStockTransfer, eq_ok] at ran
  obtain ⟨header, found, _, cancellable, middle, returned, rfl⟩ := ran
  have effect : Effect store middle (shift header.fromWarehouseId header.returned 0 +
      shift header.toWarehouseId 0 (-header.returned)) := by
    unfold returnToSource at returned
    split at returned
    · next draft =>
      cases returned
      refine (Effect.refl store).of_eq ?_
      funext measure
      cases measure <;> simp [shift, StockTransfer.returned, draft]
    · next sent =>
      have looped := Effect.loop
        (fun item : StockTransferItem =>
          row ⟨header.fromWarehouseId, item.skuId⟩ item.remaining 0 0 +
            row ⟨header.toWarehouseId, item.skuId⟩ 0 0 (-item.remaining))
        (fun _ _ _ _ _ _ _ stepped => (cancelTransferItem_effect stepped).of_eq (add_comm _ _)) returned
      rw [sum_two_rows, sumOfSku_perm (orderBySku_perm _ _), sumOfSku_perm (orderBySku_perm _ _)] at looped
      have negated : sumOfSku header.items (fun item => -item.remaining) = -header.sumOf (·.remaining) := by
        funext skuId
        exact sum_if_neg header.items _ _
      rw [negated] at looped
      rw [StockTransfer.returned, if_neg sent]
      exact looped
  exact ⟨header, found, cancellable, effect.toMoved.inStore rfl rfl, effect.putTransfer_records _ _⟩

end Operations

end Inventory
