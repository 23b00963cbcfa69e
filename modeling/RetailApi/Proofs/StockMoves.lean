import RetailApi.Proofs.StockBooks

/-! The effect of each line that moves stock, and of each loop over lines. -/

namespace Inventory

open Transaction Chain Change Store List

section Lines

variable {store after : Store} {key : Key}

private theorem filled_of_onHand (positive : 0 < store.onHandQty key) : store.balance key ≠ {} := by
  intro empty
  simp [onHandQty, empty] at positive

private theorem filled_of_inTransit (positive : 0 < store.inTransitQty key) : store.balance key ≠ {} := by
  intro empty
  simp [inTransitQty, empty] at positive

private theorem filled_of_reserved (positive : 0 < store.reservedQty key) : store.balance key ≠ {} := by
  intro empty
  simp [reservedQty, empty] at positive

theorem reservedQty_nonneg (store : Store) (key : Key) : 0 ≤ store.reservedQty key :=
  (balance_legal store key).1.2.1

theorem inTransitQty_nonneg (store : Store) (key : Key) : 0 ≤ store.inTransitQty key :=
  (balance_legal store key).1.2.2

theorem reservedQty_le_onHandQty (store : Store) (key : Key) : store.reservedQty key ≤ store.onHandQty key :=
  (balance_legal store key).2.1

theorem StockReceipt.movementType_ne_loss (receipt : StockReceipt) : receipt.movementType ≠ .transferLoss := by
  unfold StockReceipt.movementType
  split <;> simp

theorem postReceiptItem_effect {receiptId receipt item} (ran : postReceiptItem receiptId receipt store item = .ok after) :
    Effect store after (row ⟨receipt.warehouseId, item.skuId⟩ item.qty 0 0) := by
  simp only [postReceiptItem, eq_ok] at ran
  obtain ⟨_, _, valuation, computed, middle, written, recorded⟩ := ran
  obtain ⟨_, total, value⟩ := computeWeightedAverageCostOnReceipt_ok computed
  obtain ⟨version, posted⟩ := upsertBalance_posts written fun _ _ => rfl
  have all := recordMovement_posts posted recorded
  refine all.effect ?_ ⟨total, rfl⟩ (fun _ => value) total (add_zero _).symm (add_zero _).symm
  simpa using receipt.movementType_ne_loss

theorem postIssueItem_effect {issueId} {issue} {locked} {item} {source}
    (own : source = ⟨issue.warehouseId, item.skuId⟩) (kept : store.balance source = locked.balance source)
    (enough : item.qty ≤ locked.onHandQty source - locked.reservedQty source)
    (ran : postIssueItem issueId issue locked store item = .ok after) :
    Effect store after (row source (-item.qty) 0 0) ∧
      ∀ other, other ≠ source → after.balance other = store.balance other := by
  simp only [postIssueItem, ← own, eq_ok] at ran
  obtain ⟨valuation, computed, middle, written, recorded⟩ := ran
  obtain ⟨positive, _, total, _, value⟩ := computeValuationAfterDeduction_ok computed
  have available : item.qty ≤ store.onHandQty source - store.reservedQty source := by
    rwa [onHandQty, reservedQty, kept]
  have shelf : 0 < store.onHandQty source := by
    have := reservedQty_nonneg store source
    omega
  obtain ⟨version, posted⟩ := updateBalance_posts written (filled_of_onHand shelf) (decide_eq_true available)
  have all := recordMovement_posts (posted.belowMin _ _ _) recorded
  rw [← kept] at total value
  have moved : valuation.newOnHandMilli = store.onHandQty source + -item.qty := by
    rw [total, onHandQty]
    omega
  refine ⟨all.effect (by simp) ⟨moved, rfl⟩ (fun _ => value) moved (add_zero _).symm (add_zero _).symm, ?_⟩
  intro other different
  rw [all.balance other, if_neg different]

variable {transferId : Uuid}

theorem dispatchTransferItem_effect {header} {locked} {item} {source target}
    (own : source = ⟨header.fromWarehouseId, item.skuId⟩) (arrives : target = ⟨header.toWarehouseId, item.skuId⟩)
    (kept : store.balance source = locked.balance source)
    (enough : item.transferQty ≤ locked.onHandQty source - locked.reservedQty source)
    (ran : dispatchTransferItem transferId header locked store item = .ok after) :
    Effect store after (row source (-item.transferQty) 0 0 + row target 0 0 item.transferQty) ∧
      ∀ other, other ≠ source → other ≠ target → after.balance other = store.balance other := by
  simp only [dispatchTransferItem, ← own, ← arrives, eq_ok] at ran
  obtain ⟨valuation, computed, sent, written, arriving, upserted, recorded⟩ := ran
  obtain ⟨positive, _, total, _, value⟩ := computeValuationAfterDeduction_ok computed
  have quiet := (Posting.unchanged store source).belowMin source
    ((locked.balance source).onHandQty - (locked.balance source).reservedQty)
    ((locked.balance source).onHandQty - (locked.balance source).reservedQty - item.transferQty)
  have same := quiet.balance source
  rw [if_pos rfl] at same
  have available : item.transferQty ≤ store.onHandQty source - store.reservedQty source := by
    rwa [onHandQty, reservedQty, kept]
  have shelf : 0 < store.onHandQty source := by
    have := reservedQty_nonneg store source
    omega
  obtain ⟨version, left⟩ := updateBalance_posts written (by rw [same]; exact filled_of_onHand shelf)
    (by rw [same]; exact decide_eq_true available)
  have sending := quiet.andThen left
  obtain ⟨_, right⟩ := upsertBalance_posts upserted fun _ _ => by simp
  obtain ⟨middle, taken, given⟩ := sending.recordedLate right recorded
  rw [same] at taken
  rw [← kept] at total value
  have moved : valuation.newOnHandMilli = store.onHandQty source + -item.transferQty := by
    rw [total, onHandQty]
    omega
  have elsewhere : sent.balance target = middle.balance target := by
    rw [sending.balance, taken.balance, same]
  rw [elsewhere] at given
  refine ⟨(taken.effect (by simp) ⟨moved, rfl⟩ (fun _ => value) moved (add_zero _).symm (add_zero _).symm).trans
    (given.quiet rfl rfl rfl (add_zero _).symm rfl), ?_⟩
  intro other outside apart
  rw [given.balance other, if_neg apart, taken.balance other, if_neg outside]

theorem cancelTransferItem_effect {header item} (ran : cancelTransferItem transferId header store item = .ok after) :
    Effect store after (row ⟨header.toWarehouseId, item.skuId⟩ 0 0 (-item.remaining) +
      row ⟨header.fromWarehouseId, item.skuId⟩ item.remaining 0 0) := by
  have nonnegative : 0 ≤ item.remaining := by
    have legal := item.legal
    unfold StockTransferItem.remaining
    omega
  simp only [cancelTransferItem] at ran
  split at ran
  · next none =>
    have zero : item.remaining = 0 := by omega
    cases ran
    refine (Effect.refl store).of_eq ?_
    funext measure
    cases measure <;> simp [row, zero]
  · next some =>
    simp only [eq_ok] at ran
    obtain ⟨_, enough, taken, updated, valuation, computed, restored, written, recorded⟩ := ran
    obtain ⟨_, total, value⟩ := computeWeightedAverageCostOnReceipt_ok computed
    have onRoad : 0 < store.inTransitQty ⟨header.toWarehouseId, item.skuId⟩ := by omega
    obtain ⟨_, off⟩ := updateBalance_posts updated (filled_of_inTransit onRoad) rfl
    have away : Effect store taken (row ⟨header.toWarehouseId, item.skuId⟩ 0 0 (-item.remaining)) :=
      off.quiet rfl rfl rfl (add_zero _).symm (Int.sub_eq_add_neg)
    obtain ⟨_, back⟩ := upsertBalance_posts written fun empty _ => by simp [total, empty]
    have all := recordMovement_posts back recorded
    refine away.trans (all.effect (by simp) ⟨total, ?_⟩ (fun _ => ?_) rfl (add_zero _).symm (add_zero _).symm)
    · exact total
    · rw [value, total]

theorem writeTransferLoss_effect {header line} (ran : writeTransferLoss transferId header store line = .ok after) :
    Effect store after (loss transferId line.skuId line.discrepancyQty) := by
  simp only [writeTransferLoss, eq_ok] at ran
  obtain ⟨middle, inserted, recorded⟩ := ran
  have booked := insertLedger_posts (Posting.unchanged store ⟨header.toWarehouseId, line.skuId⟩) inserted
  have all := recordMovement_posts booked recorded
  refine ⟨⟨all.books (by simp) ⟨rfl, ?_, rfl⟩ (fun books => books.valued _), ?_⟩, all.records⟩
  · simp only []
    omega
  · rw [all.measure]
    congr 1
    funext measure
    cases measure with
    | lost otherTransfer otherSku =>
      simp only [Pi.add_apply, row, loss, nil_append, cons_append, map_cons, map_nil,
        sum_cons, sum_nil, LedgerRow.writtenOff]
      by_cases same : otherTransfer = transferId ∧ otherSku = line.skuId
      · obtain ⟨rfl, rfl⟩ := same
        simp
      · rw [if_neg same]
        simp only [reduceCtorEq, false_and, if_false, true_and]
        rw [if_neg fun wrong => same ⟨wrong.1.symm, wrong.2.symm⟩]
        rfl
    | _ => simp [row, loss, onHandQty, reservedQty, inTransitQty]

/-- What a received line does: off the road, and what was received onto the destination's
shelf. The transfer's own line is written last. -/
inductive LineReceived (transferId : Uuid) (header : StockTransfer) (store : Store) : Store → Prop where
  | intro {transfer item received receiveNow discrepancyNow middle} (stored : store.transfers.lookup transferId = some transfer)
      (member : item ∈ transfer.items)
      (receives : 0 ≤ receiveNow) (loses : 0 ≤ discrepancyNow) (within : receiveNow + discrepancyNow ≤ item.remaining)
      (sku : received.skuId = item.skuId) (planned : received.transferQty = item.transferQty)
      (dispatched : received.dispatchedQty = item.dispatchedQty)
      (receivedQty : received.receivedQty = item.receivedQty + receiveNow)
      (discrepancyQty : received.discrepancyQty = item.discrepancyQty + discrepancyNow)
      (effect : Effect store middle
        (row ⟨header.toWarehouseId, item.skuId⟩ receiveNow 0 (-(receiveNow + discrepancyNow)))) :
      LineReceived transferId header store (middle.putTransfer transferId (transfer.setItem received))

theorem clearInTransit_effect {destination receiveNow cleared unitCost}
    (nonnegative : 0 ≤ receiveNow) (within : receiveNow ≤ cleared) (onRoad : cleared ≤ store.inTransitQty destination)
    (ran : clearInTransit store transferId destination unitCost receiveNow cleared = .ok after) :
    Effect store after (row destination receiveNow 0 (-cleared)) := by
  simp only [clearInTransit] at ran
  split at ran
  · next some =>
    simp only [eq_ok] at ran
    obtain ⟨valuation, computed, middle, recorded, written⟩ := ran
    obtain ⟨_, total, value⟩ := computeWeightedAverageCostOnReceipt_ok computed
    have noted := recordMovement_posts (Posting.unchanged store destination) recorded
    have same : middle.balance destination = store.balance destination := by
      rw [noted.balance, if_pos rfl]
    have road : 0 < store.inTransitQty destination := by omega
    obtain ⟨_, posted⟩ := updateBalance_posts written (by rw [same]; exact filled_of_inTransit road) rfl
    have all := noted.andThen posted
    rw [same] at all
    refine all.effect (by simp) ⟨total, total⟩ (fun _ => ?_) rfl (add_zero _).symm Int.sub_eq_add_neg
    rw [value, total]
  · next none =>
    have zero : receiveNow = 0 := by omega
    split at ran
    · next lost =>
      have road : 0 < store.inTransitQty destination := by omega
      obtain ⟨_, posted⟩ := updateBalance_posts ran (filled_of_inTransit road) rfl
      rw [zero]
      exact posted.quiet rfl rfl rfl (add_zero _).symm Int.sub_eq_add_neg
    · next nothing =>
      have empty : cleared = 0 := by omega
      cases ran
      refine (Effect.refl store).of_eq ?_
      funext measure
      cases measure <;> simp [row, zero, empty]

theorem checkedTransferItem_ok {skuId transferQty dispatchedQty receivedQty discrepancyQty unitCost item}
    (checked : checkedTransferItem skuId transferQty dispatchedQty receivedQty discrepancyQty unitCost = .ok item) :
    item.skuId = skuId ∧ item.transferQty = transferQty ∧ item.dispatchedQty = dispatchedQty ∧
      item.receivedQty = receivedQty ∧ item.discrepancyQty = discrepancyQty := by
  unfold checkedTransferItem at checked
  split at checked
  · cases checked
    exact ⟨rfl, rfl, rfl, rfl, rfl⟩
  · cases checked

theorem receiveTransferLine_ok {header} {resolve} {reqLine}
    (ran : receiveTransferLine transferId header resolve store reqLine = .ok after) :
    LineReceived transferId header store after := by
  simp only [receiveTransferLine, findTransfer, eq_ok] at ran
  obtain ⟨skuId, _, transfer, stored, item, found, receiveNow, receives, discrepancyNow, loses, _, _, _, within, _,
    onRoad, middle, moved, received, checked, rfl⟩ := ran
  have nonnegative := parseQtyToMilli_nonneg receives
  have lossless := parseQtyToMilli_nonneg loses
  have sku : item.skuId = skuId := by simpa using find?_some found
  subst sku
  obtain ⟨same, planned, dispatched, receivedQty, discrepancyQty⟩ := checkedTransferItem_ok checked
  have effect := clearInTransit_effect nonnegative (by omega) onRoad moved
  exact .intro stored (mem_of_find?_eq_some found) nonnegative lossless within same planned dispatched receivedQty
    discrepancyQty effect

theorem approveStocktakeItem_effect {stockTakeId header} {forceRebase}
    {item} (ran : approveStocktakeItem stockTakeId header forceRebase store item = .ok after) :
    ∃ counted, item.countedQty = some counted ∧ Effect store after (row ⟨header.warehouseId, item.skuId⟩
        (counted - store.onHandQty ⟨header.warehouseId, item.skuId⟩) 0 0) := by
  simp only [approveStocktakeItem, eq_ok] at ran
  obtain ⟨counted, found, _, _, _, _, ran⟩ := ran
  refine ⟨counted, found, ?_⟩
  split at ran
  · next none =>
    cases ran
    refine (Effect.refl store).of_eq ?_
    funext measure
    cases measure <;> simp [row, onHandQty, none]
  · next some =>
    simp only [eq_ok] at ran
    obtain ⟨cost, costed, value, valued, middle, written, recorded⟩ := ran
    have sameCost := vndToNumber_ok costed
    have sameValue := vndToNumber_ok valued
    obtain ⟨_, posted⟩ := upsertBalance_posts written fun empty _ => by simp [sameCost, empty]
    have all := recordMovement_posts posted recorded
    have sum : counted = store.onHandQty ⟨header.warehouseId, item.skuId⟩ +
        (counted - store.onHandQty ⟨header.warehouseId, item.skuId⟩) := by omega
    refine all.effect (by simp) ⟨sum, rfl⟩ (fun _ => ?_) sum (add_zero _).symm (add_zero _).symm
    rw [sameValue]
    split
    · next zero => simp [zero]
    · rfl

theorem holdLine_effect {line} (ran : holdLine store line = .ok after) :
    Effect store after (row line.key 0 line.qty 0) := by
  simp only [holdLine, eq_ok] at ran
  obtain ⟨⟨middle, updated⟩, written, rfl⟩ := ran
  obtain ⟨_, version, rfl, posted⟩ := updateBalanceReturning_posts written
  exact (posted.belowMin _ _ _).quiet rfl rfl rfl rfl (add_zero _).symm

theorem commitLine_effect {header fulfillmentId line} (ran : commitLine header fulfillmentId store line = .ok after) :
    Effect store after (row line.key (-line.qty) (-line.qty) 0) := by
  simp only [commitLine, eq_ok] at ran
  obtain ⟨valuation, computed, ⟨middle, updated⟩, written, recorded⟩ := ran
  obtain ⟨_, _, total, _, value⟩ := computeValuationAfterDeduction_ok computed
  obtain ⟨_, version, rfl, posted⟩ := updateBalanceReturning_posts written
  have all := recordMovement_posts posted recorded
  refine all.effect (by simp) ⟨Int.sub_eq_add_neg, rfl⟩ (fun _ => ?_) Int.sub_eq_add_neg Int.sub_eq_add_neg
    (add_zero _).symm
  rw [value, total]

theorem giveBackLine_effect {line} (held : line.qty ≤ store.reservedQty line.key)
    (ran : giveBackLine store line = .ok after) :
    Effect store after (row line.key 0 (-line.qty) 0) := by
  have positive := line.legal
  obtain ⟨_, posted⟩ := updateBalance_posts ran (filled_of_reserved (by omega)) (decide_eq_true held)
  exact posted.quiet rfl rfl rfl Int.sub_eq_add_neg (add_zero _).symm

end Lines

end Inventory
