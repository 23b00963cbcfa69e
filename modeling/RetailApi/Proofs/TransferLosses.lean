import RetailApi.Proofs.TransferConservation

/-! Units lost on the road are written off when a receipt closes the transfer. A cancelled
transfer writes nothing off, so it must not have recorded a loss before. -/

namespace Inventory

open Transaction List Change

def dueWriteOff (row : Option StockTransfer) (skuId : Uuid) : Int :=
  match row with
  | some transfer => if transfer.status = .received then transfer.sumOf (·.discrepancyQty) skuId else 0
  | none => 0

/-- Received transfers have all their losses written off, other transfers none. -/
def LossesBooked (store : Store) : Prop :=
  ∀ transferId skuId, store.lostQty transferId skuId = dueWriteOff (store.transfers.lookup transferId) skuId

def CancelledWhole (store : Store) : Prop :=
  ∀ transferId transfer, store.transfers.lookup transferId = some transfer → transfer.status = .cancelled →
    ∀ item ∈ transfer.items, item.discrepancyQty = 0

/-- A transfer that can still be cancelled is cancelled only while no line of it has recorded a loss. -/
def Operation.CancelsWhole (store : Store) : Operation → Prop
  | .cancelTransfer transferId => ∀ transfer, store.transfers.lookup transferId = some transfer →
    ¬(transfer.status = .received ∨ transfer.status = .cancelled) → ∀ item ∈ transfer.items, item.discrepancyQty = 0
  | _ => True

variable {item : StockTransferItem} {transfer : StockTransfer}

private theorem sumOfSku_item {items} (distinct : (items.map (·.skuId)).Nodup)
    (member : item ∈ items) (qty : StockTransferItem → Int) : sumOfSku items qty item.skuId = qty item := by
  unfold sumOfSku
  induction items with
  | nil => cases member
  | cons first items inner =>
    rw [map_cons, nodup_cons] at distinct
    rw [map_cons, sum_cons]
    rcases mem_cons.mp member with rfl | later
    · have rest : (items.map fun other => if other.skuId = item.skuId then qty other else 0).sum = 0 := by
        refine sum_eq_zero (forall_mem_map.mpr fun other listed => ?_)
        rw [if_neg fun same => distinct.1 (mem_map.mpr ⟨other, listed, same⟩)]
      rw [if_pos rfl, rest, add_zero]
    · rw [if_neg fun same => distinct.1 (mem_map.mpr ⟨item, later, same.symm⟩), zero_add]
      exact inner distinct.2 later

theorem sumOf_item (member : item ∈ transfer.items) (qty : StockTransferItem → Int) : transfer.sumOf qty item.skuId = qty item :=
  sumOfSku_item transfer.distinct member qty

theorem sumOf_discrepancy_unresolved
    (closed : nextTransferStatus transfer.items false = .received) : transfer.sumOf (·.discrepancyQty) = 0 := by
  unfold nextTransferStatus at closed
  split at closed
  · cases closed
  · split at closed
    · cases closed
    · next clean =>
      refine sumOf_eq_zero fun item member => ?_
      have legal := item.legal
      have none : ¬0 < item.discrepancyQty := fun lost =>
        clean (by simpa using ⟨item, member, lost⟩)
      omega

theorem dueWriteOff_of_status (still : transfer.status ≠ .received) (skuId : Uuid) : dueWriteOff (some transfer) skuId = 0 :=
  if_neg still

section Steps

variable {store after : Store} {operation : Operation} {change : Change}

theorem LossesBooked.same (booked : LossesBooked store)
    (lost : ∀ transferId skuId, after.lostQty transferId skuId = store.lostQty transferId skuId)
    (transfers : after.transfers = store.transfers) : LossesBooked after := by
  intro transferId skuId
  rw [lost, transfers]
  exact booked transferId skuId

theorem sum_lost_zero (lines : List ReservationLine) (onHand reserved : ReservationLine → Int)
    (transferId skuId : Uuid) :
    (lines.map fun line => row line.key (onHand line) (reserved line) 0).sum (.lost transferId skuId) = 0 := by
  rw [sum_changes_apply]
  simp [row]

variable {transferId : Uuid}

theorem LossesBooked.put (booked : LossesBooked store) (measure : after.measure = store.measure + change)
    {old new} (found : store.transfers.lookup transferId = some old)
    (records : after.toRecords = (store.putTransfer transferId new).toRecords)
    (others : ∀ other skuId, other ≠ transferId → change (.lost other skuId) = 0)
    (due : ∀ skuId, dueWriteOff (some new) skuId = dueWriteOff (some old) skuId + change (.lost transferId skuId)) :
    LossesBooked after := by
  intro other skuId
  have transfers : after.transfers = store.transfers.insert transferId new := by
    rw [records]
    rfl
  have moved : after.lostQty other skuId = store.lostQty other skuId + change (.lost other skuId) :=
    congrFun measure (.lost other skuId)
  rw [moved, transfers, Table.lookup_insert_if, booked other skuId]
  split
  · next same => rw [same, found, due]
  · next different => rw [others other skuId different, add_zero]

theorem LossesBooked.plan (booked : LossesBooked store) {transfer}
    (free : store.transfers.lookup transferId = none) (draft : transfer.status = .draft) :
    LossesBooked (store.putTransfer transferId transfer) := by
  intro other skuId
  have before : (store.putTransfer transferId transfer).lostQty other skuId = store.lostQty other skuId := rfl
  rw [before, booked other skuId, Store.putTransfer, Table.lookup_insert_if]
  split
  · next same =>
    rw [same, free, dueWriteOff_of_status (by simp [draft])]
    rfl
  · rfl

theorem LossesBooked.moves (booked : LossesBooked store) (moves : Moves store operation after) : LossesBooked after := by
  cases moves with
  | shelf moved => exact booked.same moved.lost moved.transfers
  | hold _ _ measure _ transfers =>
    refine booked.same (fun transferId skuId => ?_) transfers
    have moved := congrFun measure (.lost transferId skuId)
    rw [Pi.add_apply, sum_lost_zero, add_zero] at moved
    exact moved
  | endHold _ _ _ measure _ transfers =>
    refine booked.same (fun transferId skuId => ?_) transfers
    have moved := congrFun measure (.lost transferId skuId)
    rw [Pi.add_apply, sum_lost_zero, add_zero] at moved
    exact moved
  | plan free draft _ => exact booked.plan free draft
  | dispatch found draft dispatched _ _ _ measure records =>
    refine booked.put measure found records (fun _ _ _ => rfl) fun skuId => ?_
    rw [dueWriteOff_of_status (by simp [dispatched]), dueWriteOff_of_status (by simp [draft])]
    rfl
  | @receive _ transferId dto header transfer _ _ found road _ measure records =>
    refine booked.put measure found records (fun other skuId different => ?_) fun skuId => ?_
    · simp [shift, writeOff, Ne.symm different]
    · have before : header.status ≠ .received := by
        rintro status
        simp [status, TransferStatus.isOpen] at road
      rw [dueWriteOff_of_status before]
      simp only [dueWriteOff, Pi.add_apply, shift, writeOff, true_and, zero_add]
      by_cases closed : nextTransferStatus transfer.items dto.resolveDiscrepancy = .received
      · cases resolve : dto.resolveDiscrepancy with
        | true =>
          rw [resolve] at closed
          simp only [closed, and_self, if_true]
          rfl
        | false =>
          rw [resolve] at closed
          simp only [closed, Bool.false_eq_true, and_false, if_true, if_false]
          exact congrFun (sumOf_discrepancy_unresolved closed) skuId
      · simp only [closed, false_and, if_false]
  | @cancel _ transferId header found cancellable measure records =>
    refine booked.put measure found records (fun _ _ _ => rfl) fun skuId => ?_
    have before : header.status ≠ .received := by
      rintro status
      simp [status] at cancellable
    rw [dueWriteOff_of_status (by simp), dueWriteOff_of_status before]
    rfl

theorem CancelledWhole.put (whole : CancelledWhole store) {new}
    (records : after.toRecords = (store.putTransfer transferId new).toRecords)
    (own : new.status = .cancelled → ∀ item ∈ new.items, item.discrepancyQty = 0) : CancelledWhole after := by
  have transfers : after.transfers = store.transfers.insert transferId new := by
    rw [records]
    rfl
  rw [CancelledWhole, transfers]
  exact Table.forall_insert own whole

theorem CancelledWhole.moves (whole : CancelledWhole store) (met : operation.CancelsWhole store)
    (moves : Moves store operation after) : CancelledWhole after := by
  cases moves with
  | shelf moved =>
    rw [CancelledWhole, moved.transfers]
    exact whole
  | hold _ _ _ _ transfers =>
    rw [CancelledWhole, transfers]
    exact whole
  | endHold _ _ _ _ _ transfers =>
    rw [CancelledWhole, transfers]
    exact whole
  | plan _ draft _ => exact whole.put rfl (by simp [draft])
  | dispatch _ _ dispatched _ _ _ _ records => exact whole.put records (by simp [dispatched])
  | @receive _ _ dto _ transfer _ _ _ _ _ _ records =>
    refine whole.put records fun cancelled => ?_
    have status : nextTransferStatus transfer.items dto.resolveDiscrepancy = .cancelled := cancelled
    rcases nextTransferStatus_cases transfer.items dto.resolveDiscrepancy with closed | road
    · simp [closed] at status
    · simp [status, TransferStatus.isOpen] at road
  | @cancel _ _ header found cancellable _ records =>
    refine whole.put records fun _ => met header found fun closed => ?_
    rcases closed with status | status <;> simp [status] at cancellable

end Steps

/-- Where no transfer that has recorded a loss is cancelled, every closed transfer has each line's loss
written off exactly once. -/
theorem transfer_losses_written_off {operations : List Operation}
    (whole : Run.Meets perform (fun store operation => operation.CancelsWhole store) {} operations)
    {transferId : Uuid} {transfer : StockTransfer}
    (found : (reached operations).transfers.lookup transferId = some transfer)
    (closed : transfer.status = .received ∨ transfer.status = .cancelled) :
    ∀ item ∈ transfer.items, (reached operations).lostQty transferId item.skuId = item.discrepancyQty := by
  have kept := run_keeps (fun store => LossesBooked store ∧ CancelledWhole store) HoldsKept.empty (fun _ _ _ => trivial)
    (fun _ _ _ met step kept => ⟨kept.1.moves step.moves, kept.2.moves met step.moves⟩) whole
    ⟨fun _ _ => rfl, fun _ _ found => by cases found⟩
  obtain ⟨_, booked, cancelledWhole⟩ := kept
  intro item member
  rw [booked transferId item.skuId, found]
  rcases closed with received | cancelled
  · rw [dueWriteOff, if_pos received, sumOf_item member]
  · rw [dueWriteOff_of_status (by simp [cancelled]), cancelledWhole transferId transfer found cancelled item member]

def closingReceipt : Operation :=
  .receiveTransfer 30 { items := [{ skuId := Text.ofUuid 7, receivedQty := "3" }], resolveDiscrepancy := true }

theorem transfer_losses_written_off_resolved :
    ∃ transfer, (reached (transferOnRoad ++ [partialReceipt, closingReceipt])).transfers.lookup 30 = some transfer ∧
      transfer.items.map (·.discrepancyQty) = [1000] ∧ ∀ item ∈ transfer.items,
        (reached (transferOnRoad ++ [partialReceipt, closingReceipt])).lostQty 30 item.skuId = item.discrepancyQty := by
  have stored : ((reached (transferOnRoad ++ [partialReceipt, closingReceipt])).transfers.lookup 30).map
      (fun transfer => (transfer.status, transfer.items.map (·.discrepancyQty))) = some (.received, [1000]) := by
    decide
  obtain ⟨transfer, found, same⟩ := Option.map_eq_some_iff.mp stored
  rw [Prod.mk.injEq] at same
  refine ⟨transfer, found, same.2, transfer_losses_written_off ?_ found (.inl same.1)⟩
  exact ⟨trivial, trivial, trivial, trivial, trivial, trivial, trivial, trivial⟩

/-- A cancellation after a recorded loss writes nothing off. -/
theorem transfer_loss_dropped_on_cancel :
    ((reached (transferOnRoad ++ [partialReceipt, .cancelTransfer 30])).transfers.lookup 30).map
        (fun transfer => (transfer.status, transfer.items.map (·.discrepancyQty))) = some (.cancelled, [1000]) ∧
      (reached (transferOnRoad ++ [partialReceipt, .cancelTransfer 30])).lostQty 30 7 = 0 := by
  decide

end Inventory
