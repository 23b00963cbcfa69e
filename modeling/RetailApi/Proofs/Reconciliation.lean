import RetailApi.Proofs.StockSteps

/-! The warehouse books reconcile: balances agree with the ledger, the held lines and the
open transfers in every state a run reaches. -/

namespace Inventory

open Table Change StockTransferItem LedgerRow TransferStatus List StockTransfer Transaction Chain

def StockTransfer.onRoad (transfer : StockTransfer) (key : Key) : Int :=
  if transfer.status.isOpen = true ∧ transfer.toWarehouseId = key.warehouseId then transfer.sumOf (·.remaining) key.skuId
  else 0

/-- The in-transit counters agree with the transfers, whose lines fit their status. -/
structure TransfersKept (store : Store) : Prop where
  inTransit : ∀ key, store.inTransitQty key = store.openTransitQty key
  drafts : ∀ transferId transfer, store.transfers.lookup transferId = some transfer → transfer.status = .draft →
    ∀ item ∈ transfer.items, item.dispatchedQty = 0
  settled : ∀ transferId transfer, store.transfers.lookup transferId = some transfer → transfer.status = .received →
    ∀ item ∈ transfer.items, item.remaining = 0

theorem TransfersKept.empty : TransfersKept {} where
  inTransit _ := rfl
  drafts _ _ found := by cases found
  settled _ _ found := by cases found

theorem sumOf_remaining (transfer : StockTransfer) :
    transfer.sumOf (·.remaining) =
      transfer.sumOf (·.dispatchedQty) - transfer.sumOf (·.receivedQty) - transfer.sumOf (·.discrepancyQty) := by
  funext skuId
  unfold sumOf
  simp only [Pi.sub_apply]
  induction transfer.items with
  | nil => rfl
  | cons item items inner =>
    simp only [map_cons, sum_cons]
    rw [inner, remaining]
    split <;> omega

theorem sumOf_eq_zero {transfer : StockTransfer} {qty}
    (none : ∀ item ∈ transfer.items, qty item = 0) : transfer.sumOf qty = 0 := by
  funext skuId
  refine sum_eq_zero (forall_mem_map.mpr fun item inside => ?_)
  simp [none item inside]

theorem remaining_received {items} {resolve}
    (closed : nextTransferStatus items resolve = .received) : ∀ item ∈ items, item.remaining = 0 := by
  unfold nextTransferStatus at closed
  split at closed
  · cases closed
  · next settled =>
    intro item member
    have legal := item.legal
    have done : ¬item.receivedQty + item.discrepancyQty < item.dispatchedQty := fun open_ =>
      settled (any_eq_true.mpr ⟨item, member, decide_eq_true open_⟩)
    unfold remaining
    omega

theorem nextTransferStatus_cases (items : List StockTransferItem) (resolve : Bool) :
    nextTransferStatus items resolve = .received ∨ (nextTransferStatus items resolve).isOpen = true := by
  unfold nextTransferStatus
  split
  · exact .inr rfl
  · split
    · exact .inr rfl
    · exact .inl rfl

theorem onRoad_received (transfer : StockTransfer) (resolve : Bool) (key : Key) :
    ({ transfer with status := nextTransferStatus transfer.items resolve } : StockTransfer).onRoad key =
      if transfer.toWarehouseId = key.warehouseId then transfer.sumOf (·.remaining) key.skuId else 0 := by
  unfold onRoad
  rcases nextTransferStatus_cases transfer.items resolve with closed | open_
  · have nothing := congrFun (sumOf_eq_zero (remaining_received closed)) key.skuId
    simp only [closed, isOpen]
    simp [nothing]
  · simp only [open_, true_and]
    rfl

theorem sumOfSku_forall₂ {before after} {first second}
    (same : Forall₂ (fun old new => new.skuId = old.skuId ∧ second new = first old) before after) :
    sumOfSku after second = sumOfSku before first := by
  funext skuId
  unfold sumOfSku
  induction same with
  | nil => rfl
  | cons line _ inner => simp only [map_cons, sum_cons, inner, line.1, line.2]

section Steps

variable {store after : Store} {change : Change} {operation : Operation}

theorem openTransitQty_of_transfers (same : after.transfers = store.transfers) (key : Key) :
    after.openTransitQty key = store.openTransitQty key := by
  rw [Store.openTransitQty, same]
  rfl

theorem TransfersKept.same (kept : TransfersKept store) (inTransit : ∀ key, after.inTransitQty key = store.inTransitQty key)
    (transfers : after.transfers = store.transfers) : TransfersKept after := by
  refine ⟨fun key => ?_, ?_, ?_⟩
  · rw [inTransit, kept.inTransit key, openTransitQty_of_transfers transfers]
  · rw [transfers]
    exact kept.drafts
  · rw [transfers]
    exact kept.settled

theorem sum_inTransit_zero (lines : List ReservationLine) (onHand reserved : ReservationLine → Int) (key : Key) :
    (lines.map fun line => row line.key (onHand line) (reserved line) 0).sum (.inTransit key) = 0 := by
  rw [sum_changes_apply]
  simp [row]

theorem TransfersKept.put (kept : TransfersKept store) (measure : after.measure = store.measure + change)
    {transferId old new} (found : store.transfers.lookup transferId = some old)
    (records : after.toRecords = (store.putTransfer transferId new).toRecords)
    (road : ∀ key, change (.inTransit key) = new.onRoad key - old.onRoad key) (sent : new.status ≠ .draft)
    (settled : new.status = .received → ∀ item ∈ new.items, item.remaining = 0) : TransfersKept after := by
  have transfers : after.transfers = store.transfers.insert transferId new := by
    rw [records]
    rfl
  refine ⟨fun key => ?_, ?_, ?_⟩
  · have moved : after.inTransitQty key = store.inTransitQty key + change (.inTransit key) :=
      congrFun measure (.inTransit key)
    have sum : after.openTransitQty key = store.openTransitQty key - old.onRoad key + new.onRoad key := by
      rw [Store.openTransitQty, transfers, sumBy_insert_existing found]
      rfl
    rw [moved, sum, road, kept.inTransit key]
    omega
  · rw [transfers]
    exact forall_insert (fun draft => absurd draft sent) kept.drafts
  · rw [transfers]
    exact forall_insert settled kept.settled

theorem TransfersKept.plan (kept : TransfersKept store) {transferId} {transfer}
    (free : store.transfers.lookup transferId = none) (draft : transfer.status = .draft)
    (fresh : ∀ item ∈ transfer.items, item.dispatchedQty = 0) : TransfersKept (store.putTransfer transferId transfer) := by
  refine ⟨fun key => ?_, ?_, ?_⟩
  · have nothing : ¬(transfer.status.isOpen = true ∧ transfer.toWarehouseId = key.warehouseId) := by
      simp [draft, isOpen]
    rw [Store.openTransitQty, Store.putTransfer, sumBy_insert_fresh free, if_neg nothing, add_zero]
    exact kept.inTransit key
  · exact forall_insert (fun _ => fresh) kept.drafts
  · exact forall_insert (by simp [draft]) kept.settled

theorem sumOf_remaining_dispatched {header sent : StockTransfer} (none : ∀ item ∈ header.items, item.dispatchedQty = 0)
    (lines : Forall₂ Dispatched header.items sent.items) :
    sent.sumOf (·.remaining) = header.sumOf (·.transferQty) := by
  refine sumOfSku_forall₂ (forall₂_iff_get.mpr ?_)
  obtain ⟨length, each⟩ := forall₂_iff_get.mp lines
  refine ⟨length, fun index first second => ?_⟩
  have line := each index first second
  have empty := none _ (get_mem header.items ⟨index, first⟩)
  have legal := (header.items.get ⟨index, first⟩).legal
  refine ⟨line.sku, ?_⟩
  rw [remaining, line.dispatched, line.received, line.lost]
  omega

theorem nextTransferStatus_ne_draft (items : List StockTransferItem) (resolve : Bool) :
    nextTransferStatus items resolve ≠ .draft := by
  intro draft
  rcases nextTransferStatus_cases items resolve with closed | stillOpen
  · simp [closed] at draft
  · simp [draft, isOpen] at stillOpen

theorem TransfersKept.moves (kept : TransfersKept store) (moves : Moves store operation after) : TransfersKept after := by
  cases moves with
  | shelf moved => exact kept.same moved.inTransit moved.transfers
  | hold _ _ measure _ transfers =>
    refine kept.same (fun key => ?_) transfers
    have moved := congrFun measure (.inTransit key)
    rw [Pi.add_apply, sum_inTransit_zero, add_zero] at moved
    exact moved
  | endHold _ _ _ measure _ transfers =>
    refine kept.same (fun key => ?_) transfers
    have moved := congrFun measure (.inTransit key)
    rw [Pi.add_apply, sum_inTransit_zero, add_zero] at moved
    exact moved
  | plan free draft fresh => exact kept.plan free draft fun item member => (fresh item member).1
  | @dispatch _ transferId header sent found draft dispatched source destination lines measure records =>
    refine kept.put measure found records (fun key => ?_) (by simp [dispatched]) (by simp [dispatched])
    have all := sumOf_remaining_dispatched (kept.drafts transferId header found draft) lines
    simp only [Pi.add_apply, shift, onRoad, draft, dispatched, destination, all]
    simp [isOpen]
  | receive found road progress measure records =>
    refine kept.put measure found records (fun key => ?_) (nextTransferStatus_ne_draft _ _) remaining_received
    rw [onRoad_received, progress.destination]
    simp only [onRoad, road, true_and, sumOf_remaining, progress.dispatchedQty, progress.receivedQty,
      progress.discrepancyQty, Pi.add_apply, Pi.sub_apply, shift, writeOff, Pi.neg_apply]
    split <;> omega
  | @cancel _ transferId header found cancellable measure records =>
    refine kept.put measure found records (fun key => ?_) (by simp) (by simp)
    simp only [Pi.add_apply, shift, onRoad, returned, Pi.neg_apply]
    by_cases there : header.toWarehouseId = key.warehouseId <;>
      rcases cancellable with status | status | status <;> simp [status, isOpen, there]

end Steps

theorem transfersKept_of_run (operations : List Operation) : TransfersKept (reached operations) :=
  (run_keeps TransfersKept HoldsKept.empty (fun _ _ _ => trivial) (fun _ _ _ _ step kept => kept.moves step.moves)
    (Run.meets_of_inputs fun _ _ => trivial) TransfersKept.empty).2

structure Reconciled (store : Store) : Prop where
  books : Books store
  holds : HoldsKept store
  transfers : TransfersKept store

theorem Books.empty : Books {} :=
  ⟨fun _ => rfl, fun _ => (valueOf_zero _).symm⟩

theorem reconciled_of_run {operations}
    (once : Run.Meets perform (fun store operation => operation.DeductsSkusOnce store) {} operations) :
    Reconciled (reached operations) := by
  obtain ⟨holds, books⟩ := run_keeps Books HoldsKept.empty (fun _ _ _ => trivial) (fun _ _ _ met step => step.books met) once
    Books.empty
  exact ⟨books, holds, transfersKept_of_run operations⟩

theorem compareBalance_eq_nil {key kind balanceValue expectedValue} :
    compareBalance key kind balanceValue expectedValue = [] ↔ balanceValue = expectedValue := by
  unfold compareBalance
  split <;> simp_all

theorem Reconciled.ledgerNetQty {store} (reconciled : Reconciled store) (key : Key) :
    store.onHandQty key = store.ledgerNetQty key := by
  have total := (reconciled.books.chained key).total
  rwa [zero_add] at total

theorem Reconciled.reconcile {store} (reconciled : Reconciled store) : reconcile store = [] := by
  rw [Inventory.reconcile, flatMap_eq_nil_iff]
  intro entry listed
  have found : store.balances.lookup entry.1 = some entry.2 := AList.mem_lookup_iff.mpr listed
  have same := balance_of_lookup found
  simp only [reconcileRow, append_eq_nil_iff, compareBalance_eq_nil, ← same]
  exact ⟨⟨reconciled.ledgerNetQty entry.1, reconciled.holds entry.1⟩, reconciled.transfers.inTransit entry.1⟩

/-- The warehouse books reconcile after every run in which no issue deducts one SKU on two lines. -/
theorem stock_books_reconcile {operations : List Operation}
    (once : Run.Meets perform (fun store operation => operation.DeductsSkusOnce store) {} operations) :
    (∀ key, (reached operations).onHandQty key = (reached operations).ledgerNetQty key ∧
      (reached operations).reservedQty key = (reached operations).heldQty key ∧
      (reached operations).inTransitQty key = (reached operations).openTransitQty key ∧
      0 ≤ (reached operations).reservedQty key ∧
      (reached operations).reservedQty key ≤ (reached operations).onHandQty key ∧
      0 ≤ (reached operations).inTransitQty key) ∧
    reconcile (reached operations) = [] := by
  have reconciled := reconciled_of_run once
  refine ⟨fun key => ?_, reconciled.reconcile⟩
  exact ⟨reconciled.ledgerNetQty key, reconciled.holds key, reconciled.transfers.inTransit key, reservedQty_nonneg _ key,
    reservedQty_le_onHandQty _ key, inTransitQty_nonneg _ key⟩

def stockedShelf : List Operation :=
  [.setWarehouse 1 { code := "W1", kind := .branch, branchId := none, isDefault := true, status := .active },
    .createReceipt 10 { code := "R1", warehouseId := 1, autoPost := true,
                        items := [{ skuId := Text.ofUuid 7, qty := "10", unitCost := some 5000 }] } none]

/-- An issue of SKU 7 on two lines, which merge as long as both spell it alike. -/
def issueOnTwoLines (first second : Text) : Operation :=
  .createIssue 20 { code := "I1", warehouseId := 1, autoPost := true,
                    items := [{ skuId := first, qty := "3" }, { skuId := second, qty := "4" }] } none

theorem issueOnTwoLines_once (text : Text) :
    Run.Meets perform (fun store operation => operation.DeductsSkusOnce store) {}
      (stockedShelf ++ [issueOnTwoLines text text]) := by
  refine ⟨trivial, trivial, fun _ => ?_, trivial⟩
  intro first firstListed second secondListed _ _ _
  simp only [mem_cons, not_mem_nil, or_false] at firstListed secondListed
  rcases firstListed with rfl | rfl <;> rcases secondListed with rfl | rfl <;> rfl

theorem stock_books_reconcile_spelled_alike :
    reconcile (reached (stockedShelf ++ [issueOnTwoLines (.uuid 7 0) (.uuid 7 0)])) = [] :=
  (stock_books_reconcile (issueOnTwoLines_once (.uuid 7 0))).2

/-- Two spellings of one SKU make two lines, both valued at the balance locked before the first. -/
theorem stock_books_diverge_spelled_apart :
    (reached (stockedShelf ++ [issueOnTwoLines (.uuid 7 0) (.uuid 7 1)])).onHandQty ⟨1, 7⟩ = 6000 ∧
      (reached (stockedShelf ++ [issueOnTwoLines (.uuid 7 0) (.uuid 7 1)])).ledgerNetQty ⟨1, 7⟩ = 3000 ∧
      reconcile (reached (stockedShelf ++ [issueOnTwoLines (.uuid 7 0) (.uuid 7 1)])) ≠ [] := by
  decide

/-- Each balance's ledger is a chain that ends at its on-hand quantity, and its value is that quantity
at the average cost, after every run in which no issue deducts one SKU on two lines. -/
theorem stock_ledger_chained {operations : List Operation}
    (once : Run.Meets perform (fun store operation => operation.DeductsSkusOnce store) {} operations) (key : Key) :
    Linked qtyDelta onHandAfter 0 ((reached operations).entriesOf key)
        ((reached operations).onHandQty key) ∧
      ((reached operations).balance key).valuationAmount =
        valueOf ((reached operations).balance key).onHandQty
          ((reached operations).balance key).avgUnitCost := by
  have books := (reconciled_of_run once).books
  exact ⟨books.chained key, books.valued key⟩

theorem stock_ledger_chained_spelled_alike :
    Linked qtyDelta onHandAfter 0
      ((reached (stockedShelf ++ [issueOnTwoLines (.uuid 7 0) (.uuid 7 0)])).entriesOf ⟨1, 7⟩)
      ((reached (stockedShelf ++ [issueOnTwoLines (.uuid 7 0) (.uuid 7 0)])).onHandQty ⟨1, 7⟩) :=
  (stock_ledger_chained (issueOnTwoLines_once (.uuid 7 0)) ⟨1, 7⟩).1

theorem stock_ledger_broken_spelled_apart :
    ¬Linked qtyDelta onHandAfter 0
      ((reached (stockedShelf ++ [issueOnTwoLines (.uuid 7 0) (.uuid 7 1)])).entriesOf ⟨1, 7⟩)
      ((reached (stockedShelf ++ [issueOnTwoLines (.uuid 7 0) (.uuid 7 1)])).onHandQty ⟨1, 7⟩) := by
  decide

end Inventory
