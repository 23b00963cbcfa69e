import RetailApi.Inventory.Thresholds
import RetailApi.Proofs.Reconciliation

/-! Below-minimum alerts. Of one key, a stretch of a transaction either lets available stock rise and says nothing, or lets it
fall and says so exactly where it crosses the minimum; stretches of one kind compose. A stocktake is neither. -/

namespace Inventory

open Transaction Store Records Run Change

def Event.isAlertFor (key : Key) : Event → Bool
  | .stockBelowMin alerted _ _ => alerted = key
  | _ => false

def Store.alerts (store : Store) (key : Key) : Nat := store.outbox.countP (Event.isAlertFor key)

/-- `on_hand_qty - reserved_qty` -/
def Store.available (store : Store) (key : Key) : Int := store.onHandQty key - store.reservedQty key

def fallsBelow (minimum : Option Int) (before after : Int) : Bool := minimum.any fun least => least ≤ before ∧ after < least

/-- Available stock that goes from at least the minimum of its key to below it. -/
def Store.crosses (before after : Store) (key : Key) : Bool :=
  fallsBelow (before.thresholds.lookup key) (before.available key) (after.available key)

/-- The same of the minimum that the code reads. -/
def Store.crossesRead (before after : Store) (key : Key) : Bool :=
  fallsBelow ((before.thresholds.lookup key).map minMilliOf) (before.available key) (after.available key)

/-- The code reads the minimum of a key as it is stored. -/
def Store.ReadsMinimum (store : Store) (key : Key) : Prop :=
  ∀ minQty, store.thresholds.lookup key = some minQty → minMilliOf minQty = minQty

theorem minMilliOf_exact {minQty : Int} (nonneg : 0 ≤ minQty) (small : minQty < 1000 * 2 ^ 41) : minMilliOf minQty = minQty := by
  have least : (0 : ℚ) ≤ minQty := by exact_mod_cast nonneg
  have most : (minQty : ℚ) < 1000 * 2 ^ 41 := by exact_mod_cast small
  have units : |(minQty : ℚ) / 1000| < 2 ^ 41 := by
    rw [abs_of_nonneg (by positivity)]
    linarith
  have near := abs_le.mp (JsNumber.nearest_within (show 12 ≤ 52 by decide) units)
  norm_num at near most
  apply JsNumber.mathRound_nearest
  · rw [abs_le]
    constructor <;> linarith
  · rw [abs_lt]
    constructor <;> linarith

theorem crossesRead_eq {before after : Store} {key : Key} (reads : before.ReadsMinimum key) :
    before.crossesRead after key = before.crosses after key := by
  rw [Store.crossesRead, Store.crosses]
  cases found : before.thresholds.lookup key with
  | none => rfl
  | some minQty => rw [Option.map_some, reads minQty found]

structure Quiet (key : Key) (before after : Store) : Prop where
  thresholds : after.thresholds = before.thresholds
  rises : before.available key ≤ after.available key
  silent : after.alerts key = before.alerts key

structure Told (key : Key) (before after : Store) : Prop where
  thresholds : after.thresholds = before.thresholds
  falls : after.available key ≤ before.available key
  told : after.alerts key = before.alerts key + if before.crossesRead after key then 1 else 0

theorem fallsBelow_of_le {minimum before after} (rises : before ≤ after) : fallsBelow minimum before after = false := by
  unfold fallsBelow
  cases minimum with
  | none => rfl
  | some least => simp only [Option.any_some, decide_eq_false_iff_not]; omega

theorem fallsBelow_trans (minimum : Option Int) {first second third} (left : second ≤ first) (right : third ≤ second) :
    (if fallsBelow minimum first third then 1 else 0) =
      (if fallsBelow minimum first second then 1 else 0) + if fallsBelow minimum second third then 1 else 0 := by
  unfold fallsBelow
  cases minimum with
  | none => rfl
  | some least =>
    simp only [Option.any_some, decide_eq_true_eq]
    split_ifs <;> omega

section Stretches

variable {key : Key} {before middle after store : Store}

theorem Quiet.refl (key : Key) (store : Store) : Quiet key store store := ⟨rfl, le_refl _, rfl⟩

theorem Quiet.trans (left : Quiet key before middle) (right : Quiet key middle after) : Quiet key before after :=
  ⟨right.thresholds.trans left.thresholds, left.rises.trans right.rises, right.silent.trans left.silent⟩

theorem Told.refl (key : Key) (store : Store) : Told key store store := by
  refine ⟨rfl, le_refl _, ?_⟩
  rw [crossesRead, fallsBelow_of_le (le_refl _)]
  rfl

theorem Told.trans (left : Told key before middle) (right : Told key middle after) : Told key before after := by
  refine ⟨right.thresholds.trans left.thresholds, right.falls.trans left.falls, ?_⟩
  have whole := fallsBelow_trans ((before.thresholds.lookup key).map minMilliOf) left.falls right.falls
  rw [right.told, left.told, crossesRead, crossesRead, crossesRead, left.thresholds]
  omega

theorem Quiet.told (quiet : Quiet key before after) (same : after.available key = before.available key) :
    Told key before after := by
  refine ⟨quiet.thresholds, same.le, ?_⟩
  rw [crossesRead, fallsBelow_of_le same.ge, quiet.silent]
  rfl

theorem available_of_balances (balances : after.balances = before.balances) (key : Key) :
    after.available key = before.available key := by
  simp only [available, onHandQty, reservedQty, balance_inStore balances]

theorem Quiet.of_records (balances : after.balances = before.balances) (thresholds : after.thresholds = before.thresholds)
    (silent : after.alerts key = before.alerts key) : Quiet key before after :=
  ⟨thresholds, (available_of_balances balances key).ge, silent⟩

theorem alerts_emit (store : Store) {event} (other : event.isAlertFor key = false) :
    (store.emit event).alerts key = store.alerts key := by
  simp [alerts, emit, other]

variable {other : Key} {guard : Balance → Bool}

theorem writeBalance_silent {balance} (written : store.writeBalance other balance = .ok after) : after.outbox = store.outbox := by
  unfold writeBalance at written
  split at written
  · cases written
    rfl
  · cases written

theorem upsertBalance_silent {fresh} {change}
    (written : store.upsertBalance other fresh change = .ok after) : after.outbox = store.outbox := by
  unfold upsertBalance at written
  split at written <;> exact writeBalance_silent written

theorem updateBalance_silent {change}
    (written : store.updateBalance other guard change = .ok after) : after.outbox = store.outbox := by
  unfold updateBalance at written
  split at written
  · cases written
    rfl
  split at written
  · exact writeBalance_silent written
  · cases written
    rfl

theorem updateBalanceReturning_silent {change} {updated}
    (written : store.updateBalanceReturning other guard change = .ok (after, updated)) : after.outbox = store.outbox := by
  simp only [updateBalanceReturning, eq_ok, Prod.mk.injEq] at written
  obtain ⟨_, _, _, _, middle, changed, rfl, _⟩ := written
  exact updateBalance_silent changed

theorem insertLedger_silent {row} (inserted : store.insertLedger row = .ok after) : after.outbox = store.outbox := by
  simp only [insertLedger, eq_ok] at inserted
  obtain ⟨_, _, rfl⟩ := inserted
  rfl

theorem recordMovement_silent {row} (recorded : store.recordMovement row = .ok after) (key : Key) :
    after.alerts key = store.alerts key := by
  simp only [recordMovement, eq_ok] at recorded
  obtain ⟨middle, inserted, rfl⟩ := recorded
  rw [alerts_emit middle rfl, alerts, insertLedger_silent inserted]
  rfl

theorem alerts_of_outbox (same : after.outbox = store.outbox) (key : Key) : after.alerts key = store.alerts key := by
  rw [alerts, same]
  rfl

theorem alerts_belowMin (store : Store) (other : Key) {availableBefore availableAfter} (nonnegative : 0 ≤ availableAfter) :
    (store.emitBelowMinOnCrossing other availableBefore availableAfter).alerts key = store.alerts key +
        if other = key ∧ fallsBelow ((store.thresholds.lookup other).map minMilliOf) availableBefore availableAfter then 1 else 0 := by
  unfold emitBelowMinOnCrossing
  split
  · next rises => simp [fallsBelow_of_le rises]
  split
  · next unset => simp [fallsBelow, unset]
  next minMilli found =>
  have positive : (0 < minMilli ∧ minMilli ≤ availableBefore ∧ availableAfter < minMilli) ↔
      fallsBelow ((store.thresholds.lookup other).map minMilliOf) availableBefore availableAfter = true := by
    simp only [fallsBelow, found, Option.any_some, decide_eq_true_eq]
    omega
  by_cases crosses : 0 < minMilli ∧ minMilli ≤ availableBefore ∧ availableAfter < minMilli
  · rw [if_pos crosses, positive.mp crosses]
    simp [alerts, emit, List.countP_append, List.countP_singleton, Event.isAlertFor]
  · rw [if_neg crosses, if_neg (fun both => crosses (positive.mpr both.2))]
    rfl

theorem Effect.available {change} (effect : Effect before after change) (key : Key) :
    after.available key = before.available key + (change (.onHand key) - change (.reserved key)) := by
  have onHand := effect.toMoved.apply (.onHand key)
  have reserved := effect.toMoved.apply (.reserved key)
  simp only [Store.measure] at onHand reserved
  unfold Store.available
  omega

theorem Effect.quiet {change} (effect : Effect before after change)
    (rises : 0 ≤ change (.onHand key) - change (.reserved key)) (silent : after.alerts key = before.alerts key) :
    Quiet key before after := by
  refine ⟨?_, ?_, silent⟩
  · have records := effect.records
    exact congrArg thresholds records
  · have moved := effect.available key
    omega

theorem Effect.told {change} (effect : Effect before after change) (taken : Key) (qty : Int)
    (takes : change (.onHand key) - change (.reserved key) = if taken = key then -qty else 0) (positive : 0 ≤ qty)
    (alerted : after.alerts key = before.alerts key +
      if taken = key ∧ fallsBelow ((before.thresholds.lookup taken).map minMilliOf) (before.available taken) (before.available taken - qty)
      then 1 else 0) : Told key before after := by
  have moved := effect.available key
  rw [takes] at moved
  refine ⟨congrArg thresholds effect.records, ?_, ?_⟩
  · split at moved <;> omega
  · by_cases same : taken = key
    · subst same
      rw [if_pos rfl] at moved
      rw [alerted, crossesRead, moved, Int.sub_eq_add_neg]
      simp only [true_and]
    · rw [if_neg same, add_zero] at moved
      rw [alerted, crossesRead, fallsBelow_of_le moved.ge, if_neg fun both => same both.1]
      rfl

end Stretches

section Lines

variable {store after : Store} {key : Key}

theorem postReceiptItem_quiet {receiptId receipt item}
    (ran : postReceiptItem receiptId receipt store item = .ok after) : Quiet key store after := by
  apply (postReceiptItem_effect ran).quiet
  · have positive := item.legal.1
    simp only [row]
    split <;> omega
  · simp only [postReceiptItem, eq_ok] at ran
    obtain ⟨_, _, _, _, middle, written, recorded⟩ := ran
    rw [recordMovement_silent recorded, alerts_of_outbox (upsertBalance_silent written)]

variable {transferId : Uuid}

theorem clearInTransit_silent {destination unitCost receiveNow cleared}
    (ran : clearInTransit store transferId destination unitCost receiveNow cleared = .ok after) (key : Key) :
    after.alerts key = store.alerts key := by
  unfold clearInTransit at ran
  split at ran
  · simp only [eq_ok] at ran
    obtain ⟨_, _, middle, recorded, written⟩ := ran
    rw [alerts_of_outbox (updateBalance_silent written), recordMovement_silent recorded]
  split at ran
  · exact alerts_of_outbox (updateBalance_silent ran) key
  · cases ran
    rfl

theorem receiveTransferLine_quiet {header} {resolve} {reqLine}
    (ran : receiveTransferLine transferId header resolve store reqLine = .ok after) : Quiet key store after := by
  have silent : after.alerts key = store.alerts key := by
    simp only [receiveTransferLine, eq_ok] at ran
    obtain ⟨_, _, _, _, _, _, _, _, _, _, _, _, _, _, _, _, middle, cleared, _, _, rfl⟩ := ran
    exact clearInTransit_silent cleared key
  obtain ⟨_, _, receives, _, _, _, _, _, _, _, effect⟩ := receiveTransferLine_ok ran
  refine (effect.quiet ?_ silent).trans (.of_records rfl rfl rfl)
  simp only [row]
  split <;> omega

theorem writeTransferLoss_quiet {header line}
    (ran : writeTransferLoss transferId header store line = .ok after) : Quiet key store after := by
  apply (writeTransferLoss_effect ran).quiet (le_refl _)
  simp only [writeTransferLoss, eq_ok] at ran
  obtain ⟨middle, inserted, recorded⟩ := ran
  rw [recordMovement_silent recorded, alerts_of_outbox (insertLedger_silent inserted)]

theorem cancelTransferItem_quiet {header item}
    (ran : cancelTransferItem transferId header store item = .ok after) : Quiet key store after := by
  apply (cancelTransferItem_effect ran).quiet
  · have legal := item.legal
    simp only [Pi.add_apply, row, StockTransferItem.remaining]
    split <;> split <;> omega
  · simp only [cancelTransferItem] at ran
    split at ran
    · cases ran
      rfl
    · simp only [eq_ok] at ran
      obtain ⟨_, _, taken, updated, _, _, restored, written, recorded⟩ := ran
      rw [recordMovement_silent recorded, alerts_of_outbox (upsertBalance_silent written),
        alerts_of_outbox (updateBalance_silent updated)]

theorem commitLine_quiet {header fulfillmentId line}
    (ran : commitLine header fulfillmentId store line = .ok after) : Quiet key store after := by
  apply (commitLine_effect ran).quiet
  · simp only [row]
    omega
  · simp only [commitLine, eq_ok] at ran
    obtain ⟨_, _, ⟨middle, updated⟩, written, recorded⟩ := ran
    rw [recordMovement_silent recorded, alerts_of_outbox (updateBalanceReturning_silent written)]

theorem giveBackLine_quiet {line} (ran : giveBackLine store line = .ok after) : Quiet key store after := by
  have silent := alerts_of_outbox (updateBalance_silent ran) key
  have positive := line.legal
  rcases updateBalance_cases ran with kept | ⟨version, given⟩
  · refine ⟨congrArg thresholds kept.records, le_of_eq ?_, silent⟩
    simp only [available, onHandQty, reservedQty, kept.balance]
    split
    · next same => rw [same]
    · rfl
  · refine ⟨congrArg thresholds given.records, ?_, silent⟩
    simp only [available, onHandQty, reservedQty, given.balance]
    split
    · next same =>
      rw [same]
      dsimp only
      omega
    · exact le_refl _

theorem approveStocktakeItem_silent {stockTakeId header} {forceRebase} {item}
    (ran : approveStocktakeItem stockTakeId header forceRebase store item = .ok after) (key : Key) :
    after.alerts key = store.alerts key := by
  simp only [approveStocktakeItem, eq_ok] at ran
  obtain ⟨_, _, _, _, _, _, ran⟩ := ran
  split at ran
  · cases ran
    rfl
  · simp only [eq_ok] at ran
    obtain ⟨_, _, _, _, middle, written, recorded⟩ := ran
    rw [recordMovement_silent recorded, alerts_of_outbox (upsertBalance_silent written)]

theorem updateBalance_thresholds {other} {guard} {change}
    (written : store.updateBalance other guard change = .ok after) : after.thresholds = store.thresholds := by
  rcases updateBalance_cases written with posted | ⟨_, posted⟩
  · exact congrArg thresholds posted.records
  · exact congrArg thresholds posted.records

section

variable {locked : Store} {source target : Key}

theorem available_kept (kept : store.balance source = locked.balance source) : locked.available source = store.available source := by
  simp only [available, onHandQty, reservedQty, kept]

theorem postIssueItem_told {issueId} {issue} {item} (own : source = ⟨issue.warehouseId, item.skuId⟩)
    (kept : store.balance source = locked.balance source) (enough : item.qty ≤ locked.onHandQty source - locked.reservedQty source)
    (ran : postIssueItem issueId issue locked store item = .ok after) : Told key store after := by
  have effect := (postIssueItem_effect own kept enough ran).1
  refine effect.told source item.qty ?_ item.legal.1.le ?_
  · simp only [row]
    split <;> omega
  · simp only [postIssueItem, ← own, eq_ok] at ran
    obtain ⟨_, _, middle, written, recorded⟩ := ran
    rw [recordMovement_silent recorded]
    refine (alerts_belowMin middle _ (Int.sub_nonneg_of_le enough)).trans ?_
    rw [alerts_of_outbox (updateBalance_silent written), updateBalance_thresholds written, ← available_kept kept]
    rfl

theorem dispatchTransferItem_told {header} {item}
    (own : source = ⟨header.fromWarehouseId, item.skuId⟩) (arrives : target = ⟨header.toWarehouseId, item.skuId⟩)
    (kept : store.balance source = locked.balance source)
    (enough : item.transferQty ≤ locked.onHandQty source - locked.reservedQty source)
    (ran : dispatchTransferItem transferId header locked store item = .ok after) : Told key store after := by
  have effect := (dispatchTransferItem_effect own arrives kept enough ran).1
  refine effect.told source item.transferQty ?_ (by have legal := item.legal; omega) ?_
  · simp only [Pi.add_apply, row]
    split <;> split <;> omega
  · simp only [dispatchTransferItem, ← own, ← arrives, eq_ok] at ran
    obtain ⟨_, _, sent, written, arriving, upserted, recorded⟩ := ran
    rw [recordMovement_silent recorded, alerts_of_outbox (upsertBalance_silent upserted),
      alerts_of_outbox (updateBalance_silent written), ← available_kept kept]
    exact alerts_belowMin store _ (Int.sub_nonneg_of_le enough)

end

theorem holdLine_told {line} (ran : holdLine store line = .ok after) : Told key store after := by
  have effect := holdLine_effect ran
  refine effect.told line.key line.qty ?_ line.legal.le ?_
  · simp only [row]
    split <;> omega
  · simp only [holdLine, eq_ok] at ran
    obtain ⟨⟨middle, updated⟩, written, rfl⟩ := ran
    obtain ⟨enough, version, same, posted⟩ := updateBalanceReturning_posts written
    have thresholds : middle.thresholds = store.thresholds := congrArg thresholds posted.records
    have remaining : updated.onHandQty - updated.reservedQty = store.available line.key - line.qty := by
      rw [same]
      simp only [available, onHandQty, reservedQty]
      omega
    have nonnegative : 0 ≤ store.available line.key - line.qty := by
      have legal := of_decide_eq_true enough
      simp only [available, onHandQty, reservedQty]
      omega
    rw [remaining, Int.sub_add_cancel, alerts_belowMin middle _ nonnegative,
      alerts_of_outbox (updateBalanceReturning_silent written), thresholds]

end Lines

section Operations

variable {store after : Store} {key : Key}

theorem quiet_loop {α : Type} {step : Store → α → Except Failure Store} {items : List α}
    (each : ∀ item before next, step before item = .ok next → Quiet key before next)
    (ran : items.foldlM step store = .ok after) : Quiet key store after :=
  foldlM_preserves (Quiet key store) (fun item _ before next so_far stepped => so_far.trans (each item before next stepped))
    (.refl key store) ran

variable {receiptId poId transferId reservationId issueId : Uuid}

theorem postReceiptInTx_quiet {idempotencyKey}
    (ran : postReceiptInTx store receiptId idempotencyKey = .ok after) : Quiet key store after := by
  simp only [postReceiptInTx, eq_ok] at ran
  obtain ⟨receipt, _, decision, _, ran⟩ := ran
  split at ran
  · exact pure_eq_ok.mp ran ▸ .refl key store
  · simp only [eq_ok] at ran
    obtain ⟨_, _, middle, posted, _, _, total, _, rfl⟩ := ran
    have looped : Quiet key store middle := quiet_loop (fun _ _ _ => postReceiptItem_quiet) posted
    exact looped.trans (.of_records rfl rfl (alerts_emit _ rfl))

theorem Quiet.purchasing : Purchasing (Quiet key) :=
  ⟨.refl key, .trans, fun balances _ _ _ thresholds outbox => .of_records balances thresholds (alerts_of_outbox outbox key),
    postReceiptInTx_quiet⟩

theorem approvePurchaseOrder_quiet (ran : approvePurchaseOrder store poId = .ok after) : Quiet key store after := by
  simp only [approvePurchaseOrder, eq_ok] at ran
  obtain ⟨_, _, ran⟩ := ran
  split at ran
  · cases ran
    exact .refl key store
  · simp only [eq_ok] at ran
    obtain ⟨_, _, rfl⟩ := ran
    exact .of_records rfl rfl (alerts_emit _ rfl)

theorem createTransfer_quiet {dto} {canApprove}
    (ran : createTransfer store transferId dto canApprove = .ok after) : Quiet key store after := by
  obtain ⟨transfer, _, _, _, rfl⟩ := createTransfer_ok ran
  exact .of_records rfl rfl rfl

theorem closeLosses_quiet {header nextStatus} {resolve : Bool}
    (ran : closeLosses transferId header nextStatus resolve store = .ok after) : Quiet key store after := by
  unfold closeLosses at ran
  split at ran
  · simp only [writeTransferLosses, eq_ok] at ran
    obtain ⟨transfer, _, looped⟩ := ran
    exact quiet_loop (fun _ _ _ => writeTransferLoss_quiet) looped
  · cases ran
    exact .refl key store

theorem receiveTransfer_quiet {dto} (ran : receiveTransfer store transferId dto = .ok after) : Quiet key store after := by
  simp only [receiveTransfer, eq_ok] at ran
  obtain ⟨_, _, header, _, _, _, _, _, middle, looped, transfer, _, closed, losses, rfl⟩ := ran
  have received : Quiet key store middle := quiet_loop (fun _ _ _ => receiveTransferLine_quiet) looped
  exact (received.trans (closeLosses_quiet losses)).trans (.of_records rfl rfl (alerts_emit _ rfl))

theorem cancelTransfer_quiet (ran : cancelTransfer store transferId = .ok after) : Quiet key store after := by
  simp only [cancelTransfer, eq_ok] at ran
  obtain ⟨header, _, _, _, middle, returned, rfl⟩ := ran
  have back : Quiet key store middle := by
    unfold returnToSource at returned
    split at returned
    · cases returned
      exact .refl key store
    · exact quiet_loop (fun _ _ _ => cancelTransferItem_quiet) returned
  exact back.trans (.of_records rfl rfl rfl)

theorem commitWarehouseReservation_quiet {fulfillmentId}
    (ran : commitWarehouseReservation store reservationId fulfillmentId = .ok after) : Quiet key store after := by
  simp only [commitWarehouseReservation, eq_ok] at ran
  obtain ⟨header, _, ran⟩ := ran
  split at ran
  · exact pure_eq_ok.mp ran ▸ .refl key store
  · simp only [eq_ok] at ran
    obtain ⟨_, _, middle, looped, rfl⟩ := ran
    exact (quiet_loop (fun _ _ _ => commitLine_quiet) looped).trans (.of_records rfl rfl (alerts_emit _ rfl))

theorem releaseWarehouseReservation_quiet
    (ran : releaseWarehouseReservation store reservationId = .ok after) : Quiet key store after := by
  simp only [releaseWarehouseReservation, eq_ok] at ran
  obtain ⟨header, _, ran⟩ := ran
  split at ran
  · exact pure_eq_ok.mp ran ▸ .refl key store
  · simp only [eq_ok] at ran
    obtain ⟨_, _, middle, looped, rfl⟩ := ran
    exact (quiet_loop (fun _ _ _ => giveBackLine_quiet) looped).trans (.of_records rfl rfl (alerts_emit _ rfl))

theorem expireWarehouseReservation_quiet {now}
    (ran : expireWarehouseReservation store reservationId now = .ok after) : Quiet key store after := by
  unfold expireWarehouseReservation at ran
  split at ran
  · cases ran
    exact .refl key store
  split at ran
  · simp only [eq_ok] at ran
    obtain ⟨middle, looped, rfl⟩ := ran
    exact (quiet_loop (fun _ _ _ => giveBackLine_quiet) looped).trans (.of_records rfl rfl (alerts_emit _ rfl))
  · cases ran
    exact .refl key store

theorem expireDue_quiet (store : Store) (now limit : Nat) : Quiet key store (expireDueWarehouseReservations store now limit) := by
  refine invariant (Quiet key store) (fun before reservationId so_far => ?_) (.refl key store) _
  exact commit_preserves (Quiet key store) so_far fun next expired => so_far.trans (expireWarehouseReservation_quiet expired)

theorem told_loop_apart {α : Type} {step : Store → α → Except Failure Store} (touched : α → Set Key) {items}
    (each : ∀ finished item rest before next, items = finished ++ item :: rest →
      (∀ other, (∀ earlier ∈ finished, other ∉ touched earlier) → before.balance other = store.balance other) →
      step before item = .ok next → Told key before next ∧ ∀ other ∉ touched item, next.balance other = before.balance other)
    (ran : items.foldlM step store = .ok after) : Told key store after := by
  refine (foldlM_links (fun finished middle => Told key store middle ∧
    ∀ other, (∀ earlier ∈ finished, other ∉ touched earlier) → middle.balance other = store.balance other)
    ⟨.refl key store, fun _ _ => rfl⟩ ?_ ran).1
  intro finished item rest middle next whole linked stepped
  obtain ⟨told, others⟩ := each finished item rest middle next whole linked.2 stepped
  refine ⟨linked.1.trans told, fun other outside => ?_⟩
  rw [others other (outside item (by simp)), linked.2 other fun earlier member => outside earlier (by simp [member])]

theorem postIssueInTx_told {idempotencyKey} (distinct : store.DraftNamesSkusOnce issueId)
    (ran : postIssueInTx store issueId idempotencyKey = .ok after) : Told key store after := by
  simp only [postIssueInTx, eq_ok] at ran
  obtain ⟨issue, found, ran⟩ := ran
  split at ran
  · simp only [eq_ok] at ran
    obtain ⟨_, _, rfl⟩ := ran
    exact .refl key store
  · simp only [eq_ok] at ran
    obtain ⟨_, draft, _, _, _, enough, middle, posted, _, _, rfl⟩ := ran
    have apart := orderBySku_nodup (distinct issue found draft)
    have looped : Told key store middle := told_loop_apart
      (fun item : StockIssueItem => {other | other = ⟨issue.warehouseId, item.skuId⟩})
      (fun finished item rest before next whole untouched stepped => by
        have fresh := nodup_split (whole ▸ apart)
        have kept := untouched ⟨issue.warehouseId, item.skuId⟩ fun other member same =>
          fresh other member (congrArg Key.skuId same).symm
        have inside : item ∈ orderBySku (·.skuId) issue.items := by simp [whole]
        exact ⟨postIssueItem_told rfl kept (enough item inside) stepped,
          (postIssueItem_effect rfl kept (enough item inside) stepped).2⟩) posted
    exact looped.trans (Quiet.told (.of_records rfl rfl (alerts_emit _ rfl)) rfl)

theorem createIssue_told {dto} {idempotencyKey} (spelled : dto.autoPost = true → dto.OneSpelling)
    (ran : createIssue store issueId dto idempotencyKey = .ok after) : Told key store after := by
  rcases createIssue_ok ran with rfl | ⟨issue, lines, free, normalized, inserted, ended⟩
  · exact .refl key after
  · have stored : Told key store { store with issues := store.issues.insert issueId issue } :=
      Quiet.told (.of_records rfl rfl rfl) rfl
    rcases ended with ⟨post, posted⟩ | rfl
    · refine stored.trans (postIssueInTx_told (fun found lookedUp _ => ?_) posted)
      rw [Table.lookup_insert_self] at lookedUp
      cases lookedUp
      exact issueItems_distinct (spelled post) normalized inserted
    · exact stored

theorem dispatchTransfer_told (ran : dispatchTransfer store transferId = .ok after) : Told key store after := by
  simp only [dispatchTransfer, findTransfer, assertCanDispatchStockTransfer, eq_ok] at ran
  obtain ⟨header, _, _, _, _, _, _, _, _, enough, middle, looped, sent, _, ran⟩ := ran
  split at ran
  swap
  · simp at ran
  rw [pure_eq_ok] at ran
  subst ran
  have apart := orderBySku_nodup header.distinct
  have told : Told key store middle := told_loop_apart
    (fun item : StockTransferItem =>
      {other | other = ⟨header.fromWarehouseId, item.skuId⟩ ∨ other = ⟨header.toWarehouseId, item.skuId⟩})
    (fun finished item rest before next whole untouched stepped => by
      have fresh := nodup_split (whole ▸ apart)
      have kept := untouched ⟨header.fromWarehouseId, item.skuId⟩ fun other member same => by
        rcases same with same | same
        · exact fresh other member (congrArg Key.skuId same).symm
        · exact header.apart (congrArg Key.warehouseId same)
      have inside : item ∈ orderBySku (·.skuId) header.items := by simp [whole]
      obtain ⟨_, others⟩ := dispatchTransferItem_effect rfl rfl kept (enough item inside) stepped
      exact ⟨dispatchTransferItem_told rfl rfl kept (enough item inside) stepped,
        fun other outside => others other (fun same => outside (.inl same)) fun same => outside (.inr same)⟩) looped
  exact told.trans (Quiet.told (.of_records rfl rfl (alerts_emit _ rfl)) rfl)

theorem reserveWarehouseStock_told {now idempotencyKey req answer}
    (ran : reserveWarehouseStock store reservationId now idempotencyKey req = .ok (after, answer)) :
    Told key store after := by
  simp only [reserveWarehouseStock, eq_ok] at ran
  obtain ⟨_, _, inputLines, _, _, _, _, _, ran⟩ := ran
  split at ran
  · simp only [eq_ok, Prod.mk.injEq] at ran
    obtain ⟨_, _, rfl, _⟩ := ran
    exact .refl key store
  · simp only [eq_ok, Prod.mk.injEq] at ran
    obtain ⟨_, _, lines, _, _, _, _, _, middle, looped, rfl, _⟩ := ran
    have told : Told key store middle := foldlM_preserves (Told key store)
      (fun _ _ _ _ so_far stepped => so_far.trans (holdLine_told stepped)) (.refl key store) looped
    exact told.trans (Quiet.told (.of_records rfl rfl (alerts_emit _ rfl)) rfl)

theorem approveStocktake_silent {stockTakeId} {forceRebase}
    (ran : approveStocktake store stockTakeId forceRebase = .ok after) : after.alerts key = store.alerts key := by
  simp only [approveStocktake, eq_ok] at ran
  obtain ⟨header, _, _, _, _, _, _, _, middle, looped, rfl⟩ := ran
  have silent : middle.alerts key = store.alerts key := foldlM_preserves (fun reached => reached.alerts key = store.alerts key)
    (fun _ _ _ _ so_far stepped => (approveStocktakeItem_silent stepped key).trans so_far) rfl looped
  exact (alerts_emit _ rfl).trans silent

end Operations

/-- An operation tells of a crossing unless it is the approval of a stocktake. -/
def Operation.tells : Operation → Bool
  | .approveStocktake _ _ => false
  | _ => true

section Performed

variable {store after : Store} {key : Key}

def Reported (key : Key) (before after : Store) : Prop :=
  after.alerts key = before.alerts key + if before.crossesRead after key then 1 else 0

theorem Quiet.reported (quiet : Quiet key store after) : Reported key store after := by
  rw [Reported, crossesRead, fallsBelow_of_le quiet.rises, quiet.silent]
  rfl

theorem Reported.unmoved (available : after.available key = store.available key)
    (silent : after.alerts key = store.alerts key) : Reported key store after := by
  rw [Reported, crossesRead, fallsBelow_of_le available.ge, silent]
  rfl

theorem execute_reported {operation} (tells : operation.tells = true) (once : operation.DeductsSkusOnce store)
    (ran : execute store operation = .ok after) : Reported key store after := by
  cases operation with
  | setWarehouse | setCatalog | setThreshold | setSupplier =>
    cases ran
    exact .unmoved rfl rfl
  | createReceipt receiptId dto idempotencyKey =>
    simp only [execute, createReceipt, eq_ok] at ran
    obtain ⟨⟨middle, answered⟩, created, rfl⟩ := ran
    exact (Quiet.purchasing.createReceiptInTx created).reported
  | postReceipt => exact (postReceiptInTx_quiet ran).reported
  | createIssue => exact (createIssue_told once ran).told
  | postIssue => exact (postIssueInTx_told once ran).told
  | createTransfer => exact (createTransfer_quiet ran).reported
  | dispatchTransfer => exact (dispatchTransfer_told ran).told
  | receiveTransfer => exact (receiveTransfer_quiet ran).reported
  | cancelTransfer => exact (cancelTransfer_quiet ran).reported
  | createStocktake =>
    simp only [execute, createStocktake, eq_ok] at ran
    obtain ⟨_, _, _, _, _, _, _, _, rfl⟩ := ran
    exact .unmoved rfl rfl
  | recordCounts =>
    simp only [execute, recordCounts, eq_ok] at ran
    obtain ⟨_, _, _, _, _, _, rfl⟩ := ran
    exact .unmoved rfl rfl
  | approveStocktake => cases tells
  | reserve =>
    simp only [execute, eq_ok] at ran
    obtain ⟨⟨held, answer⟩, reserved, rfl⟩ := ran
    exact (reserveWarehouseStock_told reserved).told
  | commitReservation => exact (commitWarehouseReservation_quiet ran).reported
  | releaseReservation => exact (releaseWarehouseReservation_quiet ran).reported
  | expireReservation => exact (expireWarehouseReservation_quiet ran).reported
  | expireDue now limit =>
    cases ran
    exact (expireDue_quiet store now limit).reported
  | createPurchaseOrder => exact (Quiet.purchasing.createPurchaseOrder ran).reported
  | approvePurchaseOrder => exact (approvePurchaseOrder_quiet ran).reported
  | receivePurchaseOrder => exact (Quiet.purchasing.receivePurchaseOrder ran).reported

end Performed

/-- After any run of requests, an operation adds one alert of a key where it takes available stock from at least the minimum
to below it, and none anywhere else; only the approval of a stocktake adds none either way. The minimum is one that the code
reads as it is stored, as every minimum below `2 ^ 41` is. -/
theorem below_min_alerts (requests : List StockRequest) (operation : Operation) (key : Key)
    (once : operation.DeductsSkusOnce (after performRequest {} requests))
    (reads : (after performRequest {} requests).ReadsMinimum key) :
    (perform (after performRequest {} requests) operation).alerts key =
      (after performRequest {} requests).alerts key +
        if operation.tells ∧ (after performRequest {} requests).crosses
            (perform (after performRequest {} requests) operation) key then 1 else 0 := by
  generalize after performRequest {} requests = store at once reads ⊢
  unfold perform
  cases executed : execute store operation with
  | error failure =>
    rw [commit, crosses, fallsBelow_of_le (le_refl _)]
    simp
  | ok after =>
    rw [commit]
    by_cases tells : operation.tells = true
    · have reported : Reported key store after := execute_reported tells once executed
      rw [reported, crossesRead_eq reads]
      simp only [tells, true_and]
    · cases operation with
      | approveStocktake =>
        rw [approveStocktake_silent executed]
        simp [Operation.tells]
      | _ => exact absurd rfl tells

def watchedShelf : List StockRequest :=
  stockedShelf.map .operation ++ [.upsertThreshold { warehouseId := 1, skuId := 7, minQty := "5" }]

def countedShelf : List StockRequest :=
  watchedShelf ++ [.operation (.createStocktake 30 { code := "T1", warehouseId := 1, skuIds := [.ofUuid 7] }),
    .operation (.recordCounts 30 [{ skuId := .ofUuid 7, countedQty := "3" }] false)]

theorem below_min_alerts_issue :
    (perform (after performRequest {} watchedShelf) (issueOnTwoLines (.ofUuid 7) (.ofUuid 7))).alerts ⟨1, 7⟩ =
      (after performRequest {} watchedShelf).alerts ⟨1, 7⟩ + 1 := by
  rw [below_min_alerts watchedShelf (issueOnTwoLines (.ofUuid 7) (.ofUuid 7)) ⟨1, 7⟩ ?once ?reads, if_pos (by decide +kernel)]
  case reads =>
    intro minQty found
    have stored : (after performRequest {} watchedShelf).thresholds.lookup ⟨1, 7⟩ = some 5000 := by decide +kernel
    cases found.symm.trans stored
    exact minMilliOf_exact (by decide) (by decide)
  intro _ first firstListed second secondListed _ _ _
  simp only [List.mem_cons, List.not_mem_nil, or_false] at firstListed secondListed
  rcases firstListed with rfl | rfl <;> rcases secondListed with rfl | rfl <;> rfl

/-- The approval takes available stock from ten to three, below the minimum of five, and says nothing. -/
theorem stocktake_falls_below_min_silently :
    (after performRequest {} countedShelf).crosses
        (perform (after performRequest {} countedShelf) (.approveStocktake 30 false)) ⟨1, 7⟩ = true ∧
      (perform (after performRequest {} countedShelf) (.approveStocktake 30 false)).alerts ⟨1, 7⟩ = 0 := by
  decide +kernel

end Inventory
