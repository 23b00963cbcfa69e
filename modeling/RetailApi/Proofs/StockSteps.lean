import RetailApi.Base.Run
import RetailApi.Proofs.TransferOperations

/-! The steps of the warehouse store: every committed operation is one of a few kinds of
step, and an invariant of the steps is an invariant of every run. -/

namespace Inventory

open Transaction Change

/-- Nothing but on-hand stock and other records has moved, and the books are kept on a condition. -/
structure ShelfMoved (condition : Prop) (before after : Store) : Prop where
  reserved : ∀ key, after.reservedQty key = before.reservedQty key
  inTransit : ∀ key, after.inTransitQty key = before.inTransitQty key
  lost : ∀ transferId skuId, after.lostQty transferId skuId = before.lostQty transferId skuId
  reservations : after.reservations = before.reservations
  transfers : after.transfers = before.transfers
  books : condition → Books before → Books after

theorem ShelfMoved.trans {condition} {first second third} (left : ShelfMoved condition first second)
    (right : ShelfMoved condition second third) : ShelfMoved condition first third where
  reserved key := (right.reserved key).trans (left.reserved key)
  inTransit key := (right.inTransit key).trans (left.inTransit key)
  lost transferId skuId := (right.lost transferId skuId).trans (left.lost transferId skuId)
  reservations := right.reservations.trans left.reservations
  transfers := right.transfers.trans left.transfers
  books met kept := right.books met (left.books met kept)

/-- The kinds of step, each with the quantities and the documents it moves. -/
inductive Moves (before : Store) : Operation → Store → Prop where
  /-- Receipts, issues, counts and everything that only writes records. -/
  | shelf {operation after condition} (moved : ShelfMoved condition before after) : Moves before operation after
  | hold {operation after reservationId} {reservation : WarehouseReservation}
      (free : before.reservations.lookup reservationId = none) (held : reservation.state = .held)
      (measure : after.measure = before.measure +
        (reservation.lines.map fun line => row line.key 0 line.qty 0).sum)
      (reservations : after.reservations = before.reservations.insert reservationId reservation)
      (transfers : after.transfers = before.transfers) : Moves before operation after
  | endHold {operation after reservationId header state} {onHand : ReservationLine → Int}
      (found : before.reservations.lookup reservationId = some header) (held : header.state = .held)
      (ended : state ≠ .held)
      (measure : after.measure = before.measure +
        (header.lines.map fun line => row line.key (onHand line) (-line.qty) 0).sum)
      (reservations : after.reservations = before.reservations.insert reservationId { header with state })
      (transfers : after.transfers = before.transfers) : Moves before operation after
  | plan {operation transferId transfer} (free : before.transfers.lookup transferId = none)
      (draft : transfer.status = .draft)
      (fresh : ∀ item ∈ transfer.items, item.dispatchedQty = 0 ∧ item.receivedQty = 0 ∧ item.discrepancyQty = 0) :
      Moves before operation (before.putTransfer transferId transfer)
  | dispatch {after transferId header sent} (found : before.transfers.lookup transferId = some header)
      (draft : header.status = .draft) (dispatched : sent.status = .dispatched)
      (source : sent.fromWarehouseId = header.fromWarehouseId)
      (destination : sent.toWarehouseId = header.toWarehouseId) (lines : List.Forall₂ Dispatched header.items sent.items)
      (measure : after.measure = before.measure +
        (shift header.fromWarehouseId (header.sumOf fun item => -item.transferQty) 0 +
          shift header.toWarehouseId 0 (header.sumOf (·.transferQty))))
      (records : after.toRecords = (before.putTransfer transferId sent).toRecords) :
      Moves before (.dispatchTransfer transferId) after
  | receive {after transferId dto header transfer received lost}
      (found : before.transfers.lookup transferId = some header) (road : header.status.isOpen = true)
      (progress : Progressed header transfer received lost)
      (measure : after.measure = before.measure +
        (shift header.toWarehouseId received (-(received + lost)) +
          writeOff transferId transfer dto.resolveDiscrepancy))
      (records : after.toRecords = (before.putTransfer transferId
        { transfer with status := nextTransferStatus transfer.items dto.resolveDiscrepancy }).toRecords) :
      Moves before (.receiveTransfer transferId dto) after
  | cancel {after transferId header} (found : before.transfers.lookup transferId = some header)
      (cancellable : header.status = .draft ∨ header.status = .dispatched ∨ header.status = .partiallyReceived)
      (measure : after.measure = before.measure +
        (shift header.fromWarehouseId header.returned 0 +
          shift header.toWarehouseId 0 (-header.returned)))
      (records : after.toRecords = (before.putTransfer transferId { header with status := .cancelled }).toRecords) :
      Moves before (.cancelTransfer transferId) after

def CreateStockIssueDto.OneSpelling (dto : CreateStockIssueDto) : Prop :=
  ∀ first ∈ dto.items, ∀ second ∈ dto.items, ∀ skuId, first.skuId.toUuid = .ok skuId → second.skuId.toUuid = .ok skuId →
    first.skuId = second.skuId

theorem insertIssueItem_sku {line item} (inserted : insertIssueItem line = .ok item) : line.skuId.toUuid = .ok item.skuId := by
  simp only [insertIssueItem, eq_ok] at inserted
  obtain ⟨skuId, parsed, inserted⟩ := inserted
  split at inserted
  · rw [pure_eq_ok] at inserted
    rw [parsed, ← inserted]
  · simp at inserted

theorem issueItems_distinct {dto : CreateStockIssueDto} (spelled : dto.OneSpelling) {lines items}
    (normalized : normalizeAndSortWarehouseLines
      (dto.items.map fun item => ⟨Text.ofUuid dto.warehouseId, item.skuId, item.qty⟩) = .ok lines)
    (inserted : lines.mapM insertIssueItem = .ok items) : (items.map (·.skuId)).Nodup := by
  obtain ⟨distinct, drawn⟩ := normalizeAndSortWarehouseLines_ok normalized
  have given : ∀ line ∈ lines, ∃ item ∈ dto.items, line.texts = (Text.ofUuid dto.warehouseId, item.skuId) := by
    intro line member
    obtain ⟨given, inside, same⟩ := drawn line member
    obtain ⟨item, listed, rfl⟩ := List.mem_map.mp inside
    exact ⟨item, listed, same⟩
  clear normalized drawn
  induction mapM_eq_ok.mp inserted with
  | nil => simp
  | @cons line item lines items first rest inner =>
    rw [List.map_cons, List.nodup_cons] at distinct ⊢
    refine ⟨fun repeated => ?_, inner (mapM_eq_ok.mpr rest) distinct.2 fun other member => given other (.tail _ member)⟩
    obtain ⟨twin, inside, same⟩ := List.mem_map.mp repeated
    obtain ⟨other, member, made⟩ := mapM_mem (mapM_eq_ok.mpr rest) inside
    obtain ⟨left, leftListed, leftTexts⟩ := given line (.head _)
    obtain ⟨right, rightListed, rightTexts⟩ := given other (.tail _ member)
    have leftSku : line.skuId = left.skuId := congrArg Prod.snd leftTexts
    have rightSku : other.skuId = right.skuId := congrArg Prod.snd rightTexts
    have leftParsed := insertIssueItem_sku first
    have rightParsed := insertIssueItem_sku made
    rw [leftSku] at leftParsed
    rw [rightSku, same] at rightParsed
    have texts := spelled left leftListed right rightListed item.skuId leftParsed rightParsed
    refine distinct.1 (List.mem_map.mpr ⟨other, member, ?_⟩)
    rw [leftTexts, rightTexts, texts]

/-- The postings that keep the books: no issue deducts one SKU on two lines. -/
def Operation.DeductsSkusOnce (store : Store) : Operation → Prop
  | .createIssue _ dto _ => dto.autoPost = true → dto.OneSpelling
  | .postIssue issueId _ => store.DraftNamesSkusOnce issueId
  | _ => True

structure Step (before : Store) (operation : Operation) (after : Store) : Prop where
  moves : Moves before operation after
  books : operation.DeductsSkusOnce before → Books before → Books after

def HoldsKept (store : Store) : Prop := ∀ key, store.reservedQty key = store.heldQty key

section Steps

variable {store after : Store} {operation : Operation}

variable {condition : Prop} {reservationId : Uuid} {header : WarehouseReservation} {state : ReservationState}
  {Met : Store → Operation → Prop}

theorem ShelfMoved.of_moved {change} (moved : Moved store after change)
    (only : change.OnHandOnly) (reservations : after.reservations = store.reservations)
    (transfers : after.transfers = store.transfers) : ShelfMoved condition store after := by
  refine ⟨fun key => ?_, fun key => ?_, fun transferId skuId => ?_, reservations, transfers, fun _ => moved.books⟩
  · have same := moved.apply (.reserved key)
    rwa [only.1, add_zero] at same
  · have same := moved.apply (.inTransit key)
    rwa [only.2.1, add_zero] at same
  · have same := moved.apply (.lost transferId skuId)
    rwa [only.2.2, add_zero] at same

theorem ShelfMoved.of_records (balances : after.balances = store.balances)
    (ledger : after.ledger = store.ledger) (reservations : after.reservations = store.reservations)
    (transfers : after.transfers = store.transfers) : ShelfMoved condition store after :=
  .of_moved ((Moved.refl store).inStore balances ledger) onHandOnly_zero reservations transfers

theorem ShelfMoved.refl (condition : Prop) (store : Store) : ShelfMoved condition store store :=
  .of_records rfl rfl rfl rfl

theorem ShelfMoved.step (moved : ShelfMoved condition store after)
    (met : operation.DeductsSkusOnce store → condition) : Step store operation after :=
  ⟨.shelf moved, fun once => moved.books (met once)⟩

theorem Step.refl (store : Store) (operation : Operation) : Step store operation store :=
  (ShelfMoved.refl True store).step fun _ => trivial

theorem HoldsKept.covers (holds : HoldsKept store) (header : WarehouseReservation)
    (found : store.reservations.lookup reservationId = some header) : store.Covers header := by
  intro held key
  rw [holds key]
  have bound := Table.le_sumBy
    (fun _ reservation => if reservation.state = .held then reservation.qtyOf key else 0) found
    fun _ reservation _ => by
      split
      · exact qtyOf_nonneg reservation.lines key
      · exact le_rfl
  rwa [if_pos held] at bound

theorem Step.endHold {onHand} (ended : state ≠ .held)
    (ends : EndsHold store reservationId state onHand after) : Step store operation after := by
  obtain ⟨header, found, held, moved, records⟩ := ends
  exact ⟨.endHold found held ended moved.measure (by rw [records]) (by rw [records]), fun _ => moved.books⟩

theorem reserveWarehouseStock_step {now idempotencyKey req result}
    (ran : reserveWarehouseStock store reservationId now idempotencyKey req = .ok result) :
    Step store operation result.1 := by
  rcases reserveWarehouseStock_ok ran with same | ⟨reservation, free, held, _, moved, records⟩
  · rw [same]
    exact .refl store operation
  · exact ⟨.hold free held moved.measure (by rw [records]) (by rw [records]), fun _ => moved.books⟩

theorem commitWarehouseReservation_step {fulfillmentId}
    (ran : commitWarehouseReservation store reservationId fulfillmentId = .ok after) : Step store operation after := by
  rcases commitWarehouseReservation_ok ran with rfl | ends
  · exact .refl after operation
  · exact .endHold (by simp) ends

theorem releaseWarehouseReservation_step (holds : HoldsKept store)
    (ran : releaseWarehouseReservation store reservationId = .ok after) : Step store operation after := by
  rcases releaseWarehouseReservation_ok holds.covers ran with rfl | ends
  · exact .refl after operation
  · exact .endHold (by simp) ends

theorem expireWarehouseReservation_step (holds : HoldsKept store) {now}
    (ran : expireWarehouseReservation store reservationId now = .ok after) : Step store operation after := by
  rcases expireWarehouseReservation_ok holds.covers ran with rfl | ends
  · exact .refl after operation
  · exact .endHold (by simp) ends

section Shelf

variable {condition : Prop}

variable {receiptId poId issueId : Uuid} {idempotencyKey : Option String}

theorem postReceiptInTx_shelf
    (ran : postReceiptInTx store receiptId idempotencyKey = .ok after) : ShelfMoved condition store after := by
  rcases postReceiptInTx_ok ran with ⟨rfl, _⟩ | ⟨receipt, key, found, _, moved, records⟩
  · exact .refl condition after
  · exact .of_moved moved (onHandOnly_sum _ fun _ _ => onHandOnly_row _ _) (by rw [records])
      (by rw [records])

/-- A relation of stores that every posted receipt and every change of records alone keeps to. -/
structure Purchasing (related : Store → Store → Prop) : Prop where
  refl : ∀ store, related store store
  trans : ∀ {first second third}, related first second → related second third → related first third
  records : ∀ {before after : Store}, after.balances = before.balances → after.ledger = before.ledger →
    after.reservations = before.reservations → after.transfers = before.transfers → after.thresholds = before.thresholds →
    after.outbox = before.outbox → related before after
  posts : ∀ {before after receiptId key}, postReceiptInTx before receiptId key = .ok after → related before after

namespace Purchasing

variable {related : Store → Store → Prop} (purchasing : Purchasing related)

include purchasing

theorem createReceiptInTx {answered dto}
    (ran : Inventory.createReceiptInTx store receiptId dto idempotencyKey = .ok (after, answered)) : related store after := by
  rcases createReceiptInTx_ok ran with ⟨rfl, _⟩ | ⟨receipt, _, _, _, _, _, _, _, _, _, ended⟩
  · exact purchasing.refl after
  · have stored : related store { store with receipts := store.receipts.insert receiptId receipt } :=
      purchasing.records rfl rfl rfl rfl rfl rfl
    split at ended
    · exact purchasing.trans stored (purchasing.posts ended)
    · exact ended ▸ stored

theorem receivePurchaseOrder {code lines}
    (ran : Inventory.receivePurchaseOrder store poId receiptId code lines idempotencyKey = .ok after) : related store after := by
  simp only [Inventory.receivePurchaseOrder, findPurchaseOrder, eq_ok] at ran
  obtain ⟨header, _, ran⟩ := ran
  split at ran
  · simp only [eq_ok] at ran
    obtain ⟨_, _, rfl⟩ := ran
    exact purchasing.refl store
  · simp only [eq_ok] at ran
    obtain ⟨_, _, ⟨order, receiptItems⟩, _, ⟨middle, answered⟩, created, rfl⟩ := ran
    have ordered : related store (store.putPurchaseOrder poId order) := purchasing.records rfl rfl rfl rfl rfl rfl
    exact purchasing.trans (purchasing.trans ordered (purchasing.createReceiptInTx created))
      (purchasing.records rfl rfl rfl rfl rfl rfl)

theorem createPurchaseOrder {dto} (ran : Inventory.createPurchaseOrder store poId dto = .ok after) : related store after := by
  simp only [Inventory.createPurchaseOrder, eq_ok] at ran
  obtain ⟨_, _, _, _, _, _, _, _, _, _, _, _, _, _, _, _, ran⟩ := ran
  split at ran
  · cases ran
    exact purchasing.records rfl rfl rfl rfl rfl rfl
  · simp at ran

end Purchasing

theorem ShelfMoved.purchasing : Purchasing (ShelfMoved condition) :=
  ⟨.refl condition, .trans, fun balances ledger held moved _ _ => .of_records balances ledger held moved, postReceiptInTx_shelf⟩

theorem approvePurchaseOrder_shelf (ran : approvePurchaseOrder store poId = .ok after) :
    ShelfMoved condition store after := by
  simp only [approvePurchaseOrder, eq_ok] at ran
  obtain ⟨_, _, ran⟩ := ran
  split at ran
  · cases ran
    exact .refl condition store
  · simp only [eq_ok] at ran
    obtain ⟨_, _, rfl⟩ := ran
    exact .of_records rfl rfl rfl rfl

theorem approveStocktake_shelf {stockTakeId} {forceRebase}
    (ran : approveStocktake store stockTakeId forceRebase = .ok after) : ShelfMoved condition store after := by
  obtain ⟨change, approved, moved, only, records⟩ := approveStocktake_ok ran
  exact .of_moved moved only (by rw [records]) (by rw [records])

theorem postIssueItem_shelf {issue locked item}
    (ran : postIssueItem issueId issue locked store item = .ok after) : ShelfMoved False store after := by
  simp only [postIssueItem, eq_ok] at ran
  obtain ⟨valuation, _, middle, written, recorded⟩ := ran
  have posted : ∃ balance : Balance, Posting store middle ⟨issue.warehouseId, item.skuId⟩ balance [] ∧
      balance.reservedQty = store.reservedQty ⟨issue.warehouseId, item.skuId⟩ ∧
      balance.inTransitQty = store.inTransitQty ⟨issue.warehouseId, item.skuId⟩ := by
    rcases updateBalance_cases written with posted | ⟨version, posted⟩
    · exact ⟨_, posted, rfl, rfl⟩
    · exact ⟨_, posted, rfl, rfl⟩
  obtain ⟨balance, posted, reserved, inTransit⟩ := posted
  have all := recordMovement_posts (posted.belowMin _ _ _) recorded
  refine ⟨fun key => ?_, fun key => ?_, fun transferId skuId => ?_, by rw [all.records], by rw [all.records], False.elim⟩
  · have moved := congrFun all.measure (.reserved key)
    simpa [Store.measure, row, reserved] using moved
  · have moved := congrFun all.measure (.inTransit key)
    simpa [Store.measure, row, inTransit] using moved
  · have moved := congrFun all.measure (.lost transferId skuId)
    simpa [Store.measure, row, LedgerRow.writtenOff] using moved

theorem postIssueInTx_shelf (ran : postIssueInTx store issueId idempotencyKey = .ok after) :
    ShelfMoved (store.DraftNamesSkusOnce issueId) store after := by
  have loosely : ShelfMoved False store after := by
    simp only [postIssueInTx, eq_ok] at ran
    obtain ⟨issue, found, ran⟩ := ran
    split at ran
    · simp only [eq_ok] at ran
      obtain ⟨_, _, rfl⟩ := ran
      exact .refl False store
    · simp only [eq_ok] at ran
      obtain ⟨_, _, _, _, _, _, middle, posted, _, _, rfl⟩ := ran
      have looped : ShelfMoved False store middle :=
        foldlM_preserves (ShelfMoved False store)
          (fun _ _ _ _ so_far stepped => so_far.trans (postIssueItem_shelf stepped)) (.refl False store) posted
      exact looped.trans (.of_records rfl rfl rfl rfl)
  refine { loosely with books := fun distinct => ?_ }
  rcases postIssueInTx_ok distinct ran with rfl | ⟨issue, posted, _, moved, _⟩
  · exact id
  · exact moved.books

theorem createIssue_shelf {dto} (ran : createIssue store issueId dto idempotencyKey = .ok after) :
    ShelfMoved (dto.autoPost = true → dto.OneSpelling) store after := by
  rcases createIssue_ok ran with rfl | ⟨issue, lines, free, normalized, inserted, ended⟩
  · exact .refl _ after
  · have stored : ShelfMoved (dto.autoPost = true → dto.OneSpelling) store
        { store with issues := store.issues.insert issueId issue } := .of_records rfl rfl rfl rfl
    rcases ended with ⟨post, posted⟩ | rfl
    · have shelf := postIssueInTx_shelf posted
      refine stored.trans { shelf with books := fun spelled => shelf.books fun found lookedUp _ => ?_ }
      rw [Table.lookup_insert_self] at lookedUp
      cases lookedUp
      exact issueItems_distinct (spelled post) normalized inserted
    · exact stored

end Shelf

theorem execute_step (holds : HoldsKept store) (single : ∀ now limit, operation ≠ .expireDue now limit)
    (ran : execute store operation = .ok after) : Step store operation after := by
  cases operation with
  | setWarehouse | setCatalog | setThreshold | setSupplier =>
    cases ran
    exact ShelfMoved.step (.of_records rfl rfl rfl rfl) id
  | createReceipt receiptId dto key =>
    simp only [execute, createReceipt, eq_ok] at ran
    obtain ⟨⟨middle, answered⟩, created, rfl⟩ := ran
    exact (ShelfMoved.purchasing.createReceiptInTx created).step id
  | postReceipt => exact (postReceiptInTx_shelf ran).step id
  | createIssue => exact (createIssue_shelf ran).step id
  | postIssue => exact (postIssueInTx_shelf ran).step id
  | createTransfer =>
    obtain ⟨transfer, free, draft, fresh, rfl⟩ := createTransfer_ok ran
    exact ⟨.plan free draft fresh, fun _ => (Moved.putTransfer store _ transfer).books⟩
  | dispatchTransfer =>
    obtain ⟨header, sent, found, draft, dispatched, source, destination, lines, moved, records⟩ :=
      dispatchTransfer_ok ran
    exact ⟨.dispatch found draft dispatched source destination lines moved.measure records, fun _ => moved.books⟩
  | receiveTransfer =>
    obtain ⟨header, transfer, received, lost, found, road, progress, moved, records⟩ := receiveTransfer_ok ran
    exact ⟨.receive found road progress moved.measure records, fun _ => moved.books⟩
  | cancelTransfer =>
    obtain ⟨header, found, cancellable, moved, records⟩ := cancelTransfer_ok ran
    exact ⟨.cancel found cancellable moved.measure records, fun _ => moved.books⟩
  | createStocktake =>
    simp only [execute, createStocktake, eq_ok] at ran
    obtain ⟨_, _, _, _, _, _, _, _, rfl⟩ := ran
    exact ShelfMoved.step (.of_records rfl rfl rfl rfl) id
  | recordCounts =>
    simp only [execute, recordCounts, eq_ok] at ran
    obtain ⟨_, _, _, _, _, _, rfl⟩ := ran
    exact ShelfMoved.step (.of_records rfl rfl rfl rfl) id
  | approveStocktake => exact (approveStocktake_shelf ran).step id
  | reserve =>
    simp only [execute, eq_ok] at ran
    obtain ⟨reserved, held, rfl⟩ := ran
    exact reserveWarehouseStock_step held
  | commitReservation => exact commitWarehouseReservation_step ran
  | releaseReservation => exact releaseWarehouseReservation_step holds ran
  | expireReservation => exact expireWarehouseReservation_step holds ran
  | expireDue now limit => exact absurd rfl (single now limit)
  | createPurchaseOrder => exact (ShelfMoved.purchasing.createPurchaseOrder ran).step id
  | approvePurchaseOrder => exact (approvePurchaseOrder_shelf ran).step id
  | receivePurchaseOrder => exact (ShelfMoved.purchasing.receivePurchaseOrder ran).step id

theorem heldQty_insert_fresh {reservation}
    (free : store.reservations.lookup reservationId = none) (held : reservation.state = .held)
    (records : after.reservations = store.reservations.insert reservationId reservation) (key : Key) :
    after.heldQty key = store.heldQty key + reservation.qtyOf key := by
  rw [Store.heldQty, records, Table.sumBy_insert_fresh free, if_pos held]
  rfl

theorem heldQty_ended
    (found : store.reservations.lookup reservationId = some header) (held : header.state = .held) (ended : state ≠ .held)
    (records : after.reservations = store.reservations.insert reservationId { header with state }) (key : Key) :
    after.heldQty key = store.heldQty key + -header.qtyOf key := by
  rw [Store.heldQty, records, Table.sumBy_insert_existing found, if_pos held, if_neg ended, add_zero]
  rfl

theorem sum_held (lines : List ReservationLine) (key : Key) :
    (lines.map fun line => row line.key 0 line.qty 0).sum (.reserved key) =
      (lines.map fun line => if line.key = key then line.qty else 0).sum := by
  rw [sum_changes_apply]
  rfl

theorem sum_given (lines : List ReservationLine) (onHand : ReservationLine → Int) (key : Key) :
    (lines.map fun line => row line.key (onHand line) (-line.qty) 0).sum (.reserved key) =
      -(lines.map fun line => if line.key = key then line.qty else 0).sum := by
  rw [sum_changes_apply, ← sum_if_neg]
  rfl

theorem heldQty_of_reservations (same : after.reservations = store.reservations) (key : Key) :
    after.heldQty key = store.heldQty key := by
  rw [Store.heldQty, same]
  rfl

theorem HoldsKept.transferred (holds : HoldsKept store) {change key transferId transfer}
    (measure : after.measure = store.measure + change) (none : change (.reserved key) = 0)
    (records : after.toRecords = (store.putTransfer transferId transfer).toRecords) :
    after.reservedQty key = after.heldQty key := by
  have reservations : after.reservations = store.reservations := by
    rw [records]
    rfl
  have moved := congrFun measure (.reserved key)
  rw [Pi.add_apply, none, add_zero] at moved
  rw [heldQty_of_reservations reservations, ← holds key]
  exact moved

theorem HoldsKept.moves (holds : HoldsKept store) (moves : Moves store operation after) : HoldsKept after := by
  intro key
  cases moves with
  | shelf moved => rw [moved.reserved, holds key, heldQty_of_reservations moved.reservations]
  | hold free held measure reservations _ =>
    have moved := congrFun measure (.reserved key)
    rw [Pi.add_apply, sum_held] at moved
    rw [heldQty_insert_fresh free held reservations, ← holds key]
    exact moved
  | endHold found held ended measure reservations _ =>
    have moved := congrFun measure (.reserved key)
    rw [Pi.add_apply, sum_given] at moved
    rw [heldQty_ended found held ended reservations, ← holds key]
    exact moved
  | plan free draft fresh => exact holds key
  | dispatch _ _ _ _ _ _ measure records => exact holds.transferred measure rfl records
  | receive _ _ _ measure records => exact holds.transferred measure rfl records
  | cancel _ _ measure records => exact holds.transferred measure rfl records

theorem perform_expireDue (store : Store) (now limit : Nat) :
    perform store (.expireDue now limit) =
      Run.after (fun store reservationId => perform store (.expireReservation reservationId now)) store
        (dueReservations store now limit) := rfl

theorem perform_keeps (Kept : Store → Prop) (sweeps : ∀ store reservationId now, Met store (.expireReservation reservationId now))
    (each : ∀ before operation after, Met before operation → Step before operation after → Kept before → Kept after)
    (met : Met store operation) (kept : HoldsKept store ∧ Kept store) :
    HoldsKept (perform store operation) ∧ Kept (perform store operation) := by
  have single : ∀ (before : Store) operation, (∀ now limit, operation ≠ .expireDue now limit) → Met before operation →
      HoldsKept before ∧ Kept before → HoldsKept (perform before operation) ∧ Kept (perform before operation) := by
    intro before operation single met kept
    refine commit_preserves (fun store => HoldsKept store ∧ Kept store) kept fun after ran => ?_
    have step := execute_step kept.1 single ran
    exact ⟨kept.1.moves step.moves, each before operation after met step kept.2⟩
  by_cases sweep : ∃ now limit, operation = .expireDue now limit
  · obtain ⟨now, limit, rfl⟩ := sweep
    rw [perform_expireDue]
    refine Run.invariant (fun store => HoldsKept store ∧ Kept store) (fun before reservationId => ?_) kept _
    exact single before (.expireReservation reservationId now) (by simp) (sweeps before reservationId now)
  · exact single store operation (fun now limit same => sweep ⟨now, limit, same⟩) met kept

theorem HoldsKept.empty : HoldsKept {} := fun _ => rfl

abbrev reached (operations : List Operation) : Store := Run.after perform {} operations

theorem run_keeps (Kept : Store → Prop) {start operations} (holds : HoldsKept start)
    (sweeps : ∀ store reservationId now, Met store (.expireReservation reservationId now))
    (each : ∀ before operation after, Met before operation → Step before operation after → Kept before → Kept after)
    (met : Run.Meets perform Met start operations) (initially : Kept start) :
    HoldsKept (Run.after perform start operations) ∧ Kept (Run.after perform start operations) :=
  Run.invariant_of_meets (fun store => HoldsKept store ∧ Kept store)
    (fun _ _ met kept => perform_keeps Kept sweeps each met kept) met ⟨holds, initially⟩

theorem holdsKept_of_run (operations : List Operation) : HoldsKept (reached operations) :=
  (run_keeps (fun _ => True) HoldsKept.empty (fun _ _ _ => trivial) (fun _ _ _ _ _ => id)
    (Run.meets_of_inputs fun _ _ => trivial) trivial).1

end Steps

end Inventory
