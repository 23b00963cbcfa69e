import RetailApi.Proofs.Reconciliation

/-! Transfers neither create nor destroy goods, and once closed they move nothing. -/

namespace Inventory

open Transaction TransferStatus

inductive TransferCall where
  | dispatch
  | receive (dto : ReceiveStockTransferDto)
  | cancel

def TransferCall.on (transferId : Uuid) : TransferCall → Operation
  | .dispatch => .dispatchTransfer transferId
  | .receive dto => .receiveTransfer transferId dto
  | .cancel => .cancelTransfer transferId

/-- Where the goods of a transfer can be: on either shelf, on the road, or recorded as lost. -/
def Store.goods (store : Store) (transfer : StockTransfer) (skuId : Uuid) : Int :=
  store.onHandQty ⟨transfer.fromWarehouseId, skuId⟩ + store.onHandQty ⟨transfer.toWarehouseId, skuId⟩ +
    store.inTransitQty ⟨transfer.toWarehouseId, skuId⟩ + transfer.sumOf (·.discrepancyQty) skuId

def TransferStatus.isClosed (status : TransferStatus) : Prop := status = .received ∨ status = .cancelled

/-- The transfer is still there, and its goods with it. -/
def Conserves (store after : Store) (transferId : Uuid) (transfer : StockTransfer) : Prop :=
  ∃ later, after.transfers.lookup transferId = some later ∧ ∀ skuId, after.goods later skuId = store.goods transfer skuId

section Steps

variable {store after : Store} {transferId : Uuid} {transfer : StockTransfer} {change : Change}

theorem goods_moved {later} {skuId} (moved : Moved store after change)
    (source : later.fromWarehouseId = transfer.fromWarehouseId) (destination : later.toWarehouseId = transfer.toWarehouseId)
    (balanced : change (.onHand ⟨transfer.fromWarehouseId, skuId⟩) + change (.onHand ⟨transfer.toWarehouseId, skuId⟩) +
      change (.inTransit ⟨transfer.toWarehouseId, skuId⟩) + later.sumOf (·.discrepancyQty) skuId =
        transfer.sumOf (·.discrepancyQty) skuId) : after.goods later skuId = store.goods transfer skuId := by
  have left : after.onHandQty ⟨transfer.fromWarehouseId, skuId⟩ = _ := moved.apply (.onHand _)
  have right : after.onHandQty ⟨transfer.toWarehouseId, skuId⟩ = _ := moved.apply (.onHand _)
  have road : after.inTransitQty ⟨transfer.toWarehouseId, skuId⟩ = _ := moved.apply (.inTransit _)
  simp only [Store.measure] at left right road
  rw [Store.goods, Store.goods, source, destination, left, right, road]
  omega

theorem lookup_put {later} (records : after.toRecords = (store.putTransfer transferId later).toRecords) :
    after.transfers.lookup transferId = some later := by
  rw [records]
  exact Table.lookup_insert_self _ _ _

section

variable (found : store.transfers.lookup transferId = some transfer)

include found

theorem dispatch_conserves (ran : dispatchTransfer store transferId = .ok after) : Conserves store after transferId transfer := by
  obtain ⟨header, sent, stored, _, _, source, destination, lines, moved, records⟩ := dispatchTransfer_ok ran
  cases found.symm.trans stored
  refine ⟨sent, lookup_put records, fun skuId => goods_moved moved source destination ?_⟩
  have same : sent.sumOf (·.discrepancyQty) = transfer.sumOf (·.discrepancyQty) :=
    sumOfSku_forall₂ (lines.imp fun _ _ line => ⟨line.sku, line.lost⟩)
  have away : transfer.sumOf (fun item => -item.transferQty) skuId = -transfer.sumOf (·.transferQty) skuId :=
    sum_if_neg transfer.items _ _
  simp only [Pi.add_apply, Change.shift, Ne.symm transfer.apart, transfer.apart, if_true, if_false, same, away,
    Pi.zero_apply]
  omega

theorem receive_conserves {dto} (ran : receiveTransfer store transferId dto = .ok after) : Conserves store after transferId transfer := by
  obtain ⟨header, progressed, received, lost, stored, _, progress, moved, records⟩ := receiveTransfer_ok ran
  cases found.symm.trans stored
  refine ⟨_, lookup_put records, fun skuId => goods_moved moved progress.source progress.destination ?_⟩
  have grown := congrFun progress.discrepancyQty skuId
  simp only [Pi.add_apply, Pi.neg_apply, Change.shift, Change.writeOff, Ne.symm transfer.apart, if_true, if_false] at grown ⊢
  have same : ({ progressed with status := nextTransferStatus progressed.items dto.resolveDiscrepancy } :
      StockTransfer).sumOf (·.discrepancyQty) skuId = progressed.sumOf (·.discrepancyQty) skuId := rfl
  omega

theorem cancel_conserves (ran : cancelTransfer store transferId = .ok after) : Conserves store after transferId transfer := by
  obtain ⟨header, stored, _, moved, records⟩ := cancelTransfer_ok ran
  cases found.symm.trans stored
  refine ⟨_, lookup_put records, fun skuId => goods_moved moved rfl rfl ?_⟩
  simp only [Pi.add_apply, Pi.neg_apply, Change.shift, Ne.symm transfer.apart, transfer.apart, if_true, if_false,
    Pi.zero_apply]
  have same : ({ transfer with status := .cancelled } : StockTransfer).sumOf (·.discrepancyQty) skuId =
      transfer.sumOf (·.discrepancyQty) skuId := rfl
  omega

theorem call_conserves {call : TransferCall} (ran : execute store (call.on transferId) = .ok after) : Conserves store after transferId transfer := by
  cases call with
  | dispatch => exact dispatch_conserves found ran
  | receive dto => exact receive_conserves found ran
  | cancel => exact cancel_conserves found ran

theorem closed_refuses (closed : transfer.status.isClosed)
    (call : TransferCall) : perform store (call.on transferId) = store := by
  refine commit_preserves (fun after => after = store) rfl fun after ran => ?_
  exfalso
  cases call with
  | dispatch =>
    obtain ⟨header, _, stored, draft, _⟩ := dispatchTransfer_ok ran
    cases found.symm.trans stored
    rcases closed with status | status <;> simp [status] at draft
  | receive dto =>
    obtain ⟨header, _, _, _, stored, road, _⟩ := receiveTransfer_ok ran
    cases found.symm.trans stored
    rcases closed with status | status <;> simp [status, isOpen] at road
  | cancel =>
    obtain ⟨header, stored, cancellable, _⟩ := cancelTransfer_ok ran
    cases found.symm.trans stored
    rcases closed with status | status <;> simp [status] at cancellable

end

theorem closed_stays {operation} (closed : transfer.status.isClosed)
    (moves : Moves store operation after) (found : store.transfers.lookup transferId = some transfer) :
    after.transfers.lookup transferId = some transfer := by
  have elsewhere : ∀ {other header later}, store.transfers.lookup other = some header → ¬header.status.isClosed →
      after.toRecords = (store.putTransfer other later).toRecords → after.transfers.lookup transferId = some transfer := by
    intro other header later stored still records
    have different : transferId ≠ other := by
      rintro rfl
      cases found.symm.trans stored
      exact still closed
    rw [records]
    exact (AList.lookup_insert_ne different).trans found
  cases moves with
  | shelf moved => rwa [moved.transfers]
  | hold _ _ _ _ transfers => rwa [transfers]
  | endHold _ _ _ _ _ transfers => rwa [transfers]
  | @plan _ other _ free _ _ =>
    have different : transferId ≠ other := by
      rintro rfl
      cases free.symm.trans found
    exact (AList.lookup_insert_ne different).trans found
  | dispatch stored draft _ _ _ _ _ records =>
    exact elsewhere stored (by simp [isClosed, draft]) records
  | @receive _ _ _ header _ _ _ stored road _ _ records =>
    refine elsewhere stored (fun ended => ?_) records
    rcases ended with status | status <;> simp [status, isOpen] at road
  | cancel stored cancellable _ records =>
    refine elsewhere stored (fun ended => ?_) records
    rcases ended with status | status <;> simp [status] at cancellable

theorem closed_stays_along (holds : HoldsKept store) (closed : transfer.status.isClosed)
    (found : store.transfers.lookup transferId = some transfer) (operations : List Operation) :
    (Run.after perform store operations).transfers.lookup transferId = some transfer :=
  (run_keeps (fun store => store.transfers.lookup transferId = some transfer) holds
    (fun _ _ _ => trivial) (fun _ _ _ _ step => closed_stays closed step.moves)
    (Run.meets_of_inputs fun _ _ => trivial) found).2

end Steps

/-- A transfer as it stands in any state a run reaches: every call conserves its goods, its lines are within
what was dispatched, and once it is closed it has nothing in transit and no call ever moves stock again. -/
theorem transfer_conserves_goods {operations : List Operation} {transferId : Uuid} {transfer : StockTransfer}
    (found : (reached operations).transfers.lookup transferId = some transfer) :
    (∀ call after, execute (reached operations) (TransferCall.on transferId call) = .ok after →
      ∃ later, after.transfers.lookup transferId = some later ∧
        ∀ skuId, after.goods later skuId = (reached operations).goods transfer skuId) ∧
    (∀ item ∈ transfer.items, 0 ≤ item.receivedQty ∧ 0 ≤ item.discrepancyQty ∧
      item.receivedQty + item.discrepancyQty ≤ item.dispatchedQty) ∧
    (transfer.status = .received ∨ transfer.status = .cancelled →
      (∀ item ∈ transfer.items, inTransitRemainingQty transfer.status item = 0) ∧
      (∀ key, (reached operations).inTransitQty key = (reached operations).openTransitQty key) ∧
      ∀ later call, perform (reached (operations ++ later)) (TransferCall.on transferId call) =
        reached (operations ++ later)) := by
  have kept := transfersKept_of_run operations
  refine ⟨fun call after => call_conserves found, fun item _ => ?_, fun closed => ⟨fun item member => ?_,
    kept.inTransit, fun later call => ?_⟩⟩
  · have legal := item.legal
    omega
  · unfold inTransitRemainingQty
    rcases closed with received | cancelled
    · rw [if_neg (by simp [received]), kept.settled transferId transfer found received item member]
    · rw [if_pos cancelled]
  · have stays := closed_stays_along (holdsKept_of_run operations) closed found later
    rw [← Run.after_append] at stays
    exact closed_refuses stays closed call

def transferOnRoad : List Operation :=
  stockedShelf ++
    [.setWarehouse 2 { code := "W2", kind := .branch, branchId := none, isDefault := true, status := .active },
      .createTransfer 30 { code := "T1", fromWarehouseId := Text.ofUuid 1, toWarehouseId := Text.ofUuid 2,
                           items := [{ skuId := Text.ofUuid 7, qty := "6" }] } false,
      .dispatchTransfer 30]

def partialReceipt : Operation :=
  .receiveTransfer 30 { items := [{ skuId := Text.ofUuid 7, receivedQty := "2", discrepancyQty := some "1" }] }

theorem transfer_conserves_goods_cancelled :
    ∃ transfer, (reached (transferOnRoad ++ [partialReceipt, .cancelTransfer 30])).transfers.lookup 30 = some transfer ∧
      transfer.status = .cancelled ∧ ∀ item ∈ transfer.items, inTransitRemainingQty transfer.status item = 0 := by
  have stored : ((reached (transferOnRoad ++ [partialReceipt, .cancelTransfer 30])).transfers.lookup 30).map
      (·.status) = some .cancelled := by
    decide
  obtain ⟨transfer, found, cancelled⟩ := Option.map_eq_some_iff.mp stored
  exact ⟨transfer, found, cancelled, ((transfer_conserves_goods found).2.2 (.inr cancelled)).1⟩

end Inventory
