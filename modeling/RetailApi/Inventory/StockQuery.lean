import RetailApi.Inventory.Transfers
import RetailApi.Inventory.Reservations

/-! The reconciliation report: balances against the ledger, the held lines and the open transfers. -/

namespace Inventory

/-- The ledger rows of a balance, in the order they were written. -/
def Store.entriesOf (store : Store) (key : Key) : List LedgerRow :=
  store.ledger.filter fun row => row.key = key

def Store.ledgerNetQty (store : Store) (key : Key) : Int :=
  ((store.entriesOf key).map (·.qtyDelta)).sum

def WarehouseReservation.qtyOf (reservation : WarehouseReservation) (key : Key) : Int :=
  (reservation.lines.map fun line => if line.key = key then line.qty else 0).sum

def Store.heldQty (store : Store) (key : Key) : Int :=
  store.reservations.sumBy fun _ reservation =>
    if reservation.state = .held then reservation.qtyOf key else 0

def StockTransfer.sumOf (transfer : StockTransfer) (qty : StockTransferItem → Int) (skuId : Uuid) : Int :=
  (transfer.items.map fun item => if item.skuId = skuId then qty item else 0).sum

def Store.openTransitQty (store : Store) (key : Key) : Int :=
  store.transfers.sumBy fun _ transfer =>
    if transfer.status.isOpen = true ∧ transfer.toWarehouseId = key.warehouseId then
      transfer.sumOf StockTransferItem.remaining key.skuId
    else 0

inductive MismatchKind where
  | onHandVsLedger | reservedVsHeldLines | inTransitVsTransfers
deriving DecidableEq

structure ReconciliationMismatch where
  key : Key
  kind : MismatchKind
  balanceValue : Int
  expectedValue : Int

def compareBalance (key : Key) (kind : MismatchKind) (balanceValue expectedValue : Int) : List ReconciliationMismatch :=
  if balanceValue = expectedValue then [] else [⟨key, kind, balanceValue, expectedValue⟩]

def reconcileRow (store : Store) (key : Key) (balance : Balance) : List ReconciliationMismatch :=
  compareBalance key .onHandVsLedger balance.onHandQty (store.ledgerNetQty key)
    ++ compareBalance key .reservedVsHeldLines balance.reservedQty (store.heldQty key)
    ++ compareBalance key .inTransitVsTransfers balance.inTransitQty (store.openTransitQty key)

def reconcile (store : Store) : List ReconciliationMismatch :=
  store.balances.entries.flatMap fun entry => reconcileRow store entry.1 entry.2.1

end Inventory
