import RetailApi.Inventory.Issuing
import RetailApi.Inventory.Stocktake
import RetailApi.Inventory.Procurement
import RetailApi.Inventory.StockQuery

/-! The warehouse store as one state machine. Every operation is a transaction: it commits
as a whole or leaves the store as it was. -/

namespace Inventory

open Transaction Inventory

inductive Operation where
  /-- Master data kept by other services: warehouses, catalog projection, minimum levels, suppliers. -/
  | setWarehouse (warehouseId : Uuid) (warehouse : Warehouse)
  | setCatalog (rows : List CatalogSku)
  | setThreshold (key : Key) (minMilli : Int)
  | setSupplier (supplierId : Uuid) (status : ActiveStatus)
  | createReceipt (receiptId : Uuid) (dto : CreateStockReceiptDto) (idempotencyKey : Option String)
  | postReceipt (receiptId : Uuid) (idempotencyKey : Option String)
  | createIssue (issueId : Uuid) (dto : CreateStockIssueDto) (idempotencyKey : Option String)
  | postIssue (issueId : Uuid) (idempotencyKey : Option String)
  | createTransfer (transferId : Uuid) (dto : CreateStockTransferDto) (canApprove : Bool)
  | dispatchTransfer (transferId : Uuid)
  | receiveTransfer (transferId : Uuid) (dto : ReceiveStockTransferDto)
  | cancelTransfer (transferId : Uuid)
  | createStocktake (stockTakeId : Uuid) (dto : CreateStocktakeDto)
  | recordCounts (stockTakeId : Uuid) (counts : List CountLine) (refreshSnapshot : Bool)
  | approveStocktake (stockTakeId : Uuid) (forceRebase : Bool)
  | reserve (reservationId : Uuid) (now : Nat) (idempotencyKey : String) (req : CreateWarehouseReservationRequest)
  | commitReservation (reservationId : Uuid) (fulfillmentId : Option Uuid)
  | releaseReservation (reservationId : Uuid)
  | expireReservation (reservationId : Uuid) (now : Nat)
  | expireDue (now limit : Nat)
  | createPurchaseOrder (poId : Uuid) (dto : CreatePurchaseOrderDto)
  | approvePurchaseOrder (poId : Uuid)
  | receivePurchaseOrder (poId receiptId : Uuid) (receiptCode : String) (lines : List ReceivePurchaseOrderLine)
      (idempotencyKey : Option String)

def execute (store : Store) : Operation → Except Failure Store
  | .setWarehouse warehouseId warehouse =>
    .ok { store with warehouses := store.warehouses.insert warehouseId warehouse }
  | .setCatalog rows => .ok { store with catalogSkus := rows }
  | .setThreshold key minMilli => .ok { store with thresholds := store.thresholds.insert key minMilli }
  | .setSupplier supplierId status => .ok { store with suppliers := store.suppliers.insert supplierId status }
  | .createReceipt receiptId dto key => createReceipt store receiptId dto key
  | .postReceipt receiptId key => postReceipt store receiptId key
  | .createIssue issueId dto key => createIssue store issueId dto key
  | .postIssue issueId key => postIssue store issueId key
  | .createTransfer transferId dto canApprove => createTransfer store transferId dto canApprove
  | .dispatchTransfer transferId => dispatchTransfer store transferId
  | .receiveTransfer transferId dto => receiveTransfer store transferId dto
  | .cancelTransfer transferId => cancelTransfer store transferId
  | .createStocktake stockTakeId dto => createStocktake store stockTakeId dto
  | .recordCounts stockTakeId counts refresh => recordCounts store stockTakeId counts refresh
  | .approveStocktake stockTakeId forceRebase => approveStocktake store stockTakeId forceRebase
  | .reserve reservationId now key req => do
    let reserved ← reserveWarehouseStock store reservationId now key req
    return reserved.1
  | .commitReservation reservationId fulfillmentId => commitWarehouseReservation store reservationId fulfillmentId
  | .releaseReservation reservationId => releaseWarehouseReservation store reservationId
  | .expireReservation reservationId now => expireWarehouseReservation store reservationId now
  | .expireDue now limit => .ok (expireDueWarehouseReservations store now limit)
  | .createPurchaseOrder poId dto => createPurchaseOrder store poId dto
  | .approvePurchaseOrder poId => approvePurchaseOrder store poId
  | .receivePurchaseOrder poId receiptId code lines key =>
    receivePurchaseOrder store poId receiptId code lines key

def perform (store : Store) (operation : Operation) : Store :=
  commit store (execute store operation)

end Inventory
