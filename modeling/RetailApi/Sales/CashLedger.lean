import RetailApi.Sales.Domain

/-! The drawer of a POS shift: an append-only list of cash entries, and the totals the
shift row keeps beside it. -/

namespace Sales

open Transaction

inductive ShiftStatus where
  | open | pendingClose | pendingApproval | closed
deriving DecidableEq

instance : ToString ShiftStatus where
  toString
    | .open => "OPEN" | .pendingClose => "PENDING_CLOSE" | .pendingApproval => "PENDING_APPROVAL" | .closed => "CLOSED"

/-- The columns of `pos_shifts` that carry no time. -/
structure Shift where
  code : String
  branchId : Uuid
  registerCode : String
  registerId : Option Uuid
  staffId : Uuid
  status : ShiftStatus
  openingCash : Int
  cashSalesTotal : Int
  cashRefundsTotal : Int
  expectedCash : Int
  actualCash : Option Int
  variance : Option Int
  openNote : Option String
  closeNote : Option String
  closedBy : Option Uuid
  version : Nat
  countedByDenomination : Option (List (Int × Int))
  countedBy : Option Uuid
  varianceReason : Option VarianceReason
  varianceNote : Option String
  closeRequestedBy : Option Uuid
  approvedBy : Option Uuid
  responsibility : Option CashResponsibility

/-- `CHK_pos_shifts_non_negative` -/
def Shift.Legal (shift : Shift) : Prop :=
  0 ≤ shift.openingCash ∧ 0 ≤ shift.cashSalesTotal ∧ 0 ≤ shift.cashRefundsTotal

instance (shift : Shift) : Decidable shift.Legal := inferInstanceAs (Decidable (_ ∧ _))

structure Register where
  code : String
  branchId : Uuid
  active : Bool

structure ShiftEvent where
  shiftId : Uuid
  status : ShiftStatus
  expectedCash : Option Int := none
  actualCash : Option Int := none
  variance : Option Int := none
  varianceEntryId : Option Uuid := none

/-- The tables of one tenant that the shift and cash services read and write. -/
structure CashStore where
  settings : CashSettings := {}
  branches : Table Uuid Bool := ∅
  registers : Table Uuid Register := ∅
  shifts : Table Uuid { shift : Shift // shift.Legal } := ∅
  entries : List CashEntry := []
  outbox : List ShiftEvent := []
  /-- The shift, id and state of each `checkout_workflow` row that is still under way. -/
  pendingWorkflows : List (Uuid × Uuid × String) := []
  /-- The shift and id of each active row of `pos_drafts`. -/
  activeDrafts : List (Uuid × Uuid) := []

namespace CashStore

def shift (store : CashStore) (shiftId : Uuid) : Option Shift :=
  (store.shifts.lookup shiftId).map (·.1)

def writeShift (store : CashStore) (shiftId : Uuid) (shift : Shift) : Except Failure CashStore :=
  if legal : shift.Legal then .ok { store with shifts := store.shifts.insert shiftId ⟨shift, legal⟩ }
  else .error (.database "CHK_pos_shifts_non_negative")

/-- The entries of one shift, in the order they were written. -/
def entriesOf (store : CashStore) (shiftId : Uuid) : List CashEntry :=
  store.entries.filter fun entry => entry.shiftId = shiftId

end CashStore

structure CashEntryInput where
  shiftId : Uuid
  kind : CashEntryKind
  amount : Int
  reason : Option String := none
  orderId : Option Uuid := none
  returnId : Option Uuid := none
  tenderId : Option Uuid := none
  staffId : Uuid
  sourceKey : SourceKey

/-- Writes one cash entry and moves the shift's totals. A retry of a source key answers with the first
entry and writes nothing. The result names the entry and says whether it was replayed. -/
def recordCashEntry (store : CashStore) (entryId : Uuid) (input : CashEntryInput) (closing : Bool) :
    Except Failure (CashStore × Uuid × Bool) := do
  let shift ← required (store.shift input.shiftId)
    (.domain .shiftNotFound s!"POS shift {input.shiftId} not found" 404)
  match store.entries.find? fun entry => entry.sourceKey = input.sourceKey with
  | some existing => return (store, existing.id, true)
  | none =>
    ensure (closing = true ∨ shift.status ≠ .closed)
      (.domain .shiftClosed s!"Shift {shift.code} is CLOSED: nothing can be written to it" 409)
    ensure (closing = true ∨ shift.status = .open)
      (.domain .shiftNotOpen s!"Shift {shift.code} is {shift.status} and takes no cash entries" 409)
    let entry : CashEntry := {
      id := entryId, shiftId := input.shiftId, branchId := shift.branchId, kind := input.kind, amount := input.amount
      reason := input.reason, orderId := input.orderId, returnId := input.returnId, tenderId := input.tenderId
      staffId := input.staffId, sourceKey := input.sourceKey }
    ensure (∀ other ∈ store.entries, other.id ≠ entryId) (.database "PK_pos_shift_cash_entry_id")
    ensure entry.Legal (.database "CHK_pos_shift_cash_entry")
    let store := { store with entries := store.entries ++ [entry] }
    if input.kind.isClosing then return (store, entryId, false)
    let salesDelta := if input.kind = .cashSale then input.amount else 0
    let refundsDelta := if input.kind = .cashRefund then -input.amount else 0
    let store ← store.writeShift input.shiftId { shift with
      cashSalesTotal := shift.cashSalesTotal + salesDelta
      cashRefundsTotal := shift.cashRefundsTotal + refundsDelta
      expectedCash := shift.expectedCash + input.amount
      version := shift.version + 1 }
    return (store, entryId, false)

end Sales
