import RetailApi.Sales.CashLedger

/-! POS shifts: a drawer is opened with a float, counted, and closed, above a threshold only
with the approval of someone who neither counted it nor asked to close it. -/

namespace Sales

open Transaction JsString Sales

/-- Branches the caller may act in; `none` is every branch. -/
abbrev BranchScope := Option (List Uuid)

def branchAllowed (scope : BranchScope) (branchId : Uuid) : Bool :=
  match scope with
  | none => true
  | some branches => branchId ∈ branches

structure OpenShiftReqDto where
  branchId : Uuid
  registerCode : Option String := none
  registerId : Option Uuid := none
  openingCash : Int
  note : Option String := none

structure CountShiftReqDto where
  denominations : List (Int × Int)
  version : Option Nat := none

structure CloseShiftReqDto where
  version : Option Nat := none
  actualCash : Option Int := none
  reason : Option VarianceReason := none
  note : Option String := none

inductive PayKind where
  | payIn | payOut

structure CashEntryReqDto where
  kind : PayKind
  amount : Int
  reason : String

def VarianceReason.print : VarianceReason → String
  | .miscountedChange => "miscounted_change"
  | .unrecordedSale => "unrecorded_sale"
  | .refundNotRecorded => "refund_not_recorded"
  | .theftSuspected => "theft_suspected"
  | .other => "other"

def Shift.isActive (shift : Shift) : Bool := shift.status ≠ .closed

/-- The shift locked for update, hidden outside the caller's branches. -/
def lockShift (store : CashStore) (shiftId : Uuid) (scope : BranchScope) : Except Failure Shift := do
  let shift ← required (store.shift shiftId) (.domain .shiftNotFound s!"Shift {shiftId} not found" 404)
  ensure (branchAllowed scope shift.branchId = true) (.domain .shiftNotFound s!"Shift {shiftId} not found" 404)
  return shift

def resolveRegister (store : CashStore) (dto : OpenShiftReqDto) : Except Failure (Option Uuid × String) :=
  match dto.registerId with
  | none => .ok (none, upperTrimmed (dto.registerCode.getD "REG-01"))
  | some registerId => do
    let register ← required (store.registers.lookup registerId)
      (.domain .registerNotFound s!"Register {registerId} not found in this branch" 404)
    ensure (register.branchId = dto.branchId ∧ register.active = true)
      (.domain .registerNotFound s!"Register {registerId} not found in this branch" 404)
    return (some registerId, toUpperCase register.code)

def registerBusy (store : CashStore) (branchId : Uuid) (registerCode : String) (registerId : Option Uuid) : Prop :=
  ∃ row ∈ store.shifts.rows, row.1.branchId = branchId ∧ row.1.isActive = true ∧
    (row.1.registerCode = registerCode ∨ registerId ≠ none ∧ row.1.registerId = registerId)

instance (store : CashStore) (branchId : Uuid) (registerCode : String) (registerId : Option Uuid) :
    Decidable (registerBusy store branchId registerCode registerId) :=
  inferInstanceAs (Decidable (∃ row ∈ store.shifts.rows, _))

/-- Opens a shift under the fresh id `shiftId` and document code `code`. -/
def openShift (store : CashStore) (shiftId : Uuid) (code : String) (staffId : Uuid)
    (scope : BranchScope) (dto : OpenShiftReqDto) : Except Failure CashStore := do
  ensure (branchAllowed scope dto.branchId = true) (.notFound .shiftNotFound "Branch not found")
  let opening ← parseVndAmount dto.openingCash
  let openingCash ← vndNumber opening
  ensure (openingCash ≤ store.settings.maxOpeningFloatVnd ∨ dto.note.any fun note => trimmed note ≠ "")
    (.domain .openingFloatNoteRequired s!"An opening float above {store.settings.maxOpeningFloatVnd} needs a note" 400)
  ensure (store.branches.lookup dto.branchId = some true)
    (.domain .unknownBranch s!"Branch {dto.branchId} does not exist or is not active" 400)
  let (registerId, registerCode) ← resolveRegister store dto
  ensure (¬registerBusy store dto.branchId registerCode registerId)
    (.domain .shiftAlreadyOpen s!"Register {registerCode} already has an open shift" 409)
  ensure (store.shifts.lookup shiftId = none) (.database "PK_pos_shifts_id")
  ensure (∀ row ∈ store.shifts.rows, row.1.code ≠ code) (.database "UQ_pos_shifts_tenant_code")
  let store ← store.writeShift shiftId {
    code, branchId := dto.branchId, registerCode, registerId, staffId, status := .open
    openingCash, cashSalesTotal := 0, cashRefundsTotal := 0, expectedCash := openingCash
    actualCash := none, variance := none, openNote := dto.note, closeNote := none, closedBy := none, version := 1
    countedByDenomination := none, countedBy := none, varianceReason := none, varianceNote := none
    closeRequestedBy := none, approvedBy := none, responsibility := none }
  return { store with outbox := store.outbox ++ [{ shiftId, status := .open }] }

def assertNoPendingWork (store : CashStore) (shiftId : Uuid) (shift : Shift) (checkDrafts : Bool) :
    Except Failure Unit :=
  match store.pendingWorkflows.find? (·.1 = shiftId) with
  | some (_, workflowId, state) => .error (.domain .shiftHasPendingTransactions
      s!"Cannot close shift {shift.code} while checkout {workflowId} is in state {state}" 409)
  | none => ensure (checkDrafts = false ∨ ∀ draft ∈ store.activeDrafts, draft.1 ≠ shiftId)
      (.domain .shiftHasOpenDrafts s!"Cannot close shift {shift.code} while draft invoices are open" 400)

def expectedFromEntries (store : CashStore) (shiftId : Uuid) (shift : Shift) : Except Failure Int :=
  expectedCashFromEntries shift.openingCash (store.entriesOf shiftId)

def assertVersion (shift : Shift) (version : Option Nat) : Except Failure Unit :=
  ensure (version.all (· = shift.version)) (.domain .resourceVersionConflict
    s!"Shift {shift.code} version mismatch (expected {version.getD 0}, actual {shift.version})" 409)

def countShift (store : CashStore) (shiftId actorId : Uuid) (scope : BranchScope)
    (dto : CountShiftReqDto) : Except Failure CashStore := do
  let shift ← lockShift store shiftId scope
  assertVersion shift dto.version
  ensure (shift.status ≠ .closed) (.domain .shiftAlreadyClosed s!"Shift {shift.code} is already CLOSED" 409)
  ensure (shift.status ≠ .pendingApproval) (.domain .approvalRequired
    s!"Shift {shift.code} waits for a manager: it can only be approved or sent back" 409)
  assertNoPendingWork store shiftId shift false
  let counted ← countedTotalFromDenominations dto.denominations store.settings.denominations
  let expected ← expectedFromEntries store shiftId shift
  store.writeShift shiftId { shift with
    status := .pendingClose, countedByDenomination := some dto.denominations, countedBy := some actorId
    expectedCash := expected, actualCash := some counted, variance := some (counted - expected)
    version := shift.version + 1 }

structure Closing where
  counted : Int
  countedBy : Option Uuid
  denominations : Option (List (Int × Int))
  expected : Int
  variance : Int
  reason : Option VarianceReason
  note : Option String
  closedBy : Uuid
  approvedBy : Option Uuid

/-- The shortage or overage entry, for a variance that is not zero. -/
def recordVariance (store : CashStore) (shiftId entryId : Uuid) (closing : Closing) :
    Except Failure (CashStore × Option Uuid) :=
  if closing.variance = 0 then .ok (store, none)
  else do
    let staffId ← required closing.countedBy (.database "pos_shift_cash_entry.staff_id")
    let recorded ← recordCashEntry store entryId {
      shiftId, kind := if closing.variance < 0 then .cashShortage else .cashOverage
      amount := closing.variance
      reason := some ((closing.reason.map VarianceReason.print).getD "within_tolerance")
      staffId, sourceKey := .close shiftId } true
    return (recorded.1, some recorded.2.1)

/-- Writes the shortage or overage entry, closes the row and announces it. -/
def finalizeClose (store : CashStore) (shiftId entryId : Uuid) (shift : Shift)
    (closing : Closing) : Except Failure CashStore := do
  let (store, varianceEntryId) ← recordVariance store shiftId entryId closing
  let closeNote := closing.note <|> shift.varianceNote
  let store ← store.writeShift shiftId { shift with
    status := .closed, expectedCash := closing.expected, actualCash := some closing.counted
    variance := some closing.variance, closeNote, closedBy := some closing.closedBy
    countedBy := closing.countedBy, countedByDenomination := closing.denominations
    varianceReason := closing.reason, varianceNote := closeNote, approvedBy := closing.approvedBy
    responsibility := some store.settings.responsibility, version := shift.version + 1 }
  return { store with outbox := store.outbox ++ [{
    shiftId, status := .closed, expectedCash := some closing.expected, actualCash := some closing.counted
    variance := some closing.variance, varianceEntryId }] }

/-- The count a close goes by: a total given with the request, or the earlier count. -/
def countOf (shift : Shift) (actorId : Uuid) (dto : CloseShiftReqDto) :
    Except Failure (Int × Option Uuid × Option (List (Int × Int))) :=
  match dto.actualCash with
  | some total => do
    let parsed ← parseVndAmount total
    let counted ← vndNumber parsed
    return (counted, some actorId, none)
  | none => do
    ensure (shift.status = .pendingClose ∧ shift.actualCash ≠ none) (.domain .countRequired
      "Count the drawer (POST /count) or give actualCash before closing" 400)
    let counted ← toMoney shift.actualCash
    return (counted, shift.countedBy, shift.countedByDenomination)

def closeShift (store : CashStore) (shiftId entryId actorId : Uuid) (scope : BranchScope)
    (dto : CloseShiftReqDto) : Except Failure CashStore := do
  let shift ← lockShift store shiftId scope
  assertVersion shift dto.version
  ensure (shift.status ≠ .closed) (.domain .shiftAlreadyClosed s!"Shift {shift.code} is already CLOSED" 409)
  ensure (shift.status ≠ .pendingApproval)
    (.domain .approvalRequired s!"Shift {shift.code} waits for a manager's approval" 409)
  assertNoPendingWork store shiftId shift true
  let (counted, countedBy, denominations) ← countOf shift actorId dto
  let expected ← expectedFromEntries store shiftId shift
  let variance := counted - expected
  let decision := decideShiftClose store.settings variance
  ensure (decision = .withinTolerance ∨ dto.reason ≠ none) (.domain .varianceReasonRequired
    (s!"The variance ({variance}) is above the tolerance: choose a reason "
      ++ "(miscounted_change, unrecorded_sale, refund_not_recorded, theft_suspected, other)") 400)
  let countedBy := countedBy.getD actorId
  if decision = .approvalRequired then
    store.writeShift shiftId { shift with
      status := .pendingApproval, countedByDenomination := denominations, countedBy := some countedBy
      expectedCash := expected, actualCash := some counted, variance := some variance
      varianceReason := dto.reason, varianceNote := dto.note, closeRequestedBy := some actorId
      version := shift.version + 1 }
  else
    finalizeClose store shiftId entryId shift {
      counted, countedBy := some countedBy, denominations, expected, variance, reason := dto.reason, note := dto.note
      closedBy := actorId, approvedBy := none }

def approveClose (store : CashStore) (shiftId entryId actorId : Uuid) (scope : BranchScope)
    (note : Option String) : Except Failure CashStore := do
  let shift ← lockShift store shiftId scope
  ensure (shift.status ≠ .closed) (.domain .shiftAlreadyClosed s!"Shift {shift.code} is already CLOSED" 409)
  ensure (shift.status = .pendingApproval)
    (.domain .shiftNotOpen s!"Shift {shift.code} is {shift.status}, not waiting for approval" 409)
  ensure (shift.countedBy ≠ some actorId ∧ shift.closeRequestedBy ≠ some actorId) (.domain .approverIsCounter
    "The approver cannot be the person who counted the drawer or asked to close" 403)
  let expected ← expectedFromEntries store shiftId shift
  let counted ← toMoney shift.actualCash
  finalizeClose store shiftId entryId shift {
    counted, countedBy := shift.countedBy, denominations := shift.countedByDenomination, expected
    variance := counted - expected, reason := shift.varianceReason, note := note <|> shift.varianceNote
    closedBy := actorId, approvedBy := some actorId }

def rejectClose (store : CashStore) (shiftId : Uuid) (scope : BranchScope) : Except Failure CashStore := do
  let shift ← lockShift store shiftId scope
  ensure (shift.status ≠ .closed) (.domain .shiftAlreadyClosed s!"Shift {shift.code} is already CLOSED" 409)
  ensure (shift.status ≠ .open) (.domain .shiftNotOpen s!"Shift {shift.code} has no count to send back" 409)
  store.writeShift shiftId { shift with
    status := .open, countedByDenomination := none, countedBy := none, actualCash := none, variance := none
    varianceReason := none, varianceNote := none, closeRequestedBy := none, version := shift.version + 1 }

/-- The source key of a pay-in or pay-out; a request that brings no key gets one of its own. -/
def cashEntryKey (shiftId entryId : Uuid) (key : Option String) : SourceKey :=
  match key.map fun given => trim given.toList with
  | none | some [] => .cashUnkeyed entryId
  | some letters => .cash shiftId (String.ofList (letters.take 100))

def addCashEntry (store : CashStore) (shiftId entryId actorId : Uuid) (scope : BranchScope) (key : Option String)
    (dto : CashEntryReqDto) : Except Failure CashStore := do
  let _ ← lockShift store shiftId scope
  let recorded ← recordCashEntry store entryId {
    shiftId, kind := match dto.kind with | .payIn => .payIn | .payOut => .payOut
    amount := match dto.kind with | .payIn => dto.amount | .payOut => -dto.amount
    reason := some (trimmed dto.reason), staffId := actorId, sourceKey := cashEntryKey shiftId entryId key } false
  return recorded.1

/-- The shift's planned end is no money matter: only its version moves. -/
def patchPlannedEnd (store : CashStore) (shiftId : Uuid) (scope : BranchScope) : Except Failure CashStore := do
  let shift ← lockShift store shiftId scope
  ensure (shift.status = .open) (.domain (if shift.status = .closed then .shiftClosed else .shiftNotOpen)
    s!"Shift {shift.code} is {shift.status}: only an OPEN shift's planned end can change" 409)
  store.writeShift shiftId { shift with version := shift.version + 1 }

structure UpdateCashSettingsDto where
  toleranceVnd : Option Int := none
  approvalAboveVnd : Option Int := none
  responsibility : Option CashResponsibility := none
  maxOpenHours : Option Int := none
  maxOpeningFloatVnd : Option Int := none
  denominations : Option (List Int) := none

/-- `CashSettingsService.update` -/
def updateCashSettings (store : CashStore) (dto : UpdateCashSettingsDto) : Except Failure CashStore := do
  let next : CashSettings := {
    toleranceVnd := dto.toleranceVnd.getD store.settings.toleranceVnd
    approvalAboveVnd := dto.approvalAboveVnd.getD store.settings.approvalAboveVnd
    responsibility := dto.responsibility.getD store.settings.responsibility
    maxOpenHours := dto.maxOpenHours.getD store.settings.maxOpenHours
    maxOpeningFloatVnd := dto.maxOpeningFloatVnd.getD store.settings.maxOpeningFloatVnd
    denominations := dto.denominations.getD store.settings.denominations }
  validateCashSettings next
  return { store with settings := next }

/-- The cash entries other transactions of the sales service write. -/
inductive CashMovement where
  | sale (orderId : Uuid) (amount : Int)
  | payment (orderId tenderId : Uuid) (amount : Int)
  | orderRefund (orderId tenderId : Uuid) (amount : Int)
  | returnRefund (orderId returnId refundRequestId : Uuid) (amount : Int)

def CashMovement.entry (shiftId staffId : Uuid) : CashMovement → CashEntryInput
  | .sale orderId amount =>
    { shiftId, kind := .cashSale, amount, orderId := some orderId, staffId, sourceKey := .sale orderId }
  | .payment orderId tenderId amount =>
    { shiftId, kind := .cashSale, amount, orderId := some orderId, tenderId := some tenderId, staffId
      sourceKey := .tender tenderId }
  | .orderRefund orderId tenderId amount =>
    { shiftId, kind := .cashRefund, amount := -amount, reason := some "order_refund", orderId := some orderId
      tenderId := some tenderId, staffId, sourceKey := .tender tenderId }
  | .returnRefund orderId returnId refundRequestId amount =>
    { shiftId, kind := .cashRefund, amount := -amount, reason := some "return_refund", orderId := some orderId
      returnId := some returnId, staffId, sourceKey := .refund refundRequestId }

inductive ShiftOperation where
  /-- Master data and checkouts, kept by other parts of the service. -/
  | setBranch (branchId : Uuid) (active : Bool)
  | setRegister (registerId : Uuid) (register : Register)
  | setPendingWork (workflows : List (Uuid × Uuid × String)) (drafts : List (Uuid × Uuid))
  | updateCashSettings (dto : UpdateCashSettingsDto)
  | openShift (shiftId : Uuid) (code : String) (staffId : Uuid) (scope : BranchScope) (dto : OpenShiftReqDto)
  | record (shiftId entryId staffId : Uuid) (movement : CashMovement)
  | addCashEntry (shiftId entryId actorId : Uuid) (scope : BranchScope) (key : Option String) (dto : CashEntryReqDto)
  | countShift (shiftId actorId : Uuid) (scope : BranchScope) (dto : CountShiftReqDto)
  | closeShift (shiftId entryId actorId : Uuid) (scope : BranchScope) (dto : CloseShiftReqDto)
  | approveClose (shiftId entryId actorId : Uuid) (scope : BranchScope) (note : Option String)
  | rejectClose (shiftId : Uuid) (scope : BranchScope)
  | patchPlannedEnd (shiftId : Uuid) (scope : BranchScope)

def ShiftOperation.sourceKey : ShiftOperation → Option SourceKey
  | .record shiftId _ staffId movement => some (movement.entry shiftId staffId).sourceKey
  | .addCashEntry shiftId entryId _ _ key _ => some (cashEntryKey shiftId entryId key)
  | _ => none

def executeShift (store : CashStore) : ShiftOperation → Except Failure CashStore
  | .setBranch branchId active => .ok { store with branches := store.branches.insert branchId active }
  | .setRegister registerId register => .ok { store with registers := store.registers.insert registerId register }
  | .setPendingWork workflows drafts => .ok { store with pendingWorkflows := workflows, activeDrafts := drafts }
  | .updateCashSettings dto => updateCashSettings store dto
  | .openShift shiftId code staffId scope dto => openShift store shiftId code staffId scope dto
  | .record shiftId entryId staffId movement => do
    let recorded ← recordCashEntry store entryId (movement.entry shiftId staffId) false
    return recorded.1
  | .addCashEntry shiftId entryId actorId scope key dto => addCashEntry store shiftId entryId actorId scope key dto
  | .countShift shiftId actorId scope dto => countShift store shiftId actorId scope dto
  | .closeShift shiftId entryId actorId scope dto => closeShift store shiftId entryId actorId scope dto
  | .approveClose shiftId entryId actorId scope note =>
    approveClose store shiftId entryId actorId scope note
  | .rejectClose shiftId scope => rejectClose store shiftId scope
  | .patchPlannedEnd shiftId scope => patchPlannedEnd store shiftId scope

def performShift (store : CashStore) (operation : ShiftOperation) : CashStore :=
  commit store (executeShift store operation)

end Sales
