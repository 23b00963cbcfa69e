import Mathlib.Data.List.Induction
import RetailApi.Base.Run
import RetailApi.Sales.Shifts

/-! The cash session: the totals of a shift are sums over its entries, and a closed shift
accounts for its drawer and never changes again. -/

namespace Sales

open Transaction CashEntryKind List CashStore

def total (counts : CashEntryKind → Bool) (entries : List CashEntry) : Int :=
  (entries.map fun entry => if counts entry.kind then entry.amount else 0).sum

@[simp] theorem total_append (counts : CashEntryKind → Bool) (first second : List CashEntry) :
    total counts (first ++ second) = total counts first + total counts second := by
  rw [total, map_append, sum_append]
  rfl

theorem total_cons (counts : CashEntryKind → Bool) (entry : CashEntry) (entries : List CashEntry) :
    total counts (entry :: entries) = (if counts entry.kind then entry.amount else 0) + total counts entries := by
  rw [total, map_cons, sum_cons, total]

def running (kind : CashEntryKind) : Bool := !kind.isClosing

variable {entries : List CashEntry} {store after : CashStore} {shiftId : Uuid} {shift next : Shift}
  {counts : CashEntryKind → Bool}

theorem expectedCashFromEntries_ok {openingCash expected}
    (computed : expectedCashFromEntries openingCash entries = .ok expected) : expected = openingCash + total running entries := by
  simp only [expectedCashFromEntries, eq_ok] at computed
  obtain ⟨opening, parsed, sum, folded, converted⟩ := computed
  obtain ⟨rfl, _⟩ := parseVndAmount_ok parsed
  obtain rfl := vndNumber_ok converted
  refine foldlM_links (fun finished sum => sum = opening + total running finished) (by simp [total]) ?_ folded
  intro finished entry rest before after _ linked stepped
  rw [total_append, ← add_assoc, ← linked]
  split at stepped
  · next closing =>
    cases stepped
    simp [total, running, closing]
  · next open_ =>
    simp only [eq_ok] at stepped
    obtain ⟨_, _, rfl⟩ := stepped
    simp [total, running, open_]

section Store

variable {store after : CashStore} {shiftId : Uuid} {shift : Shift}

theorem writeShift_ok (written : store.writeShift shiftId shift = .ok after) :
    (∀ other, after.shift other = if other = shiftId then some shift else store.shift other) ∧
      after.entries = store.entries ∧ after.settings = store.settings := by
  unfold CashStore.writeShift at written
  split at written
  · cases written
    refine ⟨fun other => ?_, rfl, rfl⟩
    simp only [CashStore.shift, Table.lookup_insert_if]
    split <;> rfl
  · cases written

theorem entriesOf_append {entries} (appended : after.entries = store.entries ++ entries)
    (own : ∀ entry ∈ entries, entry.shiftId = shiftId) (other : Uuid) :
    after.entriesOf other = store.entriesOf other ++ if other = shiftId then entries else [] := by
  unfold entriesOf
  rw [appended, filter_append]
  congr 1
  split
  · next same =>
    rw [filter_eq_self]
    intro entry member
    simp [own entry member, same]
  · next different =>
    rw [filter_eq_nil_iff]
    intro entry member
    simp [own entry member, Ne.symm different]

theorem entriesOf_congr (same : after.entries = store.entries) : after.entriesOf = store.entriesOf := by
  funext other
  rw [entriesOf, same, entriesOf]

structure EntryWritten (store : CashStore) (input : CashEntryInput) (after : CashStore) (entry : CashEntry)
    (shift : Shift) : Prop where
  found : store.shift input.shiftId = some shift
  fresh : ∀ other ∈ store.entries, other.sourceKey ≠ input.sourceKey
  own : entry.shiftId = input.shiftId
  kind : entry.kind = input.kind
  amount : entry.amount = input.amount
  key : entry.sourceKey = input.sourceKey
  order : entry.orderId = input.orderId
  entries : after.entries = store.entries ++ [entry]
  settings : after.settings = store.settings

def Shift.moved (shift : Shift) (kind : CashEntryKind) (amount : Int) : Shift :=
  { shift with
    cashSalesTotal := shift.cashSalesTotal + if kind = .cashSale then amount else 0
    cashRefundsTotal := shift.cashRefundsTotal + if kind = .cashRefund then -amount else 0
    expectedCash := shift.expectedCash + amount
    version := shift.version + 1 }

theorem recordCashEntry_ok {entryId input} {closing}
    {result} (ran : recordCashEntry store entryId input closing = .ok result) :
    (result.1 = store ∧ result.2.2 = true ∧ ∃ entry ∈ store.entries, entry.sourceKey = input.sourceKey) ∨
    ∃ entry shift, EntryWritten store input result.1 entry shift ∧ (closing = true ∨ shift.status = .open) ∧
      ∀ other, result.1.shift other =
        if other = input.shiftId ∧ input.kind.isClosing = false then some (shift.moved input.kind input.amount)
        else store.shift other := by
  simp only [recordCashEntry, eq_ok] at ran
  obtain ⟨shift, found, ran⟩ := ran
  split at ran
  · next existing replayed =>
    rw [pure_eq_ok] at ran
    subst ran
    exact .inl ⟨rfl, rfl, existing, mem_of_find?_eq_some replayed, by simpa using find?_some replayed⟩
  · next unused =>
    have fresh : ∀ other ∈ store.entries, other.sourceKey ≠ input.sourceKey := by
      intro other member same
      exact find?_eq_none.mp unused other member (by simpa using same)
    simp only [eq_ok] at ran
    obtain ⟨_, _, _, allowed, _, _, _, _, ran⟩ := ran
    split at ran
    · next closes =>
      rw [pure_eq_ok] at ran
      subst ran
      refine .inr ⟨_, shift, ⟨found, fresh, rfl, rfl, rfl, rfl, rfl, rfl, rfl⟩, allowed, fun other => ?_⟩
      rw [if_neg (by simp [closes])]
      rfl
    · next runs =>
      simp only [eq_ok] at ran
      obtain ⟨written, wrote, rfl⟩ := ran
      obtain ⟨shifts, entries, settings⟩ := writeShift_ok wrote
      refine .inr ⟨_, shift, ⟨found, fresh, rfl, rfl, rfl, rfl, rfl, entries, settings⟩, allowed, fun other => ?_⟩
      have runsOn : input.kind.isClosing = false := by simpa using runs
      rw [shifts other]
      simp only [runsOn, and_true]
      rfl

end Store

/-- The closing row of a shift accounts for its drawer, given what its closing entries add up to. -/
structure Accounted (shift : Shift) (closing : Int) (actual : Int) : Prop where
  counted : shift.actualCash = some actual
  variance : shift.variance = some (actual - shift.expectedCash)
  gap : closing = actual - shift.expectedCash

def Shift.ApprovedByAnother (shift : Shift) : Prop :=
  ∃ approver counter, shift.approvedBy = some approver ∧ shift.countedBy = some counter ∧ approver ≠ counter

/-- The totals on a shift are those of its cash entries, whose closing ones come when it closes. -/
structure SessionKept (entries : List CashEntry) (shift : Shift) : Prop where
  expected : shift.expectedCash = shift.openingCash + total running entries
  sales : shift.cashSalesTotal = total (· = .cashSale) entries
  refunds : shift.cashRefundsTotal = -total (· = .cashRefund) entries
  running : shift.status ≠ .closed → ∀ entry ∈ entries, entry.kind.isClosing = false
  waiting : shift.status = .pendingApproval → shift.countedBy ≠ none
  closed : shift.status = .closed → ∃ actual, Accounted shift (total isClosing entries) actual

structure DrawersKept (store : CashStore) : Prop where
  valid : validateCashSettings store.settings = .ok ()
  sessions : ∀ shiftId shift, store.shift shiftId = some shift → SessionKept (store.entriesOf shiftId) shift
  owned : ∀ entry ∈ store.entries, store.shift entry.shiftId ≠ none
  /-- The key of a closing entry is used by that entry only. -/
  keys : ∀ entry ∈ store.entries, ∀ shiftId, entry.sourceKey = .close shiftId →
    entry.shiftId = shiftId ∧ entry.kind.isClosing = true

theorem DrawersKept.empty : DrawersKept {} where
  valid := rfl
  sessions _ _ found := by cases found
  owned _ member := by cases member
  keys _ member := by cases member

theorem DrawersKept.unclosed (kept : DrawersKept store)
    (found : store.shift shiftId = some shift) (active : shift.status ≠ .closed) :
    ∀ entry ∈ store.entries, entry.sourceKey ≠ .close shiftId := by
  intro entry member same
  obtain ⟨own, closing⟩ := kept.keys entry member shiftId same
  have inside : entry ∈ store.entriesOf shiftId := mem_filter.mpr ⟨member, by simpa using own⟩
  have still := (kept.sessions shiftId shift found).running active entry inside
  cases closing.symm.trans still

/-- A shift row written over an active one, with the closing entries that come with it. -/
structure Rewritten (store after : CashStore) (shiftId : Uuid) (shift next : Shift) (entries : List CashEntry) :
    Prop where
  settings : after.settings = store.settings
  found : store.shift shiftId = some shift
  active : shift.status ≠ .closed
  opening : next.openingCash = shift.openingCash
  sales : next.cashSalesTotal = shift.cashSalesTotal
  refunds : next.cashRefundsTotal = shift.cashRefundsTotal
  expected : next.expectedCash = shift.openingCash + total running (store.entriesOf shiftId)
  shifts : ∀ other, after.shift other = if other = shiftId then some next else store.shift other
  appended : after.entries = store.entries ++ entries
  closing : ∀ entry ∈ entries, entry.shiftId = shiftId ∧ entry.kind.isClosing = true ∧ entry.sourceKey = .close shiftId

/-- What one request may do to the store. -/
inductive Turn (store after : CashStore) : Prop where
  | idle (shifts : after.shift = store.shift) (entries : after.entries = store.entries)
    (valid : validateCashSettings after.settings = .ok ())
  | opened {shiftId : Uuid} {shift : Shift} (unused : store.shift shiftId = none) (status : shift.status = .open)
    (expected : shift.expectedCash = shift.openingCash) (sales : shift.cashSalesTotal = 0)
    (refunds : shift.cashRefundsTotal = 0)
    (shifts : ∀ other, after.shift other = if other = shiftId then some shift else store.shift other)
    (entries : after.entries = store.entries) (settings : after.settings = store.settings)
  | recorded {input entry shift}
    (written : EntryWritten store input after entry shift) (status : shift.status = .open)
    (runs : input.kind.isClosing = false) (key : ∀ shiftId, input.sourceKey ≠ .close shiftId)
    (shifts : ∀ other, after.shift other =
      if other = input.shiftId then some (shift.moved input.kind input.amount) else store.shift other)
  | rewritten {shiftId : Uuid} {shift next : Shift} (row : Rewritten store after shiftId shift next [])
    (status : next.status ≠ .closed) (waiting : next.status = .pendingApproval → next.countedBy ≠ none)
  | closed {shiftId shift next entries actual}
    (row : Rewritten store after shiftId shift next entries) (status : next.status = .closed)
    (accounted : Accounted next (total isClosing entries) actual)
    (approved : store.settings.approvalAboveVnd < (actual - next.expectedCash).natAbs → next.ApprovedByAnother)

theorem Turn.announced {events} (turn : Turn store after) : Turn store { after with outbox := events } := by
  cases turn with
  | idle shifts entries valid => exact .idle shifts entries valid
  | opened unused status expected sales refunds shifts entries settings =>
    exact .opened unused status expected sales refunds shifts entries settings
  | recorded written status runs key shifts => exact .recorded { written with } status runs key shifts
  | rewritten row status waiting => exact .rewritten { row with } status waiting
  | closed row status accounted approved => exact .closed { row with } status accounted approved

section Requests

variable {store after : CashStore} {shiftId : Uuid}

variable {scope : BranchScope} {shift next : Shift} {staffId entryId actorId : Uuid} {closing : Closing}

theorem lockShift_ok (locked : lockShift store shiftId scope = .ok shift) : store.shift shiftId = some shift := by
  simp only [lockShift, eq_ok] at locked
  obtain ⟨_, found, _, _, rfl⟩ := locked
  exact found

theorem openShift_turn {code dto} (ran : openShift store shiftId code staffId scope dto = .ok after) : Turn store after := by
  simp only [openShift, eq_ok] at ran
  obtain ⟨_, _, _, _, openingCash, _, _, _, _, _, register, _, ran⟩ := ran
  obtain ⟨_, _, _, unused, _, _, written, wrote, rfl⟩ := ran
  obtain ⟨shifts, entries, settings⟩ := writeShift_ok wrote
  exact .announced (.opened (by simp [shift, unused]) rfl rfl rfl rfl shifts entries settings)

theorem recordCashEntry_turn {input} {result}
    (kept : DrawersKept store) (runs : input.kind.isClosing = false) (key : ∀ other, input.sourceKey ≠ .close other)
    (ran : recordCashEntry store entryId input false = .ok result) : Turn store result.1 := by
  rcases recordCashEntry_ok ran with ⟨same, _⟩ | ⟨entry, shift, written, allowed, shifts⟩
  · rw [same]
    exact .idle rfl rfl kept.valid
  · refine .recorded written (by simpa using allowed) runs key ?_
    intro other
    rw [shifts other]
    simp [runs]

theorem addCashEntry_turn {key dto}
    (kept : DrawersKept store) (ran : addCashEntry store shiftId entryId actorId scope key dto = .ok after) :
    Turn store after := by
  simp only [addCashEntry, eq_ok] at ran
  obtain ⟨_, _, result, recorded, rfl⟩ := ran
  refine recordCashEntry_turn kept ?_ ?_ recorded
  · cases dto.kind <;> rfl
  · intro other same
    dsimp only [cashEntryKey] at same
    split at same <;> cases same

theorem record_turn {movement : CashMovement} {result} (kept : DrawersKept store)
    (ran : recordCashEntry store entryId (movement.entry shiftId staffId) false = .ok result) : Turn store result.1 := by
  refine recordCashEntry_turn kept ?_ ?_ ran
  · cases movement <;> rfl
  · intro other same
    cases movement <;> cases same

theorem Rewritten.of_write {middle : CashStore} {entries}
    (locked : lockShift store shiftId scope = .ok shift) (active : shift.status ≠ .closed)
    (settings : middle.settings = store.settings) (shifts : middle.shift = store.shift)
    (appended : middle.entries = store.entries ++ entries)
    (closing : ∀ entry ∈ entries, entry.shiftId = shiftId ∧ entry.kind.isClosing = true ∧ entry.sourceKey = .close shiftId)
    (wrote : middle.writeShift shiftId next = .ok after)
    (opening : next.openingCash = shift.openingCash) (sales : next.cashSalesTotal = shift.cashSalesTotal)
    (refunds : next.cashRefundsTotal = shift.cashRefundsTotal)
    (expected : next.expectedCash = shift.openingCash + total running (store.entriesOf shiftId)) :
    Rewritten store after shiftId shift next entries := by
  obtain ⟨rows, kept, same⟩ := writeShift_ok wrote
  refine ⟨same.trans settings, lockShift_ok locked, active, opening, sales, refunds, expected, ?_, kept.trans appended,
    closing⟩
  intro other
  rw [rows other, shifts]

theorem Rewritten.counted (locked : lockShift store shiftId scope = .ok shift)
    (active : shift.status ≠ .closed) (wrote : store.writeShift shiftId next = .ok after)
    (opening : next.openingCash = shift.openingCash) (sales : next.cashSalesTotal = shift.cashSalesTotal)
    (refunds : next.cashRefundsTotal = shift.cashRefundsTotal)
    (expected : next.expectedCash = shift.openingCash + total running (store.entriesOf shiftId)) :
    Rewritten store after shiftId shift next [] :=
  .of_write locked active rfl rfl (by simp) (by simp) wrote opening sales refunds expected

theorem countShift_turn {dto} (ran : countShift store shiftId actorId scope dto = .ok after) : Turn store after := by
  simp only [countShift, eq_ok] at ran
  obtain ⟨shift, locked, _, _, _, active, _, _, _, _, counted, _, expected, computed, wrote⟩ := ran
  refine .rewritten (.counted locked active wrote rfl rfl rfl ?_) (by simp) (by simp)
  exact expectedCashFromEntries_ok computed

theorem rejectClose_turn (kept : DrawersKept store)
    (ran : rejectClose store shiftId scope = .ok after) : Turn store after := by
  simp only [rejectClose, eq_ok] at ran
  obtain ⟨shift, locked, _, active, _, _, wrote⟩ := ran
  refine .rewritten (.counted locked active wrote rfl rfl rfl ?_) (by simp) (by simp)
  exact (kept.sessions shiftId shift (lockShift_ok locked)).expected

theorem patchPlannedEnd_turn (kept : DrawersKept store)
    (ran : patchPlannedEnd store shiftId scope = .ok after) : Turn store after := by
  simp only [patchPlannedEnd, eq_ok] at ran
  obtain ⟨shift, locked, _, active, wrote⟩ := ran
  refine .rewritten (.counted locked (by simp [active]) wrote rfl rfl rfl ?_) (by simp [active]) (by simp [active])
  exact (kept.sessions shiftId shift (lockShift_ok locked)).expected

theorem recordVariance_ok {result} (unused : ∀ entry ∈ store.entries, entry.sourceKey ≠ .close shiftId)
    (ran : recordVariance store shiftId entryId closing = .ok result) :
    result.1.settings = store.settings ∧ result.1.shift = store.shift ∧ ∃ entries, result.1.entries = store.entries ++ entries ∧
      (∀ entry ∈ entries, entry.shiftId = shiftId ∧ entry.kind.isClosing = true ∧ entry.sourceKey = .close shiftId) ∧
      total isClosing entries = closing.variance := by
  unfold recordVariance at ran
  split at ran
  · next even =>
    cases ran
    exact ⟨rfl, rfl, [], by simp, by simp, by simp [total, even]⟩
  · simp only [eq_ok] at ran
    obtain ⟨staffId, _, recorded, wrote, rfl⟩ := ran
    have closes : ∀ variance : Int,
        (if variance < 0 then cashShortage else .cashOverage).isClosing = true := by
      intro variance
      split <;> rfl
    rcases recordCashEntry_ok wrote with ⟨_, _, entry, member, same⟩ | ⟨entry, shift, written, _, shifts⟩
    · exact absurd same (unused entry member)
    refine ⟨written.settings, ?_, [entry], written.entries, ?_, ?_⟩
    · funext other
      rw [shifts other]
      simp [closes]
    · intro other member
      obtain rfl := mem_singleton.mp member
      exact ⟨written.own, by rw [written.kind]; exact closes _, written.key⟩
    · simp [total, written.kind, closes, written.amount]

section

variable (kept : DrawersKept store)
include kept

theorem finalizeClose_turn
    (locked : lockShift store shiftId scope = .ok shift) (active : shift.status ≠ .closed)
    (ran : finalizeClose store shiftId entryId shift closing = .ok after)
    (expected : closing.expected = shift.openingCash + total running (store.entriesOf shiftId))
    (variance : closing.variance = closing.counted - closing.expected)
    (approved : store.settings.approvalAboveVnd < closing.variance.natAbs →
      ∃ approver counter, closing.approvedBy = some approver ∧ closing.countedBy = some counter ∧ approver ≠ counter) :
    Turn store after := by
  simp only [finalizeClose, eq_ok] at ran
  obtain ⟨recorded, entered, closed, wrote, rfl⟩ := ran
  obtain ⟨settings, shifts, entries, appended, own, sum⟩ :=
    recordVariance_ok (kept.unclosed (lockShift_ok locked) active) entered
  refine .announced (.closed (.of_write locked active settings shifts appended own wrote rfl rfl rfl expected) rfl
    ⟨rfl, ?_, ?_⟩ ?_)
  · rw [variance]
  · rw [sum, variance]
  · rw [← variance]
    exact approved

theorem closeShift_turn {dto}
    (ran : closeShift store shiftId entryId actorId scope dto = .ok after) :
    Turn store after := by
  simp only [closeShift, eq_ok] at ran
  obtain ⟨shift, locked, _, _, _, active, _, _, _, _, ⟨counted, countedBy, notes⟩, _, ran⟩ := ran
  obtain ⟨expected, computed, _, _, ran⟩ := ran
  split at ran
  · exact .rewritten (.counted locked active ran rfl rfl rfl (expectedCashFromEntries_ok computed)) (by simp) (by simp)
  · next decided =>
    refine finalizeClose_turn kept locked active ran (expectedCashFromEntries_ok computed) rfl ?_
    intro above
    exact absurd (decideShiftClose_within kept.valid decided) (not_le.mpr above)

theorem approveClose_turn {note}
    (ran : approveClose store shiftId entryId actorId scope note = .ok after) :
    Turn store after := by
  simp only [approveClose, eq_ok] at ran
  obtain ⟨shift, locked, _, active, _, waiting, _, other, expected, computed, counted, _, ran⟩ := ran
  refine finalizeClose_turn kept locked active ran (expectedCashFromEntries_ok computed) rfl ?_
  intro _
  obtain ⟨counter, named⟩ := Option.ne_none_iff_exists'.mp
    ((kept.sessions shiftId shift (lockShift_ok locked)).waiting waiting)
  refine ⟨actorId, counter, rfl, named, ?_⟩
  intro same
  exact other.1 (named.trans (congrArg some same.symm))

theorem executeShift_turn {operation}
    (ran : executeShift store operation = .ok after) : Turn store after := by
  cases operation with
  | setBranch | setRegister | setPendingWork =>
    cases ran
    exact .idle rfl rfl kept.valid
  | updateCashSettings dto =>
    simp only [executeShift, updateCashSettings, eq_ok] at ran
    obtain ⟨_, valid, rfl⟩ := ran
    exact .idle rfl rfl valid
  | openShift => exact openShift_turn ran
  | record =>
    simp only [executeShift, eq_ok] at ran
    obtain ⟨result, recorded, rfl⟩ := ran
    exact record_turn kept recorded
  | addCashEntry => exact addCashEntry_turn kept ran
  | countShift => exact countShift_turn ran
  | closeShift => exact closeShift_turn kept ran
  | approveClose => exact approveClose_turn kept ran
  | rejectClose => exact rejectClose_turn kept ran
  | patchPlannedEnd => exact patchPlannedEnd_turn kept ran

end

end Requests

theorem total_eq_zero (none : ∀ entry ∈ entries, counts entry.kind = false) : total counts entries = 0 := by
  induction entries with
  | nil => rfl
  | cons entry entries inner =>
    rw [total_cons, inner fun other member => none other (.tail _ member)]
    simp [none entry (.head _)]

theorem total_running_add_closing (entries : List CashEntry) :
    total running entries + total isClosing entries = total (fun _ => true) entries := by
  induction entries with
  | nil => rfl
  | cons entry entries inner =>
    rw [total_cons, total_cons, total_cons, ← inner]
    by_cases closing : entry.kind.isClosing = true
    · simp only [running, closing, Bool.not_true, Bool.false_eq_true, if_false, if_true]
      omega
    · simp only [running, closing, Bool.not_false, Bool.false_eq_true, if_false, if_true]
      omega

theorem SessionKept.moved {entry}
    (kept : SessionKept entries shift) (status : shift.status = .open) (runs : entry.kind.isClosing = false) :
    SessionKept (entries ++ [entry]) (shift.moved entry.kind entry.amount) where
  expected := by
    simp only [Shift.moved, total_append, kept.expected]
    simp [total, Sales.running, runs, add_assoc]
  sales := by simp [Shift.moved, kept.sales, total]
  refunds := by
    simp only [Shift.moved, total_append, kept.refunds, neg_add]
    simp only [total, map_cons, map_nil, sum_singleton, decide_eq_true_eq]
    split <;> simp
  running active := forall_concat (kept.running (by simp [status])) runs
  waiting waits := by simp [Shift.moved, status] at waits
  closed done := by simp [Shift.moved, status] at done

theorem Rewritten.totals (row : Rewritten store after shiftId shift next entries)
    (runs : ∀ kind, counts kind = true → kind.isClosing = false) :
    total counts (store.entriesOf shiftId ++ entries) = total counts (store.entriesOf shiftId) := by
  have none : ∀ entry ∈ entries, counts entry.kind = false := by
    intro entry member
    by_contra counted
    have contradiction := runs entry.kind (by simpa using counted)
    rw [(row.closing entry member).2.1] at contradiction
    cases contradiction
  rw [total_append, total_eq_zero none, add_zero]

theorem SessionKept.rewritten
    (kept : SessionKept (store.entriesOf shiftId) shift) (row : Rewritten store after shiftId shift next entries)
    (unclosed : next.status ≠ .closed → entries = []) (waiting : next.status = .pendingApproval → next.countedBy ≠ none)
    (closed : next.status = .closed → ∃ actual, Accounted next (total isClosing entries) actual) :
    SessionKept (store.entriesOf shiftId ++ entries) next where
  expected := by
    rw [row.totals (by simp [Sales.running]), row.expected, row.opening]
  sales := by
    rw [row.totals (by simp [isClosing]), row.sales, kept.sales]
  refunds := by
    rw [row.totals (by simp [isClosing]), row.refunds, kept.refunds]
  running active := by
    rw [unclosed active, append_nil]
    exact kept.running row.active
  waiting := waiting
  closed done := by
    rw [total_append, total_eq_zero (kept.running row.active), zero_add]
    exact closed done

section Turns

variable {store after : CashStore}

variable {shiftId : Uuid} {shift next : Shift} {entries : List CashEntry}

theorem Rewritten.entriesOf (row : Rewritten store after shiftId shift next entries) (other : Uuid) :
    after.entriesOf other = store.entriesOf other ++ if other = shiftId then entries else [] :=
  entriesOf_append row.appended (fun entry member => (row.closing entry member).1) other

theorem EntryWritten.entriesOf {input entry} (written : EntryWritten store input after entry shift) (other : Uuid) :
    after.entriesOf other = store.entriesOf other ++ if other = input.shiftId then [entry] else [] := by
  refine entriesOf_append written.entries ?_ other
  intro entry' member
  rw [mem_singleton.mp member]
  exact written.own

theorem DrawersKept.extend (kept : DrawersKept store) (settings : after.settings = store.settings)
    (shifts : ∀ other, after.shift other = if other = shiftId then some next else store.shift other)
    (appended : after.entries = store.entries ++ entries) (own : ∀ entry ∈ entries, entry.shiftId = shiftId)
    (keys : ∀ entry ∈ entries, ∀ other, entry.sourceKey = .close other → entry.shiftId = other ∧ entry.kind.isClosing = true)
    (session : SessionKept (store.entriesOf shiftId ++ entries) next) : DrawersKept after where
  valid := by
    rw [settings]
    exact kept.valid
  sessions other shift found := by
    rw [shifts] at found
    rw [entriesOf_append appended own]
    split at found
    · next same =>
      cases found
      rw [if_pos same, same]
      exact session
    · next different =>
      rw [if_neg different, append_nil]
      exact kept.sessions other shift found
  owned entry member := by
    rw [shifts]
    split
    · simp
    · next different =>
      rw [appended] at member
      rcases mem_append.mp member with before | new
      · exact kept.owned entry before
      · exact absurd (own entry new) different
  keys := by
    rw [appended]
    exact forall_mem_append.mpr ⟨kept.keys, keys⟩

theorem Turn.keeps (turn : Turn store after) (kept : DrawersKept store) : DrawersKept after := by
  cases turn with
  | idle shifts entries valid =>
    refine ⟨valid, ?_, ?_, ?_⟩
    · rw [shifts, entriesOf_congr entries]
      exact kept.sessions
    · rw [shifts, entries]
      exact kept.owned
    · rw [entries]
      exact kept.keys
  | @opened shiftId shift unused status expected sales refunds shifts entries settings =>
    have none : store.entriesOf shiftId = [] := by
      refine filter_eq_nil_iff.mpr ?_
      intro entry member own
      exact kept.owned entry member (by simpa [decide_eq_true_eq.mp own] using unused)
    have appended : after.entries = store.entries ++ [] := by rw [entries, append_nil]
    refine kept.extend settings shifts appended (by simp) (by simp) ?_
    rw [none]
    exact ⟨by simpa [total] using expected, sales, refunds, by simp, by simp [status], by simp [status]⟩
  | @recorded input entry shift written status runs key shifts =>
    refine kept.extend written.settings shifts written.entries (by simpa using written.own) ?_ ?_
    · intro other member shiftId same
      rw [mem_singleton.mp member, written.key] at same
      exact absurd same (key shiftId)
    · have session := kept.sessions input.shiftId shift written.found
      rw [← written.kind] at runs ⊢
      rw [← written.amount]
      exact session.moved status runs
  | @rewritten shiftId shift next row status waiting =>
    refine kept.extend row.settings row.shifts row.appended (by simp) (by simp) ?_
    exact (kept.sessions shiftId shift row.found).rewritten row (by simp) waiting fun done => absurd done status
  | @closed shiftId shift next entries actual row status accounted approved =>
    refine kept.extend row.settings row.shifts row.appended (fun entry member => (row.closing entry member).1) ?_ ?_
    · intro entry member other same
      obtain ⟨own, closing, key⟩ := row.closing entry member
      cases key.symm.trans same
      exact ⟨own, closing⟩
    · exact (kept.sessions shiftId shift row.found).rewritten row (fun active => absurd status active)
        (by simp [status]) fun _ => ⟨actual, accounted⟩

theorem Turn.frozen (turn : Turn store after) (found : store.shift shiftId = some shift)
    (done : shift.status = .closed) : after.shift shiftId = some shift ∧ after.entriesOf shiftId = store.entriesOf shiftId := by
  -- A row that is written is active, so it is not the row of this shift.
  have apart : ∀ {other row}, store.shift other = some row → row.status ≠ .closed → shiftId ≠ other := by
    intro other row found' active same
    rw [← same, found] at found'
    cases found'
    exact active done
  cases turn with
  | idle shifts entries _ => exact ⟨by rw [shifts, found], by rw [entriesOf_congr entries]⟩
  | @opened opened _ unused _ _ _ _ shifts entries _ =>
    have different : shiftId ≠ opened := by
      intro same
      rw [← same, found] at unused
      cases unused
    exact ⟨by rw [shifts, if_neg different, found], by rw [entriesOf_congr entries]⟩
  | recorded written status _ _ shifts =>
    have different := apart written.found (by simp [status])
    exact ⟨by rw [shifts, if_neg different, found], by rw [written.entriesOf, if_neg different, append_nil]⟩
  | rewritten row =>
    have different := apart row.found row.active
    exact ⟨by rw [row.shifts, if_neg different, found], by rw [row.entriesOf, if_neg different, append_nil]⟩
  | closed row =>
    have different := apart row.found row.active
    exact ⟨by rw [row.shifts, if_neg different, found], by rw [row.entriesOf, if_neg different, append_nil]⟩

end Turns

def drawersAfter (operations : List ShiftOperation) : CashStore := Run.after performShift {} operations

theorem performShift_keeps (store : CashStore) (operation : ShiftOperation) (kept : DrawersKept store) :
    DrawersKept (performShift store operation) :=
  commit_preserves DrawersKept kept fun _ ran => (executeShift_turn kept ran).keeps kept

theorem drawersKept_of_run (operations : List ShiftOperation) : DrawersKept (drawersAfter operations) :=
  Run.invariant DrawersKept performShift_keeps .empty operations

theorem performShift_frozen (kept : DrawersKept store) (operation : ShiftOperation)
    (found : store.shift shiftId = some shift) (done : shift.status = .closed) :
    (performShift store operation).shift shiftId = some shift ∧
      (performShift store operation).entriesOf shiftId = store.entriesOf shiftId := by
  refine commit_preserves (fun after : CashStore => after.shift shiftId = some shift ∧
    after.entriesOf shiftId = store.entriesOf shiftId) ⟨found, rfl⟩ ?_
  intro after ran
  exact (executeShift_turn kept ran).frozen found done

theorem closed_frozen (kept : DrawersKept store)
    (found : store.shift shiftId = some shift) (done : shift.status = .closed) (later : List ShiftOperation) :
    (Run.after performShift store later).shift shiftId = some shift ∧
      (Run.after performShift store later).entriesOf shiftId = store.entriesOf shiftId := by
  have stepped : ∀ (state : CashStore) operation, (DrawersKept state ∧ state.shift shiftId = some shift ∧
      state.entriesOf shiftId = store.entriesOf shiftId) →
      DrawersKept (performShift state operation) ∧ (performShift state operation).shift shiftId = some shift ∧
        (performShift state operation).entriesOf shiftId = store.entriesOf shiftId := by
    rintro state operation ⟨stateKept, row, entries⟩
    obtain ⟨row', entries'⟩ := performShift_frozen stateKept operation row done
    exact ⟨performShift_keeps state operation stateKept, row', entries'.trans entries⟩
  exact (Run.invariant _ stepped ⟨kept, found, rfl⟩ later).2

/-- The request that closed a shift, and the approval its threshold asked for. -/
structure ClosedBy (shiftId : Uuid) (shift : Shift) (earlier : List ShiftOperation) (closing : ShiftOperation) :
    Prop where
  active : ∀ row, (drawersAfter earlier).shift shiftId = some row → row.status ≠ .closed
  closed : (drawersAfter (earlier ++ [closing])).shift shiftId = some shift
  approved : ∀ variance, shift.variance = some variance →
    (drawersAfter earlier).settings.approvalAboveVnd < variance.natAbs → shift.ApprovedByAnother

theorem Turn.approved (turn : Turn store after) (active : ∀ row, store.shift shiftId = some row → row.status ≠ .closed)
    (found : after.shift shiftId = some shift) (done : shift.status = .closed) {variance}
    (varies : shift.variance = some variance) (above : store.settings.approvalAboveVnd < variance.natAbs) :
    shift.ApprovedByAnother := by
  -- Every turn but a close leaves the row as it was or writes one that is not closed.
  have apart : ∀ {other : Uuid} {next : Shift},
      after.shift shiftId = (if shiftId = other then some next else store.shift shiftId) → next.status ≠ .closed → False := by
    intro other next shifts status
    rw [found] at shifts
    split at shifts
    · cases shifts
      exact status done
    · exact active shift shifts.symm done
  cases turn with
  | idle shifts => exact absurd done (active shift (shifts ▸ found))
  | opened _ status _ _ _ shifts => exact (apart (shifts shiftId) (by simp [status])).elim
  | recorded _ status _ _ shifts => exact (apart (shifts shiftId) (by simp [Shift.moved, status])).elim
  | rewritten row status => exact (apart (row.shifts shiftId) status).elim
  | closed row _ accounted approved =>
    rw [row.shifts] at found
    split at found
    · cases found
      rw [accounted.variance] at varies
      cases varies
      exact approved above
    · exact absurd done (active shift found)

theorem closedBy_of_run {operations}
    (found : (drawersAfter operations).shift shiftId = some shift) (done : shift.status = .closed) :
    ∃ earlier closing later, operations = earlier ++ closing :: later ∧ ClosedBy shiftId shift earlier closing := by
  -- On the last request: either the shift was closed before it, and is unchanged, or this request closed it.
  induction operations using reverseRecOn with
  | nil => cases found
  | append_singleton operations operation inner =>
    have kept := drawersKept_of_run operations
    have stepped : drawersAfter (operations ++ [operation]) = performShift (drawersAfter operations) operation :=
      Run.after_append _ operations [operation]
    by_cases before : ∃ row, (drawersAfter operations).shift shiftId = some row ∧ row.status = .closed
    · obtain ⟨row, rowFound, rowDone⟩ := before
      have same := (performShift_frozen kept operation rowFound rowDone).1
      rw [stepped, same] at found
      cases found
      obtain ⟨earlier, closing, later, rfl, closed⟩ := inner rowFound
      exact ⟨earlier, closing, later ++ [operation], by simp, closed⟩
    · refine ⟨operations, operation, [], rfl, ?_, found, ?_⟩
      · intro row rowFound rowDone
        exact before ⟨row, rowFound, rowDone⟩
      · intro variance varies above
        have active : ∀ row, (drawersAfter operations).shift shiftId = some row → row.status ≠ .closed :=
          fun row rowFound rowDone => before ⟨row, rowFound, rowDone⟩
        rw [stepped, performShift] at found
        cases ran : executeShift (drawersAfter operations) operation with
        | ok after =>
          rw [ran] at found
          exact (executeShift_turn kept ran).approved active found done varies above
        | error _ =>
          rw [ran] at found
          exact absurd done (active shift found)

theorem recordCashEntry_replayed {entryId} {input} {closing}
    {result} (used : ∃ entry ∈ store.entries, entry.sourceKey = input.sourceKey)
    (ran : recordCashEntry store entryId input closing = .ok result) : result.1 = store := by
  rcases recordCashEntry_ok ran with ⟨same, _⟩ | ⟨entry, shift, written, _⟩
  · exact same
  · obtain ⟨other, member, key⟩ := used
    exact absurd key (written.fresh other member)

theorem performShift_replayed {operation} {key}
    (keyed : operation.sourceKey = some key) (used : ∃ entry ∈ store.entries, entry.sourceKey = key) :
    performShift store operation = store := by
  refine commit_preserves (· = store) rfl ?_
  intro after ran
  cases operation with
  | record =>
    cases keyed
    simp only [executeShift, eq_ok] at ran
    obtain ⟨result, recorded, rfl⟩ := ran
    exact recordCashEntry_replayed used recorded
  | addCashEntry =>
    cases keyed
    simp only [executeShift, addCashEntry, eq_ok] at ran
    obtain ⟨_, _, result, recorded, rfl⟩ := ran
    exact recordCashEntry_replayed used recorded
  | _ => cases keyed

/-- In every reachable state the totals of a shift are sums over its entries, a source key writes once, and a
closed shift accounts for its drawer, was approved where its variance asked for it, and stays as it is. -/
theorem shift_cash_ledger (operations : List ShiftOperation) (shiftId : Uuid) (shift : Shift)
    (found : (drawersAfter operations).shift shiftId = some shift) :
    let store := drawersAfter operations
    shift.expectedCash = shift.openingCash + total running (store.entriesOf shiftId) ∧
    shift.cashSalesTotal = total (· = .cashSale) (store.entriesOf shiftId) ∧
    shift.cashRefundsTotal = -total (· = .cashRefund) (store.entriesOf shiftId) ∧
    (∀ operation key, operation.sourceKey = some key → (∃ entry ∈ store.entries, entry.sourceKey = key) →
      performShift store operation = store) ∧
    (shift.status = .closed →
      (∃ actual, shift.actualCash = some actual ∧ shift.variance = some (actual - shift.expectedCash) ∧
        shift.openingCash + total (fun _ => true) (store.entriesOf shiftId) = actual) ∧
      (∃ earlier closing later, operations = earlier ++ closing :: later ∧ ClosedBy shiftId shift earlier closing) ∧
      ∀ later, (Run.after performShift store later).shift shiftId = some shift ∧
        (Run.after performShift store later).entriesOf shiftId = store.entriesOf shiftId) := by
  have kept := drawersKept_of_run operations
  have session := kept.sessions shiftId shift found
  refine ⟨session.expected, session.sales, session.refunds, ?_, ?_⟩
  · intro operation key keyed used
    exact performShift_replayed keyed used
  · intro done
    refine ⟨?_, closedBy_of_run found done, closed_frozen kept found done⟩
    obtain ⟨actual, accounted⟩ := session.closed done
    refine ⟨actual, accounted.counted, accounted.variance, ?_⟩
    rw [← total_running_add_closing, accounted.gap, ← add_assoc, ← session.expected]
    omega

/-- A day at one register: a sale, a replayed pay-in, and a shortage that a manager has to approve. -/
def registerDay : List ShiftOperation := [
  .setBranch 1 true,
  .openShift 10 "CA-1" 7 none { branchId := 1, openingCash := 500000 },
  .record 10 20 7 (.sale 30 120000),
  .addCashEntry 10 21 7 none (some "k1") { kind := .payIn, amount := 50000, reason := "change" },
  .addCashEntry 10 22 7 none (some "k1") { kind := .payIn, amount := 50000, reason := "change" },
  .closeShift 10 23 7 none { actualCash := some 600000, reason := some .miscountedChange },
  .approveClose 10 24 8 none none]

theorem shift_cash_ledger_registerDay : ∃ shift, (drawersAfter registerDay).shift 10 = some shift ∧
    shift.status = .closed ∧ shift.expectedCash = 670000 ∧ shift.actualCash = some 600000 ∧
    500000 + total (fun _ => true) ((drawersAfter registerDay).entriesOf 10) = 600000 ∧ shift.ApprovedByAnother ∧
    ∀ later, (Run.after performShift (drawersAfter registerDay) later).shift 10 = some shift := by
  have read : ((drawersAfter registerDay).shift 10).map (fun shift => (shift.status, shift.openingCash,
      shift.expectedCash, shift.actualCash, shift.approvedBy, shift.countedBy)) =
      some (.closed, 500000, 670000, some 600000, some 8, some 7) := by rfl
  obtain ⟨shift, found, fields⟩ := Option.map_eq_some_iff.mp read
  simp only [Prod.mk.injEq] at fields
  obtain ⟨status, opening, expected, actual, approver, counter⟩ := fields
  obtain ⟨_, _, _, _, closed⟩ := shift_cash_ledger registerDay 10 shift found
  obtain ⟨⟨counted, same, _, sum⟩, _, frozen⟩ := closed status
  rw [actual, Option.some_inj] at same
  refine ⟨shift, found, status, expected, actual, ?_, ⟨8, 7, approver, counter, by decide⟩, fun later => (frozen later).1⟩
  rw [← opening, sum, same]

end Sales
