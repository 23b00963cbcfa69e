import RetailApi.Finance.Reconciliation
import RetailApi.Proofs.Vouchers

/-! The variance of a closed shift, as finance stores it and books it on the drawer. -/

namespace Finance

open Transaction JsString JsNumber GlAccountCodes List Option ShiftClosedPayload

variable {db after : FinanceDb} {payload : ShiftClosedPayload} {draws : Draws}

namespace ShiftClosedPayload

def variance (payload : ShiftClosedPayload) : Int := payload.actual - payload.expected

def booked (payload : ShiftClosedPayload) : Int := payload.actual - max payload.opening payload.expected

/-- Finance has not heard of the shift, and its rows are as its own requests leave them. -/
structure Unheard (payload : ShiftClosedPayload) (db : FinanceDb) : Prop where
  shifts : ∀ row ∈ db.reconciliation.shifts, row.shiftId ≠ payload.shiftId
  vouchers : ∀ entry ∈ db.cash.entries, entry.idempotencyKey ≠ some s!"shift-cb:{payload.shiftId}"
  journals : ∀ journal ∈ db.ledger.journals, journal.sourceType = "SHIFT_CASH_RECONCILIATION" →
    ∃ row ∈ db.reconciliation.shifts, journal.sourceId = toString row.id
  accounts : (db.cash.accounts.map (·.id)).Nodup
  codes : db.cash.Codes

structure Amounts (payload : ShiftClosedPayload) : Prop where
  opening : 0 ≤ payload.opening ∧ IsSafe payload.opening
  expected : 0 ≤ payload.expected ∧ IsSafe payload.expected
  actual : 0 ≤ payload.actual ∧ IsSafe payload.actual

theorem Amounts.booked_safe (amounts : payload.Amounts) : IsSafe payload.booked := by
  obtain ⟨⟨opening, openingSafe⟩, ⟨expected, expectedSafe⟩, ⟨actual, actualSafe⟩⟩ := amounts
  unfold IsSafe maxSafeInteger at *
  unfold booked
  omega

theorem booked_eq_variance : payload.booked = payload.variance ↔ payload.opening ≤ payload.expected := by
  unfold booked variance
  omega

theorem evaluated {result} (amounts : payload.Amounts)
    (ran : evaluateShiftCashReconciliation payload.reconciliation.evaluation = .ok result) :
    result.varianceAmount = payload.booked := by
  simp only [evaluateShiftCashReconciliation, eq_ok, parseVnd_eq_ok] at ran
  obtain ⟨opening, ⟨openingIs, _⟩, sales, ⟨salesIs, _⟩, refunds, ⟨refundsIs, _⟩, received, ⟨receivedIs, _⟩, spent,
    ⟨spentIs, _⟩, actual, ⟨actualIs, _⟩, rfl⟩ := ran
  cases openingIs
  cases salesIs
  cases refundsIs
  cases receivedIs
  cases spentIs
  cases actualIs
  obtain ⟨⟨opening, openingSafe⟩, ⟨expected, expectedSafe⟩, ⟨actual, actualSafe⟩⟩ := id amounts
  have cash : add payload.opening (if payload.opening ≤ payload.expected then payload.expected - payload.opening else 0) =
      max payload.opening payload.expected := by
    have whole : payload.opening + (if payload.opening ≤ payload.expected then payload.expected - payload.opening else 0) =
        max payload.opening payload.expected := by
      split <;> omega
    rw [← whole]
    apply add_of_safe
    rw [whole]
    rcases max_choice payload.opening payload.expected with same | same <;> rwa [same]
  have safe : IsSafe (max payload.opening payload.expected) := by
    rcases max_choice payload.opening payload.expected with same | same <;> rwa [same]
  have same : sub (add (sub (max payload.opening payload.expected) 0) 0) 0 = max payload.opening payload.expected := by
    simp only [add, sub, Int.sub_zero, Int.add_zero, round_of_safe safe]
  show sub payload.actual (sub (add (sub (add payload.opening
    (if payload.opening ≤ payload.expected then payload.expected - payload.opening else 0)) 0) 0) 0) = _
  rw [cash, same]
  exact sub_of_safe amounts.booked_safe

end ShiftClosedPayload

/-- The balance of the drawer that a shift of a branch is booked on, nothing when it is opened for it. -/
def CashDb.drawerBalance (db : CashDb) (branchId : Uuid) : Int :=
  match db.usualAccount (some branchId) .cashDrawer with
  | some account => account.currentBalance
  | none => ((db.accounts.find? (·.code = "CASH-MAIN")).map (·.currentBalance)).getD 0

def CashDb.balanceOf (db : CashDb) (id : Uuid) : Int := ((db.account id).map (·.currentBalance)).getD 0

theorem drawer_balance {cash opened drawn branchId account}
    (executed : ensureDefaultCashAccountInTx cash drawn (some branchId) .cashDrawer = .ok (opened, account)) :
    account.currentBalance = cash.drawerBalance branchId := by
  simp only [ensureDefaultCashAccountInTx, eq_ok, readCashAccount_eq_ok] at executed
  obtain ⟨_, ⟨rfl, _⟩, ran⟩ := executed
  unfold CashDb.drawerBalance
  cases usual : cash.usualAccount (some branchId) .cashDrawer with
  | some account =>
    rw [usual] at ran
    cases ran
    rfl
  | none =>
    rw [usual] at ran
    simp only [eq_ok, readCashAccount_eq_ok, Prod.mk.injEq] at ran
    obtain ⟨_, ⟨rfl, _⟩, found, same, rfl, rfl⟩ := ran
    rw [CashDb.insertAccount] at same
    split at same
    · rw [show (defaultCashAccount (newId (cash.accounts.map (·.id)) drawn) (some branchId) .cashDrawer).code =
        "CASH-MAIN" from rfl] at same
      rw [same]
      rfl
    · next free =>
      have absent : cash.accounts.find? (·.code = "CASH-MAIN") = none := by
        rw [find?_eq_none]
        intro other member named
        exact free (any_eq_true.mpr ⟨other, member, named⟩)
      rw [find?_append, show (defaultCashAccount (newId (cash.accounts.map (·.id)) drawn) (some branchId)
        .cashDrawer).code = "CASH-MAIN" from rfl, absent, none_or, find?_singleton] at same
      rw [absent]
      simp only [defaultCashAccount, decide_true, ↓reduceIte, some.injEq] at same
      rw [← same]
      rfl

theorem AccountReady.balanceOf {cash ready account} (isReady : AccountReady cash ready account)
    (distinct : (cash.accounts.map (·.id)).Nodup) :
    cash.balanceOf account.id = account.currentBalance ∧ IsSafe account.currentBalance := by
  cases isReady with
  | there member safe =>
    have found : cash.account account.id = some account := Rows.find_of_mem distinct member
    exact ⟨by rw [CashDb.balanceOf, found]; rfl, safe⟩
  | @opened id branchId wanted fresh =>
    have absent : cash.account id = none := by
      rw [CashDb.account, find?_eq_none]
      intro other member
      rw [decide_eq_true_eq]
      exact fresh other member
    constructor
    · rw [show (defaultCashAccount id branchId wanted).id = id from rfl, CashDb.balanceOf, absent]
      rfl
    · constructor <;> simp [defaultCashAccount, maxSafeInteger]

theorem varianceJournal_net {cashGl} (code : cashGl = cashOnHand ∨ cashGl = cashAtBank) (shiftId reconId : Uuid)
    (variance : Int) : inputNetOn cashGl (varianceJournal shiftId reconId cashGl variance).lines = variance := by
  have own : toUpperCase (trimmed cashGl) = cashGl := by
    rcases code with rfl | rfl
    · exact folded_code _ (by decide)
    · exact folded_code _ (by decide)
  have short : toUpperCase (trimmed cashVariance) ≠ cashGl := by
    rw [folded_code _ (by decide)]
    rcases code with rfl | rfl <;> decide
  have gain : toUpperCase (trimmed otherIncome) ≠ cashGl := by
    rw [folded_code _ (by decide)]
    rcases code with rfl | rfl <;> decide
  unfold varianceJournal
  cases direction : varianceDirection variance with
  | expense =>
    simp only [inputNetOn_cons, inputNetOn_nil, own, short, ↓reduceIte, getD_some, getD_none]
    omega
  | receipt =>
    simp only [inputNetOn_cons, inputNetOn_nil, own, gain, ↓reduceIte, getD_some, getD_none]
    omega

theorem varianceVoucher_moves (dto : ReconcileShiftCashDto) (shiftCode : String) (reconId journalId accountId : Uuid)
    (variance balance : Int) :
    (varianceVoucher dto shiftCode reconId variance journalId accountId).direction.apply balance
      (varianceVoucher dto shiftCode reconId variance journalId accountId).amount = JsNumber.round (balance + variance) := by
  simp only [varianceVoucher]
  cases varianceDirection variance with
  | expense => simp only [Direction.apply, sub, Int.sub_neg]
  | receipt => rfl

/-- What a shift leaves of its drawer: an account with the balance it had and the variance. -/
structure BooksVariance (db : FinanceDb) (account : CashAccountEntity) (variance : Int) (after : FinanceDb) : Prop where
  stored : ∃ moved, after.cash.account account.id = some moved ∧ moved.glAccountCode = account.glAccountCode ∧
    moved.currentBalance = JsNumber.round (account.currentBalance + variance)
  ledger : after.ledger.balance account.glAccountCode = db.ledger.balance account.glAccountCode + variance
  shifts : after.reconciliation.shifts = db.reconciliation.shifts

theorem bookVariance_ok {dto shiftCode reconId account result journalId issueId}
    (executed : bookVariance db draws dto shiftCode reconId (some account) result = .ok (after, journalId, issueId))
    (found : db.cash.account account.id = some account) (safe : IsSafe account.currentBalance)
    (code : account.glAccountCode = cashOnHand ∨ account.glAccountCode = cashAtBank)
    (unposted : ∀ journal ∈ db.ledger.journals, journal.source ≠ ("SHIFT_CASH_RECONCILIATION", toString reconId))
    (absent : ∀ entry ∈ db.cash.entries, entry.idempotencyKey ≠ some s!"shift-cb:{dto.shiftId}") :
    BooksVariance db account result.varianceAmount after := by
  unfold bookVariance at executed
  split at executed
  · next none =>
    cases executed
    rw [none]
    constructor
    · refine ⟨account, found, rfl, ?_⟩
      rw [Int.add_zero, round_of_safe safe]
    · rw [Int.add_zero]
    · rfl
  · simp only [eq_ok, Prod.mk.injEq, map_some, getD_some] at executed
    obtain ⟨⟨ledger, posted⟩, ran, ⟨booked, entryId⟩, linked, rfl, _⟩ := executed
    obtain ⟨validated, accepted, posting⟩ := postJournalInTx_ok ran
    have source : (varianceJournal dto.shiftId reconId account.glAccountCode result.varianceAmount).source =
        ("SHIFT_CASH_RECONCILIATION", toString reconId) := by
      rw [PostJournalInTxInput.source, Prod.mk.injEq]
      refine ⟨?_, trimmed_toString reconId⟩
      show toUpperCase (trimmed "SHIFT_CASH_RECONCILIATION") = _
      decide +kernel
    have new := posting.new fun journal member same => absurd (same.trans source) (unposted journal member)
    have moved := posting.balance account.glAccountCode
    rw [new, netOn_validated accepted, varianceJournal_net code] at moved
    cases linkedVoucher_ok linked with
    | @made _ _ entry made =>
      have ledgerKept := made.ledger (by simp [varianceVoucher])
      have rest := made.rest
      obtain ⟨stored, fresh⟩ := made.new (by rfl) (by simp) absent rfl rfl
      have own : stored = account := some.inj (fresh.found.symm.trans found)
      constructor
      · refine ⟨stored.moved (varianceVoucher dto shiftCode reconId result.varianceAmount posted.journal.id account.id).direction
          (varianceVoucher dto shiftCode reconId result.varianceAmount posted.journal.id account.id).amount, ?_, ?_, ?_⟩
        · show booked.cash.account account.id = _
          rw [CashDb.account, fresh.accounts, Rows.find_save, show db.cash.accounts.find? (·.id = account.id) = some account
            from found, map_some, own, if_pos (show account.id = (account.moved _ _).id from rfl)]
        · rw [own]
          rfl
        · rw [own]
          exact varianceVoucher_moves ..
      · show booked.ledger.balance _ = _
        rw [ledgerKept]
        exact moved
      · show booked.reconciliation.shifts = _
        rw [rest]

/-- The reconciliation that is stored has the shift's own variance, and the drawer has moved by it. -/
def ShiftClosedPayload.Recorded (payload : ShiftClosedPayload) (db after : FinanceDb) : Prop :=
  ∃ row ∈ after.reconciliation.shifts, row.shiftId = payload.shiftId ∧ row.varianceAmount = payload.variance ∧
    ∃ account ∈ row.cashAccountId.bind after.cash.account,
      account.currentBalance = db.cash.balanceOf account.id + payload.variance ∧
      after.ledger.balance account.glAccountCode = db.ledger.balance account.glAccountCode + payload.variance

instance (db after : FinanceDb) : Decidable (payload.Recorded db after) := inferInstanceAs (Decidable (∃ _ ∈ _, _))

structure ClosesShift (db : FinanceDb) (payload : ShiftClosedPayload) (row : ShiftCashReconciliationEntity)
    (account : CashAccountEntity) (after : FinanceDb) : Prop where
  shifts : after.reconciliation.shifts = db.reconciliation.shifts ++ [row]
  shiftId : row.shiftId = payload.shiftId
  variance : row.varianceAmount = payload.booked
  drawer : row.cashAccountId.bind after.cash.account = some account
  before : db.cash.balanceOf account.id = db.cash.drawerBalance payload.branchId
  balance : account.currentBalance = JsNumber.round (db.cash.drawerBalance payload.branchId + payload.booked)
  ledger : after.ledger.balance account.glAccountCode = db.ledger.balance account.glAccountCode + payload.booked

theorem onSalesShiftClosed_ok (unheard : payload.Unheard db) (executed : onSalesShiftClosed db draws payload = .ok after) :
    ∃ row account, ClosesShift db payload row account after := by
  simp only [onSalesShiftClosed, reconcileShiftCashInTx, eq_ok, parseVnd_eq_ok] at executed
  obtain ⟨_, ⟨opening, openingSafe, openingSign, _⟩, _, ⟨expected, expectedSafe, expectedSign, _⟩, _,
    ⟨actual, actualSafe, actualSign, _⟩, ⟨_, response⟩, ⟨existing, read, ran⟩, rfl⟩ := executed
  cases opening
  cases expected
  cases actual
  simp only [Bool.false_eq_true, or_false] at openingSign expectedSign actualSign
  have amounts : payload.Amounts := ⟨⟨openingSign, openingSafe⟩, ⟨expectedSign, expectedSafe⟩, ⟨actualSign, actualSafe⟩⟩
  have new : db.reconciliation.shifts.find? (·.shiftId = payload.reconciliation.shiftId) = none := by
    rw [find?_eq_none]
    intro row member
    rw [decide_eq_true_eq]
    exact unheard.shifts row member
  rw [new] at read
  cases read
  simp only [reconcileNew, eq_ok, Prod.mk.injEq] at ran
  obtain ⟨result, made, _, _, ⟨cash, account⟩, named, ⟨booked, journalId, issueId⟩, books, rfl, rfl⟩ := ran
  simp only [namedAccount, reconciliation, eq_ok, Prod.mk.injEq] at named
  obtain ⟨⟨_, drawer⟩, ensured, rfl, rfl⟩ := named
  have ready := ensureDefaultCashAccountInTx_ok ensured
  obtain ⟨before, safe⟩ := ready.balanceOf unheard.accounts
  obtain ⟨found, entries⟩ := ready.found unheard.accounts
  have balance := drawer_balance ensured
  have shifts : (db.reconciliation.shiftCode payload.reconciliation).1.shifts = db.reconciliation.shifts := by
    unfold ReconciliationDb.shiftCode
    split <;> rfl
  have books := bookVariance_ok books found safe (ready.codes unheard.codes).2 (fun journal member same => by
      obtain ⟨row, listed, own⟩ := unheard.journals journal member (congrArg Prod.fst same)
      exact Fresh.ne_pick _ draws.document listed (toString_injective (own.symm.trans (congrArg Prod.snd same))))
    (fun entry member => unheard.vouchers entry (entries ▸ member))
  have variance := evaluated amounts made
  obtain ⟨moved, stored, code, amount⟩ := books.stored
  have id := (CashDb.account_some stored).2
  refine ⟨result.reconciliation payload.reconciliation (newId (db.reconciliation.shifts.map (·.id)) draws.document)
    (db.reconciliation.shiftCode payload.reconciliation).2 (some drawer.id) journalId issueId, moved, ?_⟩
  constructor
  · show booked.reconciliation.shifts ++ _ = _
    rw [books.shifts, shifts]
    rfl
  · rfl
  · exact variance
  · exact stored
  · rw [id, before, balance]
  · rw [amount, balance, variance]
  · rw [code]
    exact variance ▸ books.ledger

/-- A shift that finance had not heard of is recorded with its own variance exactly when it expects at least its opening
cash, and a double can hold what is in the drawer afterwards. -/
theorem shift_variance_recorded_iff (unheard : payload.Unheard db) (executed : onSalesShiftClosed db draws payload = .ok after) :
    payload.Recorded db after ↔ payload.opening ≤ payload.expected ∧
      JsNumber.round (db.cash.drawerBalance payload.branchId + payload.variance) =
        db.cash.drawerBalance payload.branchId + payload.variance := by
  obtain ⟨row, account, closes⟩ := onSalesShiftClosed_ok unheard executed
  constructor
  · rintro ⟨other, member, own, variance, drawer, found, balance, _⟩
    rw [closes.shifts] at member
    have same : other = row := by
      rcases mem_append.mp member with old | last
      · exact absurd own (unheard.shifts other old)
      · exact mem_singleton.mp last
    rw [same] at variance found
    have equal := closes.variance.symm.trans variance
    cases found.symm.trans closes.drawer
    rw [closes.before, closes.balance, equal] at balance
    exact ⟨booked_eq_variance.mp equal, balance⟩
  · rintro ⟨fits, exact_⟩
    have equal := booked_eq_variance.mpr fits
    refine ⟨row, ?_, closes.shiftId, closes.variance.trans equal, account, closes.drawer, ?_, ?_⟩
    · rw [closes.shifts]
      exact mem_append_right _ (mem_singleton.mpr rfl)
    · rw [closes.balance, closes.before, equal, exact_]
    · rw [closes.ledger, equal]

private def lateShift (expected : Int) : ShiftClosedPayload where
  shiftId := 7
  code := some "S-7"
  branchId := 1
  openingCash := some 100
  expectedCash := some expected
  actualCash := some 80

private theorem lateShift_unheard (expected : Int) : (lateShift expected).Unheard {} where
  shifts _ member := absurd member not_mem_nil
  vouchers _ member := absurd member not_mem_nil
  journals _ member := absurd member not_mem_nil
  accounts := nodup_nil
  codes _ member := absurd member not_mem_nil

theorem short_shift_recorded :
    ∃ after, onSalesShiftClosed {} {} (lateShift 150) = .ok after ∧ (lateShift 150).Recorded {} after := by
  obtain ⟨after, executed, _⟩ := evaluates (onSalesShiftClosed {} {} (lateShift 150)) (fun _ => true) (by decide +kernel)
  exact ⟨after, executed, (shift_variance_recorded_iff (lateShift_unheard 150) executed).mpr (by decide +kernel)⟩

/-- A drawer opened with 100 that paid 20 out and has 80 left is short of 20. -/
theorem paid_out_shift_misrecorded : ¬∀ (db : FinanceDb) (draws : Draws) (payload : ShiftClosedPayload) (after : FinanceDb),
    payload.Unheard db → onSalesShiftClosed db draws payload = .ok after → payload.Recorded db after := by
  intro recorded
  obtain ⟨after, executed, wrong⟩ := evaluates (onSalesShiftClosed {} {} (lateShift 80))
    (fun after => ¬(lateShift 80).Recorded {} after) (by decide +kernel)
  exact absurd (recorded _ _ _ after (lateShift_unheard 80) executed) (of_decide_eq_true wrong)

end Finance
