import RetailApi.Base.Run
import RetailApi.Finance.Reconciliation
import RetailApi.Proofs.Vouchers

/-! The balances of cash accounts under the requests of the cashbook, and the cash flow that the
summary reports beside them. -/

namespace Finance

open Transaction JsNumber CashDb Rows List Keyed Int EntryStatus

def Direction.signed (direction : Direction) (amount : Int) : Int :=
  match direction with
  | .receipt => amount
  | .expense => -amount

def EntryStatus.booked : EntryStatus → Bool
  | .posted | .reversed => true
  | .draft | .approved | .cancelled => false

namespace CashbookEntryEntity

def flow (entry : CashbookEntryEntity) : Int := if entry.status.booked then entry.direction.signed entry.amount else 0

def turnover (entry : CashbookEntryEntity) : Int := if entry.status.booked then entry.amount else 0

theorem abs_flow {entry : CashbookEntryEntity} (nonneg : 0 ≤ entry.turnover) : |entry.flow| = entry.turnover := by
  unfold flow turnover at *
  split
  · next booked =>
    rw [if_pos booked] at nonneg
    cases entry.direction with
    | receipt => exact abs_of_nonneg nonneg
    | expense => exact (abs_neg _).trans (abs_of_nonneg nonneg)
  · rfl

end CashbookEntryEntity

namespace CashDb

/-- Receipts less expenses of an account, over its vouchers that are POSTED or REVERSED. -/
def flow (db : CashDb) (id : Uuid) : Int := total (·.cashAccountId) (·.flow) id db.entries

/-- What all vouchers that are POSTED or REVERSED come to. -/
def turnover (db : CashDb) : Int := (db.entries.map (·.turnover)).sum

/-- Receipts less expenses over the vouchers that are REVERSED. -/
def reversedFlow (db : CashDb) : Int :=
  ((db.entries.filter (·.status = .reversed)).map fun entry => entry.direction.signed entry.amount).sum

structure Opened (db : CashDb) : Prop where
  accounts : (db.accounts.map (·.id)).Nodup
  active : ∀ account ∈ db.accounts, account.status = .active
  zero : ∀ account ∈ db.accounts, account.currentBalance = 0
  entries : db.entries = []

end CashDb

structure Filed (accounts : List Uuid) (entries : List CashbookEntryEntity) : Prop where
  distinct : (entries.map (·.id)).Nodup
  known : ∀ entry ∈ entries, entry.cashAccountId ∈ accounts
  nonneg : ∀ entry ∈ entries, 0 ≤ entry.turnover

namespace Filed

variable {accounts : List Uuid} {entries : List CashbookEntryEntity} {entry old : CashbookEntryEntity}

section

variable (filed : Filed accounts entries)

include filed

theorem append (fresh : ∀ other ∈ entries, other.id ≠ entry.id)
    (known : entry.cashAccountId ∈ accounts) (nonneg : 0 ≤ entry.turnover) : Filed accounts (entries ++ [entry]) where
  distinct := nodup_append filed.distinct fresh
  known := forall_concat filed.known known
  nonneg := forall_concat filed.nonneg nonneg

theorem save (known : entry.cashAccountId ∈ accounts) (nonneg : 0 ≤ entry.turnover) :
    Filed accounts (save (·.id) entry entries) where
  distinct := by
    rw [keys_save]
    exact filed.distinct
  known := forall_save filed.known known
  nonneg := forall_save filed.nonneg nonneg

theorem turnover_sum (distinct : accounts.Nodup) :
    (accounts.map fun id => total (·.cashAccountId) (·.turnover) id entries).sum = (entries.map (·.turnover)).sum :=
  sum_total distinct filed.known

theorem abs_total (id : Uuid) :
    |total (·.cashAccountId) (·.flow) id entries| ≤ total (·.cashAccountId) (·.turnover) id entries := by
  have nonneg := filed.nonneg
  clear filed
  induction entries with
  | nil => exact le_rfl
  | cons entry entries inner =>
    have rest := inner fun other member => nonneg other (.tail _ member)
    have own := CashbookEntryEntity.abs_flow (nonneg entry (.head _))
    rw [total_cons, total_cons]
    split
    · exact (abs_add_le _ _).trans (add_le_add own.le rest)
    · rwa [zero_add, zero_add]

theorem abs_total_le (distinct : accounts.Nodup) {id} (listed : id ∈ accounts) :
    |total (·.cashAccountId) (·.flow) id entries| ≤ (entries.map (·.turnover)).sum := by
  rw [← filed.turnover_sum distinct]
  exact (filed.abs_total id).trans (le_sum _ (fun _ _ => total_nonneg filed.nonneg) listed)

end

end Filed

structure CashBooks (db : CashDb) : Prop where
  accounts : (db.accounts.map (·.id)).Nodup
  active : ∀ account ∈ db.accounts, account.status = .active
  filed : Filed (db.accounts.map (·.id)) db.entries
  balance : db.turnover ≤ maxSafeInteger → ∀ account ∈ db.accounts, account.currentBalance = db.flow account.id

theorem CashDb.Opened.books {db} (opened : db.Opened) : CashBooks db where
  accounts := opened.accounts
  active := opened.active
  filed := by
    rw [opened.entries]
    exact ⟨nodup_nil, fun _ member => absurd member not_mem_nil, fun _ member => absurd member not_mem_nil⟩
  balance _ account member := by
    rw [opened.zero account member, flow, opened.entries]
    rfl

namespace CashBooks

variable {db after : CashDb} {account : CashAccountEntity}

theorem still (books : CashBooks db) (accounts : after.accounts = db.accounts)
    (filed : Filed (db.accounts.map (·.id)) after.entries) (flow : ∀ id, after.flow id = db.flow id)
    (turnover : after.turnover = db.turnover) : CashBooks after := by
  constructor
  · rw [accounts]
    exact books.accounts
  · rw [accounts]
    exact books.active
  · rw [accounts]
    exact filed
  · rw [accounts, turnover]
    intro small account member
    rw [flow]
    exact books.balance small account member

/-- A balance that is moved is rounded only above the turnover. -/
theorem moved (books : CashBooks db) (member : account ∈ db.accounts) (direction : Direction) (amount : Int)
    (accounts : after.accounts = save (·.id) (account.moved direction amount) db.accounts)
    (filed : Filed (db.accounts.map (·.id)) after.entries)
    (flow : ∀ id, after.flow id = db.flow id + if account.id = id then direction.signed amount else 0)
    (turnover : db.turnover ≤ after.turnover) : CashBooks after := by
  have ids : after.accounts.map (·.id) = db.accounts.map (·.id) := by rw [accounts, keys_save]
  constructor
  · rw [ids]
    exact books.accounts
  · rw [accounts]
    exact forall_save books.active (books.active account member)
  · rw [ids]
    exact filed
  · intro small other listed
    have before := books.balance (turnover.trans small)
    rw [accounts] at listed
    rcases mem_save listed with rfl | ⟨inside, apart⟩
    · have own : direction.apply account.currentBalance amount = JsNumber.round (after.flow account.id) := by
        rw [flow, if_pos rfl, ← before account member]
        cases direction with
        | receipt => rfl
        | expense => exact congrArg JsNumber.round (sub_eq_add_neg ..)
      show direction.apply account.currentBalance amount = after.flow account.id
      rw [own]
      apply round_of_safe
      exact abs_le.mp ((filed.abs_total_le books.accounts (mem_map_of_mem member)).trans small)
    · rw [flow, if_neg (show account.id ≠ other.id from Ne.symm apart), add_zero]
      exact before other inside

variable {entries : List CashbookEntryEntity} {entry : CashbookEntryEntity} {input : VoucherInput} {cleanKey : Option String}

theorem flow_append (same : after.entries = entries ++ [entry])
    (id : Uuid) : after.flow id = total (·.cashAccountId) (·.flow) id entries +
      if entry.cashAccountId = id then entry.flow else 0 := by
  rw [flow, same, total_append, total_cons, total_nil, add_zero]

theorem turnover_append
    (same : after.entries = entries ++ [entry]) : after.turnover = (entries.map (·.turnover)).sum + entry.turnover := by
  rw [turnover, same, map_append, sum_append, map_singleton, sum_singleton]

theorem drafted (books : CashBooks db) (draft : Drafted db input after entry) : CashBooks after ∧ entry ∈ after.entries := by
  obtain ⟨code, account, category, same, drawer⟩ := draft.request
  obtain ⟨found, stored, _⟩ := draft.account
  have idle : entry.flow = 0 := by
    rw [same]
    rfl
  have nothing : entry.turnover = 0 := by
    rw [same]
    rfl
  have known : entry.cashAccountId ∈ db.accounts.map (·.id) := by
    obtain ⟨inside, id⟩ := account_some stored
    rw [same]
    show account.id ∈ _
    rw [drawer, ← id]
    exact mem_map_of_mem inside
  constructor
  · apply books.still draft.accounts
    · rw [draft.entries]
      exact books.filed.append draft.fresh known nothing.ge
    · intro id
      rw [flow_append draft.entries, idle, ite_self, add_zero]
      rfl
    · rw [turnover_append draft.entries, nothing, add_zero]
      rfl
  · rw [draft.entries]
    exact mem_append_right _ (mem_singleton.mpr rfl)

theorem saved_sums {old} (distinct : (entries.map (·.id)).Nodup)
    (member : old ∈ entries) (entry : CashbookEntryEntity) (id : entry.id = old.id)
    (account : entry.cashAccountId = old.cashAccountId) :
    (∀ wanted, total (·.cashAccountId) (·.flow) wanted (save (·.id) entry entries) =
      total (·.cashAccountId) (·.flow) wanted entries + if old.cashAccountId = wanted then entry.flow - old.flow else 0) ∧
      ((save (·.id) entry entries).map (·.turnover)).sum =
        (entries.map (·.turnover)).sum - old.turnover + entry.turnover := by
  constructor
  · intro wanted
    rw [total_save distinct member id, account]
    split <;> omega
  · exact sum_save distinct member id _

theorem posted {db after} {entry posted cleanKey linked}
    (books : CashBooks db.cash) (member : entry ∈ db.cash.entries) (done : DraftPosted db entry cleanKey linked after posted) :
    CashBooks after.cash := by
  cases done with
  | @intro account ledger journalId status found active safe amount linking unique =>
    obtain ⟨inside, id⟩ := account_some found
    have idle : entry.flow = 0 := by
      unfold CashbookEntryEntity.flow
      rcases status with same | same <;> rw [same] <;> rfl
    have nothing : entry.turnover = 0 := by
      unfold CashbookEntryEntity.turnover
      rcases status with same | same <;> rw [same] <;> rfl
    have known : (entry.post journalId cleanKey).cashAccountId ∈ db.cash.accounts.map (·.id) := books.filed.known entry member
    have flows : (entry.post journalId cleanKey).flow = entry.direction.signed entry.amount := rfl
    have turnovers : (entry.post journalId cleanKey).turnover = entry.amount := rfl
    obtain ⟨flow, turnover⟩ := saved_sums books.filed.distinct member (entry.post journalId cleanKey) rfl rfl
    rw [flows, idle, sub_zero, ← id] at flow
    rw [turnovers, nothing, sub_zero] at turnover
    refine books.moved inside entry.direction entry.amount rfl ?_ flow ?_
    · exact books.filed.save known (turnovers ▸ amount.1.le)
    · exact (le_add_of_nonneg_right amount.1.le).trans turnover.ge

theorem entryPosted {db after} {posted linked}
    (books : CashBooks db.cash) (member : entry ∈ db.cash.entries) (done : EntryPosted db entry cleanKey linked after posted) :
    CashBooks after.cash := by
  cases done with
  | already => exact books
  | now draft => exact books.posted member draft

theorem voucher {db after} (books : CashBooks db.cash)
    (made : VoucherMade db input after entry) : CashBooks after.cash := by
  cases made with
  | existing => exact books
  | resumed _ read done => exact books.entryPosted (entry_some read).1 done
  | drafted _ _ draft => exact (books.drafted draft).1
  | posted _ draft done =>
    obtain ⟨drafted, member⟩ := books.drafted draft
    exact posted drafted member done

theorem approved {db after} {entryId answer} (books : CashBooks db.cash)
    (executed : approveEntry db entryId = .ok (after, answer)) : CashBooks after.cash := by
  simp only [approveEntry, eq_ok] at executed
  obtain ⟨entry, found, ran⟩ := executed
  split at ran
  · cases ran
    exact books
  · simp only [saveEntry, eq_ok, Prod.mk.injEq] at ran
    obtain ⟨_, draft, _, ⟨_, _, rfl⟩, rfl, rfl⟩ := ran
    have member := (entry_some found).1
    have idle : entry.flow = 0 := by rw [CashbookEntryEntity.flow, draft]; rfl
    have nothing : entry.turnover = 0 := by rw [CashbookEntryEntity.turnover, draft]; rfl
    obtain ⟨flow, turnover⟩ := saved_sums books.filed.distinct member { entry with status := .approved } rfl rfl
    rw [nothing, sub_zero] at turnover
    refine books.still ?_ ?_ ?_ ?_
    · rfl
    · exact books.filed.save (books.filed.known entry member) le_rfl
    · intro wanted
      refine (flow wanted).trans ?_
      rw [idle]
      exact (congrArg _ (ite_self _)).trans (add_zero _)
    · exact turnover.trans (add_zero _)

theorem reverseVoucherJournal_cash {db after drawn orig journalId}
    (ran : reverseVoucherJournal db drawn orig cleanKey = .ok (after, journalId)) : after.cash = db.cash := by
  unfold reverseVoucherJournal at ran
  split at ran
  · cases ran
    rfl
  · simp only [eq_ok, Prod.mk.injEq] at ran
    obtain ⟨_, _, rfl, _⟩ := ran
    rfl

theorem reversed {db after} {draws orig reversal cleanKey reason} (books : CashBooks db.cash) (member : orig ∈ db.cash.entries)
    (ran : reversePostedEntry db draws orig cleanKey reason = .ok (after, reversal)) : CashBooks after.cash := by
  simp only [reversePostedEntry, saveEntry, eq_ok, lockCashAccount_eq_ok, Prod.mk.injEq] at ran
  obtain ⟨_, status, account, ⟨found, _⟩, ⟨middle, journalId⟩, journal, inserted, added, saved, ⟨_, _, rfl⟩, cash, moved,
    rfl, rfl⟩ := ran
  have kept := reverseVoucherJournal_cash journal
  obtain ⟨_, accounts, entries, _⟩ := insertEntry_ok added
  obtain ⟨rfl, positive, _⟩ := moveBalance_ok moved
  obtain ⟨inside, id⟩ := account_some found
  generalize made : orig.reversal (newId (middle.cash.entries.map (·.id)) draws.entry)
    (middle.cash.nextCode orig.direction.opposite) reason journalId cleanKey = reversal at *
  rw [show (middle, journalId).1.cash = db.cash from kept] at accounts entries
  have fresh : ∀ other ∈ db.cash.entries, other.id ≠ reversal.id := by
    intro other listed
    rw [← made, ← kept] at *
    exact Fresh.ne_pick _ draws.entry listed
  have drawer : reversal.cashAccountId = orig.cashAccountId := by rw [← made]; rfl
  have flows : reversal.flow = orig.direction.opposite.signed orig.amount := by rw [← made]; rfl
  have turnovers : reversal.turnover = orig.amount := by rw [← made]; rfl
  have known := books.filed.known orig member
  have appended := books.filed.append fresh (drawer ▸ known) (turnovers ▸ positive.le)
  have listed : orig ∈ db.cash.entries ++ [reversal] := mem_append_left _ member
  generalize marked : ({ orig with status := .reversed, reversedByEntryId := some reversal.id } : CashbookEntryEntity) = ended at *
  have ended_flow : ended.flow = orig.flow := by
    rw [← marked]
    simp only [CashbookEntryEntity.flow, status, booked]
  have ended_turnover : ended.turnover = orig.turnover := by
    rw [← marked]
    simp only [CashbookEntryEntity.turnover, status, booked]
  have sameDrawer : ended.cashAccountId = orig.cashAccountId := by rw [← marked]
  obtain ⟨flow, turnover⟩ := saved_sums appended.distinct listed ended (by rw [← marked]) sameDrawer
  refine books.moved inside orig.direction.opposite orig.amount ?_ ?_ ?_ ?_
  · show save _ _ inserted.accounts = _
    rw [accounts]
  · show Filed _ (save _ _ inserted.entries)
    rw [entries]
    exact appended.save (sameDrawer ▸ known) (ended_turnover ▸ books.filed.nonneg orig member)
  · intro wanted
    show total _ _ _ (save _ _ inserted.entries) = _
    rw [entries, flow, ended_flow, sub_self, ite_self, add_zero, total_append, total_cons,
      total_nil, add_zero, drawer, flows, id]
    rfl
  · show _ ≤ ((save _ _ inserted.entries).map _).sum
    rw [entries, turnover, ended_turnover, map_append, sum_append, map_singleton, sum_singleton, turnovers]
    show (db.cash.entries.map _).sum ≤ _
    omega

theorem step {db} (books : CashBooks db.cash) (request : CashbookRequest) : CashBooks (cashbookStep db request).cash := by
  apply commit_preserves (fun db : FinanceDb => CashBooks db.cash) books
  intro after executed
  rw [map_eq_ok] at executed
  obtain ⟨⟨_, answer⟩, executed, rfl⟩ := executed
  cases request with
  | create draws direction header dto scope =>
    simp only [CashbookRequest.perform, createVoucher, eq_ok] at executed
    obtain ⟨_, _, _, _, executed⟩ := executed
    exact books.voucher (createAndOptionallyPostVoucherInTx_ok executed)
  | approve entryId => exact books.approved executed
  | post draws entryId header =>
    obtain ⟨entry, found, done⟩ := postEntryInTx_ok executed
    exact books.entryPosted (entry_some found).1 done
  | reverse draws entryId header bodyKey reason =>
    simp only [CashbookRequest.perform, reverseEntry, eq_ok] at executed
    obtain ⟨orig, found, ran⟩ := executed
    split at ran
    · simp only [eq_ok, Prod.mk.injEq] at ran
      obtain ⟨_, _, rfl, _⟩ := ran
      exact books
    · exact books.reversed (entry_some found).1 ran

end CashBooks

theorem cashbook_books {db} (opened : db.cash.Opened) (requests : List CashbookRequest) :
    CashBooks (requests.foldl cashbookStep db).cash :=
  Run.invariant (fun db : FinanceDb => CashBooks db.cash) (fun _ request books => books.step request) opened.books requests

theorem totalVnd_ok {options amounts total} (ran : totalVnd options amounts = .ok total) : total = amounts.foldl add 0 := by
  simp only [totalVnd, eq_ok] at ran
  obtain ⟨parsed, mapped, rfl⟩ := ran
  have same : parsed.map id = amounts.map id := by
    refine mapM_map_eq ?_ mapped
    intro amount result read
    exact (Option.some.inj (parseVnd_eq_ok.mp read).1).symm
  rw [map_id, map_id] at same
  rw [same]

/-- What the vouchers that are POSTED and of a direction come to. -/
def postedTotal (entries : List CashbookEntryEntity) (direction : Direction) : Int :=
  (((entries.filter (·.status = .posted)).filter (·.direction = direction)).map (·.amount)).sum

theorem flow_split (entries : List CashbookEntryEntity) : (entries.map (·.flow)).sum =
    postedTotal entries .receipt - postedTotal entries .expense +
      ((entries.filter (·.status = .reversed)).map fun entry => entry.direction.signed entry.amount).sum := by
  induction entries with
  | nil => rfl
  | cons entry entries inner =>
    unfold postedTotal at inner ⊢
    rw [map_cons, sum_cons, inner]
    cases status : entry.status <;> cases direction : entry.direction <;>
      simp [-filter_filter, status, direction, CashbookEntryEntity.flow, booked, Direction.signed] <;> omega

variable {entries : List CashbookEntryEntity}

theorem posted_nonneg (nonneg : ∀ entry ∈ entries, 0 ≤ entry.turnover)
    (direction : Direction) : ∀ amount ∈ ((entries.filter (·.status = .posted)).filter (·.direction = direction)).map (·.amount),
      0 ≤ amount := by
  rw [forall_mem_map]
  intro entry member
  obtain ⟨inside, status⟩ := mem_filter.mp (mem_filter.mp member).1
  have own := nonneg entry inside
  rwa [CashbookEntryEntity.turnover, of_decide_eq_true status] at own

theorem posted_le (nonneg : ∀ entry ∈ entries, 0 ≤ entry.turnover) :
    postedTotal entries .receipt + postedTotal entries .expense ≤ (entries.map (·.turnover)).sum := by
  induction entries with
  | nil => exact le_rfl
  | cons entry entries inner =>
    have rest := inner fun other member => nonneg other (.tail _ member)
    have own := nonneg entry (.head _)
    unfold postedTotal at rest ⊢
    rw [map_cons, sum_cons]
    rw [show entry.turnover = if entry.status.booked then entry.amount else 0 from rfl] at own ⊢
    cases status : entry.status <;> cases direction : entry.direction <;> rw [status] at own <;>
      simp [-filter_filter, status, direction, booked] at own ⊢ <;> omega

theorem CashBooks.total_balance {db} (books : CashBooks db) (small : db.turnover ≤ maxSafeInteger) :
    (db.accounts.map (·.currentBalance)).foldl add 0 = (db.entries.map (·.flow)).sum := by
  have flows : db.accounts.map (·.currentBalance) = (db.accounts.map (·.id)).map db.flow := by
    rw [map_map]
    exact map_congr_left fun account member => books.balance small account member
  have whole : ((db.accounts.map (·.id)).map db.flow).sum = (db.entries.map (·.flow)).sum :=
    sum_total books.accounts books.filed.known
  have magnitudes : (((db.accounts.map (·.id)).map db.flow).map (|·|)).sum ≤ db.turnover := by
    rw [map_map, turnover, ← books.filed.turnover_sum books.accounts]
    apply sum_le_sum
    intro id _
    exact books.filed.abs_total id
  rw [flows, foldl_add_of_magnitudes (by rw [abs_zero, zero_add]; exact magnitudes.trans small), zero_add, whole]

theorem getFinanceSummary_ok {db} {summary} (books : CashBooks db.cash)
    (small : db.cash.turnover ≤ maxSafeInteger) (ran : getFinanceSummary db none = .ok summary) :
    summary.totalCashBalance = (db.cash.entries.map (·.flow)).sum ∧
      summary.netCashFlow = postedTotal db.cash.entries .receipt - postedTotal db.cash.entries .expense := by
  simp only [getFinanceSummary, inScope, Option.all_none, Bool.true_and, eq_ok] at ran
  obtain ⟨cash, cashRead, receipts, receiptsRead, expenses, expensesRead, _, _, _, _, _, _, _, _, _, _, rfl⟩ := ran
  have nonneg := books.filed.nonneg
  have bound := posted_le nonneg
  have received := sum_nonneg (posted_nonneg nonneg .receipt)
  have spent := sum_nonneg (posted_nonneg nonneg .expense)
  have all : db.cash.accounts.filter (fun account => decide (account.status = .active)) = db.cash.accounts :=
    filter_eq_self.mpr fun account member => decide_eq_true (books.active account member)
  unfold turnover at small
  unfold postedTotal at bound
  constructor
  · rw [totalVnd_ok cashRead, all]
    exact books.total_balance small
  · show sub receipts expenses = _
    rw [totalVnd_ok receiptsRead, totalVnd_ok expensesRead, foldl_add_of_sum (posted_nonneg nonneg .receipt) le_rfl (by omega),
      foldl_add_of_sum (posted_nonneg nonneg .expense) le_rfl (by omega), zero_add, zero_add]
    apply sub_of_safe
    unfold IsSafe maxSafeInteger at *
    omega

/-- While all that was booked stays within the safe integers, every balance is the flow of its account, and the summary's
cash flow is the money held exactly when the vouchers that are REVERSED cancel out. -/
theorem net_cash_flow_iff {db : FinanceDb} (opened : db.cash.Opened) (requests : List CashbookRequest)
    (small : (requests.foldl cashbookStep db).cash.turnover ≤ maxSafeInteger) :
    (∀ account ∈ (requests.foldl cashbookStep db).cash.accounts,
      account.currentBalance = (requests.foldl cashbookStep db).cash.flow account.id) ∧
    ∀ summary, getFinanceSummary (requests.foldl cashbookStep db) none = .ok summary →
      (summary.netCashFlow = summary.totalCashBalance ↔ (requests.foldl cashbookStep db).cash.reversedFlow = 0) := by
  have books := cashbook_books opened requests
  refine ⟨books.balance small, ?_⟩
  intro summary executed
  obtain ⟨total, net⟩ := getFinanceSummary_ok books small executed
  rw [total, net, flow_split, reversedFlow]
  omega

private def till : FinanceDb where
  cash := { accounts := [defaultCashAccount 1 none .cashDrawer] }

private theorem till_opened : till.cash.Opened where
  accounts := nodup_singleton _
  active account member := by rw [mem_singleton.mp member]; rfl
  zero account member := by rw [mem_singleton.mp member]; rfl
  entries := rfl

private def takeIn : CashbookRequest :=
  .create { entry := 5 } .receipt none { cashAccountId := 1, amount := 100, autoPost := true } none

/-- A receipt that stays, and a receipt and an expense of one amount that are both reversed. -/
private def corrected : List CashbookRequest :=
  [takeIn, .create { entry := 6 } .receipt none { cashAccountId := 1, amount := 50, autoPost := true } none,
    .create { entry := 7 } .expense none { cashAccountId := 1, amount := 50, description := "bags", autoPost := true } none,
    .reverse { entry := 8 } 6 none none "wrong", .reverse { entry := 9 } 7 none none "wrong"]

theorem receipt_summarised :
    (∀ account ∈ (corrected.foldl cashbookStep till).cash.accounts,
      account.currentBalance = (corrected.foldl cashbookStep till).cash.flow account.id) ∧
    ∃ summary, getFinanceSummary (corrected.foldl cashbookStep till) none = .ok summary ∧
      summary.netCashFlow = summary.totalCashBalance := by
  obtain ⟨summary, executed, _⟩ := evaluates (getFinanceSummary (corrected.foldl cashbookStep till) none) (fun _ => true)
    (by decide +kernel)
  obtain ⟨balances, balanced⟩ := net_cash_flow_iff till_opened corrected (by decide +kernel)
  exact ⟨balances, summary, executed, (balanced summary executed).mpr (by decide +kernel)⟩

/-- A receipt that is reversed leaves nothing in the till, and a cash flow of minus its amount. -/
theorem reversed_receipt_counted_once : ¬∀ (db : FinanceDb) (requests : List CashbookRequest) (summary : FinanceSummary),
    db.cash.Opened → getFinanceSummary (requests.foldl cashbookStep db) none = .ok summary →
      summary.netCashFlow = summary.totalCashBalance := by
  intro equal
  obtain ⟨summary, executed, apart⟩ := evaluates
    (getFinanceSummary ([takeIn, .reverse { entry := 6 } 5 none none "wrong"].foldl cashbookStep till) none)
    (fun summary => summary.netCashFlow = -100 ∧ summary.totalCashBalance = 0) (by decide +kernel)
  obtain ⟨net, total⟩ := of_decide_eq_true apart
  have same := equal _ _ summary till_opened executed
  rw [net, total] at same
  cases same

end Finance
