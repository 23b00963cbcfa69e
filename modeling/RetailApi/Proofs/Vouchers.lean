import RetailApi.Finance.Balances
import RetailApi.Finance.Debts

/-! What the operations of the cashbook do when they succeed: a voucher is drafted once under its
key, and posting it moves the balance of its account and links a journal. -/

namespace Finance

open Transaction JsNumber GlAccountCodes CashDb List Rows

@[simp] theorem readCashAccount_eq_ok {found read} :
    readCashAccount found = .ok read ↔ found = read ∧ ∀ account ∈ found, IsSafe account.currentBalance := by
  cases found with
  | none => simp [readCashAccount]
  | some account => simp [readCashAccount, and_comm]

@[simp] theorem lockCashAccount_eq_ok {db id account} :
    lockCashAccount db id = .ok account ↔ db.account id = some account ∧ IsSafe account.currentBalance := by
  simp only [lockCashAccount, eq_ok, readCashAccount_eq_ok]
  constructor
  · rintro ⟨_, ⟨rfl, safe⟩, found⟩
    exact ⟨found, safe account found⟩
  · rintro ⟨found, safe⟩
    refine ⟨db.account id, ⟨rfl, ?_⟩, found⟩
    rw [found]
    intro other same
    cases same
    exact safe

namespace CashDb

variable {db : CashDb} {entry : CashbookEntryEntity}

theorem account_some {id account} (found : db.account id = some account) : account ∈ db.accounts ∧ account.id = id :=
  ⟨mem_of_find?_eq_some found, by simpa using find?_some found⟩

theorem entry_some {id} (found : db.entry id = some entry) : entry ∈ db.entries ∧ entry.id = id :=
  ⟨mem_of_find?_eq_some found, by simpa using find?_some found⟩

def Unique (db : CashDb) (entry : CashbookEntryEntity) : Prop :=
  ∀ other ∈ db.entries, other.id ≠ entry.id →
    (entry.idempotencyKey = none ∨ other.idempotencyKey ≠ entry.idempotencyKey) ∧
      (entry.reversalOfEntryId = none ∨ other.reversalOfEntryId ≠ entry.reversalOfEntryId)

theorem checkEntry_ok (ran : db.checkEntry entry = .ok ()) : db.Unique entry := by
  simp only [checkEntry, eq_ok] at ran
  obtain ⟨_, keys, reversals⟩ := ran
  exact fun other member apart => ⟨keys other member apart, reversals other member apart⟩

end CashDb

variable {branchId cashAccountId linked : Option Uuid} {drawn journalId : Uuid} {entry posted : CashbookEntryEntity}
  {cleanKey : Option String} {draws : Draws} {input : VoucherInput}

theorem CashDb.usualAccount_mem {db : CashDb} {wanted account}
    (usual : db.usualAccount branchId wanted = some account) : account ∈ db.accounts := by
  have active : db.activeAccount wanted.accountType = some account → account ∈ db.accounts :=
    fun found => mem_of_find?_eq_some found
  unfold usualAccount at usual
  cases branchId with
  | none => exact active usual
  | some id =>
    by_cases drawer : wanted = .cashDrawer
    · rw [Option.bind_some, if_pos drawer] at usual
      cases found : db.branchDrawer id with
      | none =>
        rw [found] at usual
        exact active usual
      | some other =>
        rw [found] at usual
        cases usual
        exact mem_of_find?_eq_some found
    · rw [Option.bind_some, if_neg drawer] at usual
      exact active usual

/-- The account a payment goes through: one that is there, or one opened for it with nothing on it. -/
inductive AccountReady (db : CashDb) : CashDb → CashAccountEntity → Prop
  | there {account} (member : account ∈ db.accounts) (safe : IsSafe account.currentBalance) :
      AccountReady db db account
  | opened {id branchId wanted} (fresh : ∀ other ∈ db.accounts, other.id ≠ id)
      (code : ∀ other ∈ db.accounts, other.code ≠ (defaultCashAccount id branchId wanted).code) :
      AccountReady db { db with accounts := db.accounts ++ [defaultCashAccount id branchId wanted] }
        (defaultCashAccount id branchId wanted)

theorem AccountReady.found {cash ready account} (is : AccountReady cash ready account)
    (distinct : (cash.accounts.map (·.id)).Nodup) : ready.account account.id = some account ∧ ready.entries = cash.entries := by
  cases is with
  | there member => exact ⟨find_of_mem distinct member, rfl⟩
  | opened fresh =>
    refine ⟨find_of_mem (Keyed.nodup_append distinct fresh) ?_, rfl⟩
    exact mem_append_right _ (.head _)

theorem ensureDefaultCashAccountInTx_ok {db after wanted account}
    (executed : ensureDefaultCashAccountInTx db drawn branchId wanted = .ok (after, account)) : AccountReady db after account := by
  simp only [ensureDefaultCashAccountInTx, eq_ok, readCashAccount_eq_ok] at executed
  obtain ⟨_, ⟨rfl, safe⟩, ran⟩ := executed
  split at ran
  · next usual =>
    cases ran
    exact .there (usualAccount_mem usual) (safe _ usual)
  · next none =>
    simp only [eq_ok, readCashAccount_eq_ok, Prod.mk.injEq] at ran
    obtain ⟨_, ⟨rfl, safe⟩, found, same, rfl, rfl⟩ := ran
    generalize opened : defaultCashAccount (newId (db.accounts.map (·.id)) drawn) branchId wanted = fresh at *
    by_cases taken : db.accounts.any (·.code = fresh.code)
    · rw [insertAccount, if_pos taken] at same safe ⊢
      exact .there (mem_of_find?_eq_some same) (safe _ same)
    · rw [insertAccount, if_neg taken] at same ⊢
      have code : ∀ other ∈ db.accounts, other.code ≠ fresh.code := by simpa using taken
      have absent : db.accounts.find? (·.code = fresh.code) = Option.none := by simpa [find?_eq_none] using code
      have first : found = fresh := by
        rw [find?_append, absent, Option.none_or, find?_singleton] at same
        simpa using same.symm
      rw [first, ← opened]
      rw [← opened] at code
      exact .opened (fun other member => Fresh.ne_pick _ drawn member) code

theorem paymentAccount_ok {db after wanted account}
    (ran : paymentAccount db drawn cashAccountId branchId wanted = .ok (after, account)) :
    AccountReady db after account := by
  cases cashAccountId with
  | none => exact ensureDefaultCashAccountInTx_ok ran
  | some id =>
    simp only [paymentAccount, eq_ok, lockCashAccount_eq_ok, Prod.mk.injEq] at ran
    obtain ⟨_, ⟨found, safe⟩, rfl, rfl⟩ := ran
    exact .there (account_some found).1 safe

inductive Linking (db : JournalDb) (input : PostJournalInTxInput) : Option Uuid → JournalDb → Uuid → Prop
  | linked {journalId : Uuid} : Linking db input (some journalId) db journalId
  | posted {validated after posted}
      (accepted : validateBalancedJournalLines input.lines = .ok validated)
      (posting : Posting db input validated after posted) : Linking db input none after posted.journal.id

def CashAccountEntity.moved (account : CashAccountEntity) (direction : Direction) (amount : Int) : CashAccountEntity :=
  { account with currentBalance := direction.apply account.currentBalance amount }

theorem moveBalance_ok {db after account direction amount} (ran : moveBalance db account direction amount = .ok after) :
    after = db.saveAccount (account.moved direction amount) ∧ 0 < amount ∧ IsSafe amount := by
  simp only [moveBalance, eq_ok, parseVnd_eq_ok] at ran
  obtain ⟨current, ⟨balance, _⟩, moved, ⟨given, safe, sign, zero⟩, rfl⟩ := ran
  cases balance
  cases given
  simp only [Bool.false_eq_true, or_false] at sign zero
  exact ⟨rfl, by omega, safe⟩

inductive DraftPosted (db : FinanceDb) (entry : CashbookEntryEntity) (cleanKey : Option String) (linked : Option Uuid) :
    FinanceDb → CashbookEntryEntity → Prop
  | intro {account ledger journalId}
      (status : entry.status = .draft ∨ entry.status = .approved)
      (found : db.cash.account entry.cashAccountId = some account) (active : account.status = .active)
      (safe : IsSafe account.currentBalance) (amount : 0 < entry.amount ∧ IsSafe entry.amount)
      (linking : Linking db.ledger (voucherJournal entry account.glAccountCode (categoryGl db.cash entry) cleanKey) linked
        ledger journalId)
      (unique : db.cash.Unique (entry.post journalId cleanKey)) :
      DraftPosted db entry cleanKey linked
        { db with
          ledger
          cash := { db.cash with
            accounts := save (·.id) (account.moved entry.direction entry.amount) db.cash.accounts
            entries := save (·.id) (entry.post journalId cleanKey) db.cash.entries } }
        (entry.post journalId cleanKey)

theorem voucherJournalId_ok {db after account}
    (executed : voucherJournalId db drawn entry account cleanKey linked = .ok (after, journalId)) :
    ∃ ledger, after = { db with ledger } ∧
      Linking db.ledger (voucherJournal entry account.glAccountCode (categoryGl db.cash entry) cleanKey) linked ledger
        journalId := by
  cases linked with
  | some given =>
    cases executed
    exact ⟨db.ledger, rfl, .linked⟩
  | none =>
    simp only [voucherJournalId, eq_ok, Prod.mk.injEq] at executed
    obtain ⟨⟨ledger, posted⟩, ran, rfl, rfl⟩ := executed
    obtain ⟨validated, accepted, posting⟩ := postJournalInTx_ok ran
    exact ⟨ledger, rfl, .posted accepted posting⟩

theorem postDraftInTx_ok {db after} (ran : postDraftInTx db draws entry cleanKey linked = .ok (after, posted)) :
    DraftPosted db entry cleanKey linked after posted := by
  simp only [postDraftInTx, saveEntry, eq_ok, lockCashAccount_eq_ok, Prod.mk.injEq] at ran
  obtain ⟨_, status, account, ⟨found, safe⟩, _, active, ⟨middle, journalId⟩, made, cash, moved, _, ⟨_, checked, rfl⟩,
    rfl, rfl⟩ := ran
  obtain ⟨ledger, rfl, linking⟩ := voucherJournalId_ok made
  obtain ⟨rfl, amount⟩ := moveBalance_ok moved
  exact .intro status found active safe amount linking (checkEntry_ok checked)

/-- What posting an entry does: nothing when it is posted under the key already. -/
inductive EntryPosted (db : FinanceDb) (entry : CashbookEntryEntity) (cleanKey : Option String) (linked : Option Uuid) :
    FinanceDb → CashbookEntryEntity → Prop
  | already (status : entry.status = .posted) : EntryPosted db entry cleanKey linked db entry
  | now {after posted} (draft : DraftPosted db entry cleanKey linked after posted) :
      EntryPosted db entry cleanKey linked after posted

theorem postEntryInTx_ok {db after entryId idempotencyKey}
    (executed : postEntryInTx db draws entryId idempotencyKey linked = .ok (after, posted)) :
    ∃ entry, db.cash.entry entryId = some entry ∧ EntryPosted db entry (optionalKey idempotencyKey) linked after posted := by
  simp only [postEntryInTx, eq_ok] at executed
  obtain ⟨entry, found, ran⟩ := executed
  refine ⟨entry, found, ?_⟩
  split at ran
  · next status =>
    simp only [eq_ok, Prod.mk.injEq] at ran
    obtain ⟨_, _, rfl, rfl⟩ := ran
    exact .already status
  · exact .now (postDraftInTx_ok ran)

structure Drafted (db : CashDb) (input : VoucherInput) (after : CashDb) (entry : CashbookEntryEntity) : Prop where
  accounts : after.accounts = db.accounts
  entries : after.entries = db.entries ++ [entry]
  fresh : ∀ other ∈ db.entries, other.id ≠ entry.id
  unique : db.Unique entry
  account : ∃ account, db.account input.cashAccountId = some account ∧ account.status = .active
  request : ∃ code account category, entry = input.entry entry.id code account category ∧ account.id = input.cashAccountId

theorem insertEntry_ok {db after : CashDb} (executed : db.insertEntry entry = .ok after) :
    db.Unique entry ∧ after.accounts = db.accounts ∧ after.entries = db.entries ++ [entry] ∧
      after.categories = db.categories := by
  simp only [insertEntry, eq_ok] at executed
  obtain ⟨_, checked, ran⟩ := executed
  have unique := checkEntry_ok checked
  cases direction : entry.direction with
  | receipt =>
    rw [direction] at ran
    cases ran
    exact ⟨unique, rfl, rfl, rfl⟩
  | expense =>
    rw [direction] at ran
    cases ran
    exact ⟨unique, rfl, rfl, rfl⟩

theorem createVoucherInTx_ok {db after}
    (ran : createVoucherInTx db draws input = .ok (after, entry)) : Drafted db input after entry := by
  simp only [createVoucherInTx, ensureDefaultCategoriesInTx, eq_ok, lockCashAccount_eq_ok, Prod.mk.injEq] at ran
  obtain ⟨account, ⟨found, _⟩, _, active, category, _, _, _, _, _, _, inserted, rfl, rfl⟩ := ran
  obtain ⟨unique, accounts, entries, _⟩ := insertEntry_ok inserted
  exact ⟨accounts, entries, fun other member => Fresh.ne_pick _ draws.entry member, unique, ⟨account, found, active⟩,
    ⟨_, account, category, rfl, (account_some found).2⟩⟩

inductive VoucherMade (db : FinanceDb) (input : VoucherInput) : FinanceDb → CashbookEntryEntity → Prop
  | existing {entry : CashbookEntryEntity} (found : existingVoucher db.cash input = some entry) : VoucherMade db input db entry
  | resumed {existing entry posted after}
      (found : existingVoucher db.cash input = some existing) (read : db.cash.entry existing.id = some entry)
      (done : EntryPosted db entry (optionalKey input.idempotencyKey) input.skipJournalIfLinked after posted) :
      VoucherMade db input after posted
  | drafted {cash entry} (absent : existingVoucher db.cash input = none)
      (auto : input.autoPost = false) (draft : Drafted db.cash input cash entry) : VoucherMade db input { db with cash } entry
  | posted {cash entry posted after}
      (absent : existingVoucher db.cash input = none) (draft : Drafted db.cash input cash entry)
      (done : DraftPosted { db with cash } entry (optionalKey input.idempotencyKey) input.skipJournalIfLinked after posted) :
      VoucherMade db input after posted

theorem Drafted.found {db after} (draft : Drafted db input after entry) : after.entry entry.id = some entry := by
  have absent : db.entries.find? (·.id = entry.id) = none := by
    rw [find?_eq_none]
    intro other member
    rw [decide_eq_true_eq]
    exact draft.fresh other member
  rw [CashDb.entry, draft.entries, find?_append, absent]
  simp

theorem createAndOptionallyPostVoucherInTx_ok {db after}
    (executed : createAndOptionallyPostVoucherInTx db draws input = .ok (after, entry)) : VoucherMade db input after entry := by
  unfold createAndOptionallyPostVoucherInTx at executed
  split at executed
  · next existing found =>
    simp only [replayVoucher, eq_ok] at executed
    obtain ⟨_, _, ran⟩ := executed
    split at ran
    · obtain ⟨entry, read, done⟩ := postEntryInTx_ok ran
      exact .resumed found read done
    · cases ran
      exact .existing found
  · next absent =>
    simp only [eq_ok] at executed
    obtain ⟨⟨cash, draft⟩, made, ran⟩ := executed
    have drafted := createVoucherInTx_ok made
    cases auto : input.autoPost with
    | false =>
      rw [auto] at ran
      cases ran
      exact .drafted absent auto drafted
    | true =>
      rw [auto, if_pos rfl] at ran
      obtain ⟨entry, read, done⟩ := postEntryInTx_ok ran
      cases drafted.found.symm.trans read
      cases done with
      | already status =>
        obtain ⟨_, _, _, same, _⟩ := drafted.request
        rw [same] at status
        cases status
      | now posted => exact .posted absent drafted posted

/-- The account of a payment by its method: none where the method takes none or the one that is named is not there. -/
inductive AccountChosen (db : CashDb) (cashAccountId : Option Uuid) (wanted : Option DefaultAccountType) :
    CashDb → Option CashAccountEntity → Prop
  | unneeded (cashless : wanted = none) : AccountChosen db cashAccountId wanted db none
  | unknown {id} (named : cashAccountId = some id) (absent : db.account id = none) :
      AccountChosen db cashAccountId wanted db none
  | ready {after account} (ready : AccountReady db after account) :
      AccountChosen db cashAccountId wanted after (some account)

theorem namedAccount_ok {db after wanted account}
    (executed : namedAccount db drawn cashAccountId branchId wanted = .ok (after, account)) :
    AccountChosen db cashAccountId (some wanted) after account := by
  cases cashAccountId with
  | none =>
    simp only [namedAccount, eq_ok, Prod.mk.injEq] at executed
    obtain ⟨⟨_, account⟩, ran, rfl, rfl⟩ := executed
    exact .ready (ensureDefaultCashAccountInTx_ok ran)
  | some id =>
    simp only [namedAccount, eq_ok, readCashAccount_eq_ok, Prod.mk.injEq] at executed
    obtain ⟨_, ⟨rfl, safe⟩, rfl, rfl⟩ := executed
    cases found : db.account id with
    | none => exact .unknown rfl found
    | some account => exact .ready (.there (account_some found).1 (safe account found))

theorem methodAccount_ok {db after wanted account}
    (ran : methodAccount db drawn cashAccountId branchId wanted = .ok (after, account)) :
    AccountChosen db cashAccountId wanted after account := by
  cases wanted with
  | none =>
    cases ran
    exact .unneeded rfl
  | some wanted => exact namedAccount_ok ran

/-- The voucher beside a journal: none where there is no account to book it on. -/
inductive VoucherLinked (db : FinanceDb) (voucher : Uuid → VoucherInput) : Option CashAccountEntity → FinanceDb → Option Uuid → Prop
  | unbooked : VoucherLinked db voucher none db none
  | made {account after entry}
      (made : VoucherMade db (voucher account.id) after entry) : VoucherLinked db voucher (some account) after (some entry.id)

theorem linkedVoucher_ok {db after account} {voucher} {entryId}
    (executed : linkedVoucher db draws account voucher = .ok (after, entryId)) :
    VoucherLinked db voucher account after entryId := by
  cases account with
  | none =>
    cases executed
    exact .unbooked
  | some account =>
    simp only [linkedVoucher, eq_ok, Prod.mk.injEq] at executed
    obtain ⟨⟨_, entry⟩, ran, rfl, rfl⟩ := executed
    exact .made (createAndOptionallyPostVoucherInTx_ok ran)

section Frames

variable {db after : FinanceDb} {entry posted : CashbookEntryEntity} {cleanKey : Option String} {linked : Option Uuid}
  {input : VoucherInput}

theorem EntryPosted.credit (done : EntryPosted db entry cleanKey linked after posted) :
    after.credit = db.credit ∧ after.payables = db.payables := by
  cases done with
  | already => exact ⟨rfl, rfl⟩
  | now draft =>
    cases draft
    exact ⟨rfl, rfl⟩

theorem EntryPosted.ledger (done : EntryPosted db entry cleanKey linked after posted) (given : linked ≠ none) :
    after.ledger = db.ledger := by
  cases done with
  | already => rfl
  | now draft =>
    cases draft with
    | intro _ _ _ _ _ linking =>
      cases linking with
      | linked => rfl
      | posted => exact absurd rfl given

theorem VoucherMade.credit (made : VoucherMade db input after entry) : after.credit = db.credit ∧ after.payables = db.payables := by
  cases made with
  | existing => exact ⟨rfl, rfl⟩
  | resumed _ _ done => exact done.credit
  | drafted => exact ⟨rfl, rfl⟩
  | posted _ _ done => exact (EntryPosted.now done).credit

theorem EntryPosted.rest (done : EntryPosted db entry cleanKey linked after posted) :
    after = { db with ledger := after.ledger, cash := after.cash } := by
  cases done with
  | already => rfl
  | now draft =>
    cases draft
    rfl

theorem VoucherMade.rest (made : VoucherMade db input after entry) :
    after = { db with ledger := after.ledger, cash := after.cash } := by
  cases made with
  | existing => rfl
  | resumed _ _ done => exact done.rest
  | drafted => rfl
  | posted _ _ done => exact (EntryPosted.now done).rest

theorem VoucherMade.ledger (made : VoucherMade db input after entry) (given : input.skipJournalIfLinked ≠ none) :
    after.ledger = db.ledger := by
  cases made with
  | existing => rfl
  | resumed _ _ done => exact done.ledger given
  | drafted => rfl
  | posted _ _ done => exact (EntryPosted.now done).ledger given

theorem VoucherLinked.rest {voucher} {account entryId}
    (made : VoucherLinked db voucher account after entryId) (given : ∀ id, (voucher id).skipJournalIfLinked ≠ none) :
    after = { db with cash := after.cash } := by
  cases made with
  | unbooked => rfl
  | made made =>
    have ledger := made.ledger (given _)
    have rest := made.rest
    rwa [ledger] at rest

end Frames

/-- A voucher is booked that was not there, linked to a journal that its caller posted. -/
structure NewVoucher (db : CashDb) (input : VoucherInput) (journalId : Uuid) (entry : CashbookEntryEntity)
    (account : CashAccountEntity) (after : CashDb) : Prop where
  fresh : ∀ other ∈ db.entries, other.id ≠ entry.id
  entries : after.entries = db.entries ++ [entry]
  found : db.account input.cashAccountId = some account
  accounts : after.accounts = save (·.id) (account.moved input.direction input.amount) db.accounts
  positive : 0 < input.amount
  safe : IsSafe input.amount
  balance : IsSafe account.currentBalance
  accountId : entry.cashAccountId = input.cashAccountId
  direction : entry.direction = input.direction
  amount : entry.amount = input.amount
  status : entry.status = .posted
  sourceType : entry.sourceType = input.sourceType
  journal : entry.journalId = some journalId
  key : entry.idempotencyKey = input.idempotencyKey

theorem VoucherMade.new {db after key}
    (made : VoucherMade db input after entry) (keyed : input.idempotencyKey = some key) (named : key ≠ "")
    (absent : ∀ other ∈ db.cash.entries, other.idempotencyKey ≠ some key) (auto : input.autoPost = true)
    (linked : input.skipJournalIfLinked = some journalId) :
    ∃ account, NewVoucher db.cash input journalId entry account after.cash := by
  have none : ∀ existing, existingVoucher db.cash input ≠ some existing := by
    intro existing found
    rw [existingVoucher, keyed, Option.filter_some, if_pos (by simpa using named), Option.bind_some] at found
    exact absent existing (mem_of_find?_eq_some found) (by simpa using find?_some found)
  cases made with
  | existing found => exact absurd found (none _)
  | resumed found => exact absurd found (none _)
  | drafted _ manual =>
    rw [auto] at manual
    cases manual
  | @posted cash draft posted _ _ drafted done =>
    obtain ⟨code, drawer, category, same, drawerId⟩ := drafted.request
    cases done with
    | @intro account ledger booked status found active safe amount linking =>
      have accountId : draft.cashAccountId = input.cashAccountId := by
        rw [same]
        exact drawerId
      have direction : draft.direction = input.direction := by rw [same, VoucherInput.entry]
      have amountIs : draft.amount = input.amount := by rw [same, VoucherInput.entry]
      have draftKey : draft.idempotencyKey = some key := by rw [same, VoucherInput.entry, keyed]
      have journal : booked = journalId := by
        rw [linked] at linking
        cases linking
        rfl
      refine ⟨account, ?_⟩
      constructor
      · exact drafted.fresh
      · show save _ _ cash.entries = _
        rw [drafted.entries]
        exact save_last drafted.fresh rfl
      · rw [accountId, CashDb.account, drafted.accounts] at found
        exact found
      · show save _ _ cash.accounts = _
        rw [drafted.accounts, direction, amountIs]
      · exact amountIs ▸ amount.1
      · exact amountIs ▸ amount.2
      · exact safe
      · exact accountId
      · exact direction
      · exact amountIs
      · rfl
      · show draft.sourceType = _
        rw [same, VoucherInput.entry]
      · rw [journal]
        rfl
      · show (if _ then draft.idempotencyKey else _) = _
        rw [draftKey, keyed, Option.filter_some, if_pos (by simpa using named)]

/-- Every cash account books to one of the two cash codes, as all accounts are created. -/
def CashDb.Codes (db : CashDb) : Prop :=
  ∀ account ∈ db.accounts, account.glAccountCode = cashOnHand ∨ account.glAccountCode = cashAtBank

theorem AccountReady.codes {db after account} (ready : AccountReady db after account)
    (codes : db.Codes) : after.Codes ∧ (account.glAccountCode = cashOnHand ∨ account.glAccountCode = cashAtBank) := by
  cases ready with
  | there member => exact ⟨codes, codes _ member⟩
  | @opened id branchId wanted =>
    have own : (defaultCashAccount id branchId wanted).glAccountCode = cashOnHand ∨
        (defaultCashAccount id branchId wanted).glAccountCode = cashAtBank := by
      cases wanted with
      | cashDrawer => exact .inl rfl
      | bank => exact .inr rfl
    exact ⟨forall_concat codes own, own⟩

theorem EntryPosted.codes {db after}
    (done : EntryPosted db entry cleanKey linked after posted) (codes : db.cash.Codes) : after.cash.Codes := by
  cases done with
  | already => exact codes
  | now draft =>
    cases draft with
    | @intro account _ _ _ found =>
      exact forall_save codes (codes account (account_some found).1)

theorem Drafted.codes {db after} (draft : Drafted db input after entry) (codes : db.Codes) : after.Codes := by
  rw [Codes, draft.accounts]
  exact codes

theorem VoucherMade.codes {db after} (made : VoucherMade db input after entry) (codes : db.cash.Codes) : after.cash.Codes := by
  cases made with
  | existing => exact codes
  | resumed _ _ done => exact done.codes codes
  | drafted _ _ draft => exact draft.codes codes
  | posted _ draft done => exact (EntryPosted.now done).codes (draft.codes codes)

end Finance
