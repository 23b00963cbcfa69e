import RetailApi.Proofs.JournalRequests
import RetailApi.Proofs.RefundOperations

/-! Whether a refund that was accepted can be paid out: it is accepted against all settlements of
its order, and charged to the one it names. -/

namespace Finance

open Transaction JsString JsNumber GlAccountCodes List Option CashDb

theorem checkEntry_new {db : CashDb} {entry} {key} (keyed : entry.idempotencyKey = some key)
    (plain : entry.reversalOfEntryId = none)
    (absent : ∀ other ∈ db.entries, other.id ≠ entry.id → other.idempotencyKey ≠ some key) : db.checkEntry entry = .ok () := by
  simp only [checkEntry, eq_ok]
  refine ⟨(), fun other member apart => .inr ?_, fun _ _ _ => .inl plain⟩
  rw [keyed]
  exact absent other member apart

/-- A voucher beside a journal goes through on an active account, under a key that is not used yet. -/
theorem postVoucher_new {db : FinanceDb} (draws : Draws) {input} {key journalId account category}
    (keyed : input.idempotencyKey = some key) (named : key ≠ "")
    (absent : ∀ entry ∈ db.cash.entries, entry.idempotencyKey ≠ some key)
    (found : db.cash.account input.cashAccountId = some account) (active : account.status = .active)
    (safe : IsSafe account.currentBalance)
    (chosen : voucherCategory (ensureDefaultCategoriesInTx db.cash draws.category) input = some category)
    (direction : category.direction = input.direction)
    (described : input.direction = .receipt ∨ input.description.any fun text => trimmed text ≠ "")
    (linked : input.skipJournalIfLinked = some journalId) (positive : 0 < input.amount) (amount : IsSafe input.amount)
    (auto : input.autoPost = true) : ∃ after entry, createAndOptionallyPostVoucherInTx db draws input = .ok (after, entry) := by
  have new : existingVoucher db.cash input = none := by
    rw [existingVoucher, keyed, filter_some, if_pos (by simpa using named), bind_some, find?_eq_none]
    intro entry member
    rw [decide_eq_true_eq]
    exact absent entry member
  have locked : lockCashAccount db.cash input.cashAccountId = .ok account := lockCashAccount_eq_ok.mpr ⟨found, safe⟩
  generalize drafted : input.entry (newId (db.cash.entries.map (·.id)) draws.entry)
    ((ensureDefaultCategoriesInTx db.cash draws.category).nextCode input.direction) account category = draft
  have draftKey : draft.idempotencyKey = some key := by rw [← drafted]; exact keyed
  have plain : draft.reversalOfEntryId = none := by rw [← drafted]; rfl
  obtain ⟨cash, inserted⟩ : ∃ cash, (ensureDefaultCategoriesInTx db.cash draws.category).insertEntry draft = .ok cash := by
    have checked : (ensureDefaultCategoriesInTx db.cash draws.category).checkEntry draft = .ok () :=
      checkEntry_new draftKey plain fun other member _ => absent other member
    simp only [CashDb.insertEntry, checked]
    cases draft.direction <;> exact ⟨_, rfl⟩
  have created : createVoucherInTx db.cash draws input = .ok (cash, draft) := by
    simp only [createVoucherInTx, locked, eq_ok]
    refine ⟨account, rfl, (), active, category, chosen, (), direction, (), described, cash, ?_, ?_⟩
    · exact drafted ▸ inserted
    · exact drafted ▸ rfl
  have is := createVoucherInTx_ok created
  have others : ∀ other ∈ cash.entries, other.id ≠ draft.id → other.idempotencyKey ≠ some key := by
    intro other member apart
    rw [is.entries] at member
    rcases mem_append.mp member with old | last
    · exact absent other old
    · exact absurd (congrArg _ (mem_singleton.mp last)) apart
  have postedKey : (draft.post journalId (optionalKey input.idempotencyKey)).idempotencyKey = some key := by
    show (if _ then draft.idempotencyKey else _) = _
    rw [draftKey, filter_some, if_pos (by simpa using named)]
  have checked : cash.checkEntry (draft.post journalId (optionalKey input.idempotencyKey)) = .ok () :=
    checkEntry_new postedKey plain others
  have stands : lockCashAccount cash draft.cashAccountId = .ok account := by
    have drawer : draft.cashAccountId = input.cashAccountId := by
      rw [← drafted]
      exact (CashDb.account_some found).2
    rw [drawer, lockCashAccount_eq_ok, CashDb.account, is.accounts]
    exact ⟨found, safe⟩
  have draftAmount : draft.amount = input.amount := by rw [← drafted]; rfl
  have status : draft.status = .draft := by rw [← drafted]; rfl
  have posts : ∃ after entry, postDraftInTx { db with cash } draws draft (optionalKey input.idempotencyKey) (some journalId) =
      .ok (after, entry) := by
    have moved : moveBalance cash account draft.direction draft.amount =
        .ok (cash.saveAccount (account.moved draft.direction draft.amount)) := by
      simp only [moveBalance, eq_ok, parseVnd_eq_ok, draftAmount]
      exact ⟨_, ⟨rfl, safe, .inr trivial, .inr trivial⟩, _, ⟨rfl, amount, .inl positive.le, .inl positive.ne'⟩, rfl⟩
    simp only [postDraftInTx, voucherJournalId, CashDb.saveEntry, eq_ok]
    exact ⟨_, _, (), .inl status, account, stands, (), active, _, rfl, _, moved, _, ⟨(), checked, rfl⟩, rfl⟩
  obtain ⟨after, entry, posts⟩ := posts
  refine ⟨after, entry, ?_⟩
  have undone : draft.status ≠ .posted := by simp [status]
  simp only [createAndOptionallyPostVoucherInTx, new, created, auto, linked, eq_ok]
  refine ⟨_, rfl, ?_⟩
  simp only [↓reduceIte, postEntryInTx, is.found, eq_ok]
  exact ⟨draft, rfl, (if_neg undone).trans posts⟩

theorem paymentMethod_ready {cash} (drawn : Uuid) (cashAccountId branchId : Option Uuid) (wanted : Option DefaultAccountType)
    (safe : ∀ account ∈ cash.accounts, IsSafe account.currentBalance) :
    ∃ ready account, methodAccount cash drawn cashAccountId branchId wanted = .ok (ready, account) := by
  cases wanted with
  | none => exact ⟨_, _, rfl⟩
  | some wanted =>
    cases cashAccountId with
    | some id =>
      simp only [methodAccount, namedAccount, eq_ok, readCashAccount_eq_ok]
      exact ⟨_, _, _, ⟨rfl, fun account found => safe account (account_some found).1⟩, rfl⟩
    | none =>
      have ensured : ∃ ready account, ensureDefaultCashAccountInTx cash drawn branchId wanted = .ok (ready, account) := by
        cases usual : cash.usualAccount branchId wanted with
        | some account =>
          have read : readCashAccount (some account) = .ok (some account) :=
            readCashAccount_eq_ok.mpr ⟨rfl, fun other same => safe other (some.inj same ▸ usualAccount_mem usual)⟩
          rw [ensureDefaultCashAccountInTx, usual, read]
          exact ⟨_, _, rfl⟩
        | none =>
          have zero : IsSafe (defaultCashAccount (newId (cash.accounts.map (·.id)) drawn) branchId wanted).currentBalance := by
            constructor <;> simp [defaultCashAccount, maxSafeInteger]
          simp only [ensureDefaultCashAccountInTx, usual, eq_ok, readCashAccount_eq_ok]
          generalize defaultCashAccount (newId (cash.accounts.map (·.id)) drawn) branchId wanted = fresh at zero ⊢
          obtain ⟨there, each⟩ : ((cash.insertAccount fresh).accounts.find? (·.code = fresh.code)).isSome ∧
              ∀ account ∈ (cash.insertAccount fresh).accounts, IsSafe account.currentBalance := by
            rw [find?_isSome, insertAccount]
            split
            · next taken => exact ⟨any_eq_true.mp taken, safe⟩
            · exact ⟨⟨fresh, by simp⟩, forall_concat safe zero⟩
          obtain ⟨found, same⟩ := isSome_iff_exists.mp there
          refine ⟨cash.insertAccount fresh, found, none, ⟨rfl, by simp⟩, ?_⟩
          simp only [eq_ok, readCashAccount_eq_ok]
          exact ⟨_, ⟨rfl, fun account own => each account (mem_of_find?_eq_some own)⟩, found, same, rfl⟩
      obtain ⟨ready, account, ensured⟩ := ensured
      simp only [methodAccount, namedAccount, eq_ok]
      exact ⟨_, _, _, ensured, rfl⟩

/-- Money can be paid out for a refund: its accounts are open, and its journal and voucher are new. -/
structure PaysOut (db : FinanceDb) (draws : Draws) (refund : RefundOperationEntity) : Prop where
  journals : ∀ journal ∈ db.ledger.journals, journal.source ≠ ("REFUND_OPERATION", toString refund.id) ∧
    journal.idempotencyKey ≠ toLowerCase (trimmed s!"rf-jnl:{refund.id}")
  ledger : ∀ code ∈ [salesReturnRefund, accountsReceivable, cashOnHand, cashAtBank], db.ledger.Accepts code
  distinct : (db.cash.accounts.map (·.id)).Nodup
  accounts : ∀ account ∈ db.cash.accounts, account.status = .active ∧ IsSafe account.currentBalance
  codes : db.cash.Codes
  vouchers : ∀ entry ∈ db.cash.entries, entry.idempotencyKey ≠ some s!"rf-cb:{refund.id}"
  category : ((ensureDefaultCategoriesInTx db.cash draws.category).categoryByCode "CUSTOMER_REFUND").any (·.direction = .expense)

theorem refund_code {code} (member : code ∈ [salesReturnRefund, accountsReceivable, cashOnHand, cashAtBank]) :
    toUpperCase (trimmed code) = code ∧ code ≠ "" := by
  have folded : ∀ code ∈ [salesReturnRefund, accountsReceivable, cashOnHand, cashAtBank],
      toUpperCase (trimmed code) = code ∧ code ≠ "" := by decide +kernel
  exact folded code member

variable {draws : Draws} {refund filed : RefundOperationEntity}

theorem refundJournal_posts {db creditGl}
    (pays : PaysOut db draws refund) (positive : 0 < refund.amount) (safe : IsSafe refund.amount)
    (credit : creditGl ∈ [salesReturnRefund, accountsReceivable, cashOnHand, cashAtBank]) :
    ∃ ledger posted, postJournalInTx db.ledger draws.journal (refundJournal refund creditGl) = .ok (ledger, posted) := by
  have debit : salesReturnRefund ∈ [salesReturnRefund, accountsReceivable, cashOnHand, cashAtBank] := .head _
  obtain ⟨validated, accepted, codes⟩ := validate_pair salesReturnRefund creditGl positive safe
    (by rw [(refund_code debit).1]; exact (refund_code debit).2) (by rw [(refund_code credit).1]; exact (refund_code credit).2)
  refine postJournalInTx_new draws.journal accepted ?_ rfl ?_
  · rw [JournalDb.existing, find?_eq_none]
    intro journal member
    rw [decide_eq_true_eq, not_or]
    have source : (refundJournal refund creditGl).source = ("REFUND_OPERATION", toString refund.id) := by
      rw [PostJournalInTxInput.source, Prod.mk.injEq]
      exact ⟨show toUpperCase (trimmed "REFUND_OPERATION") = _ by decide +kernel, trimmed_toString refund.id⟩
    rw [source]
    exact pays.journals journal member
  · intro line member
    have listed := mem_map_of_mem (f := (·.accountCode)) member
    rw [codes, (refund_code debit).1, (refund_code credit).1] at listed
    rcases mem_pair.mp listed with own | own
    · rw [own]
      exact pays.ledger _ debit
    · rw [own]
      exact pays.ledger _ credit

theorem refundVoucher_described (refund : RefundOperationEntity) (journalId accountId : Uuid) :
    (refundVoucher refund journalId accountId).description.any fun text => trimmed text ≠ "" := by
  rw [refundVoucher, any_some, decide_eq_true_eq]
  refine trimmed_ne_empty (show 'C' ∈ _ from ?_) (by decide)
  rw [String.toList_append, String.toList_append, String.toList_append]
  exact mem_append_left _ (mem_append_left _ (mem_append_left _ (by decide)))

theorem finalizeRefundCompletionInTx_pays {db}
    (options : RefundCompletionOptions) {rows} (pays : PaysOut db draws refund) (positive : 0 < refund.amount)
    (safe : IsSafe refund.amount) (charged : chargeSettlements db.settlement refund = .ok rows) :
    ∃ after done, finalizeRefundCompletionInTx db draws refund options = .ok (after, done) := by
  obtain ⟨cash, account, chosen⟩ := paymentMethod_ready draws.account (options.cashAccountId <|> refund.cashAccountId)
    refund.branchId refund.method.accountType fun account member => (pays.accounts account member).2
  have choice := methodAccount_ok chosen
  have credit : (account.map (·.glAccountCode)).getD refund.method.creditGl ∈
      [salesReturnRefund, accountsReceivable, cashOnHand, cashAtBank] := by
    cases choice with
    | unneeded => cases refund.method <;> decide
    | unknown => cases refund.method <;> decide
    | ready is =>
      rcases (is.codes pays.codes).2 with code | code
      · rw [map_some, code]
        exact show cashOnHand ∈ _ by decide
      · rw [map_some, code]
        exact show cashAtBank ∈ _ by decide
  obtain ⟨ledger, posted, ran⟩ := refundJournal_posts pays positive safe credit
  have linked : ∃ booked voucherId, linkedVoucher { db with ledger, cash } draws account
      (refundVoucher refund posted.journal.id) = .ok (booked, voucherId) := by
    cases choice with
    | unneeded => exact ⟨_, _, rfl⟩
    | unknown => exact ⟨_, _, rfl⟩
    | @ready _ account is =>
      obtain ⟨found, entries⟩ := is.found pays.distinct
      have healthy : account.status = .active ∧ IsSafe account.currentBalance := by
        cases is with
        | there member => exact pays.accounts account member
        | opened => exact ⟨rfl, by constructor <;> simp [defaultCashAccount, maxSafeInteger]⟩
      have categories : cash.categories = db.cash.categories := by cases is <;> rfl
      obtain ⟨category, usual, expense⟩ := (any_eq_true _ _).mp pays.category
      have direction := of_decide_eq_true expense
      have chosen : voucherCategory (ensureDefaultCategoriesInTx cash draws.category)
          (refundVoucher refund posted.journal.id account.id) = some category := by
        have code : toUpperCase (trimmed "CUSTOMER_REFUND") = "CUSTOMER_REFUND" := by decide +kernel
        have same : voucherCategory (ensureDefaultCategoriesInTx cash draws.category)
          (refundVoucher refund posted.journal.id account.id) = (ensureDefaultCategoriesInTx cash draws.category).categoryByCode
            (toUpperCase (trimmed "CUSTOMER_REFUND")) := rfl
        rw [same, code]
        unfold ensureDefaultCategoriesInTx categoryByCode at usual ⊢
        rw [categories]
        exact usual
      have described := refundVoucher_described refund posted.journal.id account.id
      have named : s!"rf-cb:{refund.id}" ≠ "" := by
        rw [Ne, String.append_eq_empty_iff]
        exact fun both => absurd both.1 (by decide)
      obtain ⟨booked, entry, made⟩ : ∃ booked entry, createAndOptionallyPostVoucherInTx { db with ledger, cash } draws
          (refundVoucher refund posted.journal.id account.id) = .ok (booked, entry) :=
        postVoucher_new draws rfl named (fun entry member => pays.vouchers entry (entries ▸ member)) found healthy.1 healthy.2
          chosen direction (.inr described) rfl positive safe rfl
      simp only [linkedVoucher, eq_ok]
      exact ⟨_, _, _, made, rfl⟩
  obtain ⟨booked, voucherId, linked⟩ := linked
  simp only [finalizeRefundCompletionInTx, charged, chosen, eq_ok]
  exact ⟨_, _, rows, rfl, _, rfl, _, ran, _, linked, rfl⟩

/-- The settlements of an order as their table keeps them. -/
structure SettlementDb.Stored (db : SettlementDb) : Prop where
  distinct : (db.settlements.map (·.id)).Nodup
  covered : db.Covered
  safe : ∀ settlement ∈ db.settlements, IsSafe settlement.settledAmount
  unique : ∀ settlement ∈ db.settlements, settlement.externalTxId = none ∨ ∀ other ∈ db.settlements, other.id ≠ settlement.id →
    (other.provider, other.externalTxId) ≠ (settlement.provider, settlement.externalTxId)

def PaymentSettlementEntity.Leaves (settlement : PaymentSettlementEntity) (amount : Int) : Prop :=
  settlement.refundedAmount + amount ≤ settlement.settledAmount ∧ settlement.refundedAmount + amount ≤ settlement.confirmedAmount

instance (settlement : PaymentSettlementEntity) (amount : Int) : Decidable (settlement.Leaves amount) :=
  inferInstanceAs (Decidable (_ ∧ _))

section Charging

variable {db : SettlementDb} {refund : RefundOperationEntity} {target : PaymentSettlementEntity}

theorem lock_target (stored : db.Stored) (member : target ∈ db.settlements) (order : target.orderId = refund.orderId)
    (named : refund.settlementId = some target.id) :
    lockOrderSettlementsInTx db refund.orderId refund.settlementId = .ok [target] := by
  have only : (db.settlements.filter fun settlement => decide (settlement.orderId = refund.orderId) &&
      (some target.id).all fun id => decide (settlement.id = id)) = [target] := by
    apply Rows.filter_only (Nodup.of_map _ stored.distinct) member
    · simp [order]
    · intro other listed chosen
      simp only [all_some, Bool.and_eq_true, decide_eq_true_eq] at chosen
      exact Rows.eq_of_key stored.distinct listed member chosen.2
  rw [lockOrderSettlementsInTx, named, only]
  rfl

theorem saveSettlement_raised (stored : db.Stored) (member : target ∈ db.settlements) (refunded : Int) :
    (∃ rows, db.saveSettlement { target with refundedAmount := refunded } = .ok rows) ↔ refunded ≤ target.confirmedAmount := by
  simp only [SettlementDb.saveSettlement, eq_ok]
  constructor
  · rintro ⟨_, _, _, _, fits, _⟩
    exact fits
  · intro fits
    exact ⟨_, (), stored.unique target member, (), fits, rfl⟩

theorem sumVnd_single {field amount total} (safe : IsSafe amount) :
    sumVnd field [amount] = .ok total ↔ 0 ≤ amount ∧ total = amount := by
  constructor
  · intro ran
    obtain ⟨each, rfl⟩ := sumVnd_ok ran
    refine ⟨each amount (.head _), ?_⟩
    rw [foldl_cons, foldl_nil, add, Int.zero_add, round_of_safe safe]
  · rintro ⟨nonneg, rfl⟩
    have read : parseVnd total { allowZero := true, field } = .ok total := parseVnd_eq_ok.mpr ⟨rfl, safe, .inl nonneg, .inr rfl⟩
    show addVnd field 0 total >>= pure = _
    rw [addVnd, read]
    show Except.ok (JsNumber.round (0 + total)) = _
    rw [Int.zero_add, round_of_safe safe]

theorem safe_of_between {part whole} (least : 0 ≤ part) (most : part ≤ whole) (safe : IsSafe whole) : IsSafe part := by
  unfold IsSafe maxSafeInteger at *
  omega

theorem chargeSettlement_fits {amount} (stored : db.Stored) (member : target ∈ db.settlements) (positive : 0 < amount)
    (fits : amount ≤ target.settledAmount - target.refundedAmount) :
    chargeSettlement { rows := db, remaining := amount } target = (fun rows => { rows, remaining := 0 }) <$>
      db.saveSettlement { target with refundedAmount := target.refundedAmount + amount } := by
  obtain ⟨least, most⟩ := stored.covered target member
  have settledSafe := stored.safe target member
  have refundedSafe := safe_of_between least most settledSafe
  have settled : parseVnd target.settledAmount { allowZero := true, field := "settledAmount" } = .ok target.settledAmount :=
    parseVnd_eq_ok.mpr ⟨rfl, settledSafe, .inl (by omega), .inr rfl⟩
  have refunded : parseVnd target.refundedAmount { allowZero := true, field := "refundedAmount" } = .ok target.refundedAmount :=
    parseVnd_eq_ok.mpr ⟨rfl, refundedSafe, .inl least, .inr rfl⟩
  rw [chargeSettlement, if_neg (show ¬amount ≤ 0 by omega), settled, refunded]
  show (if target.settledAmount - target.refundedAmount ≤ 0 then _ else _) = _
  rw [if_neg (by omega), if_pos fits, Int.sub_self]
  cases db.saveSettlement { target with refundedAmount := target.refundedAmount + amount } <;> rfl

/-- A refund of one settlement is charged exactly when the settlement has its amount left. -/
theorem chargeSettlements_iff (stored : db.Stored) (member : target ∈ db.settlements) (order : target.orderId = refund.orderId)
    (named : refund.settlementId = some target.id) (positive : 0 < refund.amount) (safe : IsSafe refund.amount) :
    (∃ rows, chargeSettlements db refund = .ok rows) ↔ target.Leaves refund.amount := by
  obtain ⟨least, most⟩ := stored.covered target member
  have settledSafe := stored.safe target member
  have refundedSafe := safe_of_between least most settledSafe
  simp only [chargeSettlements, eq_ok]
  constructor
  · rintro ⟨_, _, locked, amount, amountIs, paid, paidSum, refunded, refundedSum, _, valid, progress, looped, rfl⟩
    cases (lock_target stored member order named).symm.trans locked
    cases (parseVnd_eq_ok.mp amountIs).1
    obtain ⟨_, rfl⟩ := (sumVnd_single settledSafe).mp paidSum
    obtain ⟨_, rfl⟩ := (sumVnd_single refundedSafe).mp refundedSum
    have fits := (validateRefundAllocation_ok valid).2.2.2.2
    rw [List.foldlM_cons, bind_eq_ok, chargeSettlement_fits stored member positive fits] at looped
    obtain ⟨_, charged, _⟩ := looped
    obtain ⟨rows, saved, _⟩ := map_eq_ok.mp charged
    have confirmed := (saveSettlement_raised stored member _).mp ⟨rows, saved⟩
    exact ⟨by simp only at fits; omega, confirmed⟩
  · rintro ⟨settled, confirmed⟩
    have fits : refund.amount ≤ target.settledAmount - target.refundedAmount := by omega
    obtain ⟨rows, saved⟩ := (saveSettlement_raised stored member _).mpr confirmed
    have valid : ∃ result, validateRefundAllocation ⟨target.settledAmount, target.refundedAmount, refund.amount⟩ =
        .ok result := by
      simp only [validateRefundAllocation, eq_ok, parseVnd_eq_ok]
      exact ⟨_, _, ⟨rfl, settledSafe, .inl (by omega), .inl (by omega)⟩, _, ⟨rfl, refundedSafe, .inl least, .inr trivial⟩, _,
        ⟨rfl, safe, .inl positive.le, .inl positive.ne'⟩, (), by rw [if_pos (by omega)]; exact fits, rfl⟩
    obtain ⟨result, valid⟩ := valid
    refine ⟨rows, _, lock_target stored member order named, _,
      parseVnd_eq_ok.mpr ⟨rfl, safe, .inl positive.le, .inl positive.ne'⟩, _, (sumVnd_single settledSafe).mpr ⟨by omega, rfl⟩, _,
      (sumVnd_single refundedSafe).mpr ⟨least, rfl⟩, result, valid, { rows, remaining := 0 }, ?_, rfl⟩
    rw [List.foldlM_cons, bind_eq_ok, chargeSettlement_fits stored member positive fits]
    exact ⟨_, map_eq_ok.mpr ⟨rows, saved, rfl⟩, rfl⟩

end Charging

/-- The settlement a refund of an order is booked under: the one that is named, or the oldest. -/
def SettlementDb.target (db : SettlementDb) (dto : CreateRefundDto) : Option PaymentSettlementEntity :=
  db.settlements.find? fun settlement => settlement.orderId = dto.orderId && dto.settlementId.all (settlement.id = ·)

structure FiledFor (db : SettlementDb) (dto : CreateRefundDto) (target : PaymentSettlementEntity) (refund : RefundOperationEntity)
    (after : SettlementDb) : Prop where
  found : db.target dto = some target
  order : refund.orderId = dto.orderId
  named : refund.settlementId = some target.id
  amount : refund.amount = dto.amount
  positive : 0 < dto.amount
  safe : IsSafe dto.amount
  settlements : after.settlements = db.settlements

theorem createRefundInTx_filed {db after header} {dto} (manual : dto.autoExecute = false)
    (accepted : createRefundInTx db draws header dto = .ok (after, { refund := filed, replayed := false })) :
    ∃ target, FiledFor db.settlement dto target filed after.settlement := by
  simp only [createRefundInTx, eq_ok, parseVnd_eq_ok] at accepted
  obtain ⟨amount, ⟨given, safe, sign, zero⟩, ran⟩ := accepted
  cases given
  simp only [Bool.false_eq_true, or_false] at sign zero
  split at ran
  · simp only [replayRefund, eq_ok, Prod.mk.injEq] at ran
    obtain ⟨_, ⟨_, _, rfl⟩, _, same⟩ := ran
    cases same
  · simp only [autoExecuteRefund, manual, eq_ok, Prod.mk.injEq] at ran
    obtain ⟨⟨rows, refund⟩, filing, ⟨_, _⟩, same, rfl, own⟩ := ran
    obtain ⟨rfl, rfl⟩ := same
    cases own
    simp only [fileRefund, lockOrderSettlementsInTx, eq_ok, Prod.mk.injEq] at filing
    obtain ⟨settlements, ⟨_, listed, rfl⟩, _, _, _, _, _, _, _, _, rfl, rfl⟩ := filing
    have head : (db.settlement.settlements.filter fun settlement => decide (settlement.orderId = dto.orderId) &&
        dto.settlementId.all fun id => decide (settlement.id = id)).head? = db.settlement.target dto := head?_filter
    obtain ⟨target, found⟩ := isSome_iff_exists.mp (isSome_head?.mpr listed)
    rw [head] at found
    refine ⟨target, found, rfl, ?_, rfl, by omega, safe, rfl⟩
    rw [head, found]
    rfl

/-- Executing a refund completes it and charges the settlements of its order with exactly its amount. -/
def PaidExactly (db : FinanceDb) (draws : Draws) (refundId : Uuid) (dto : ExecuteRefundDto) (orderId : Uuid) (amount : Int) : Prop :=
  ∃ after done, executeRefundInTx db draws refundId dto = .ok (after, done) ∧ done.status = .completed ∧
    ∀ other, after.settlement.refundedOf other = db.settlement.refundedOf other + if other = orderId then amount else 0

/-- A refund that was accepted, and is waiting while its order's settlements stay as they were, is paid out exactly when the
settlement it is booked under has the whole amount left. -/
theorem accepted_refund_paid_iff {db created later : FinanceDb} {draws execution : Draws} {header : Option String}
    {dto : CreateRefundDto} {execute : ExecuteRefundDto} {filed held : RefundOperationEntity} (manual : dto.autoExecute = false)
    (accepted : createRefundInTx db draws header dto = .ok (created, { refund := filed, replayed := false }))
    (untouched : later.settlement.settlements = created.settlement.settlements)
    (waiting : later.settlement.refund filed.id = some held) (status : held.status = .requested ∨ held.status = .approved)
    (same : held.orderId = filed.orderId ∧ held.settlementId = filed.settlementId ∧ held.amount = filed.amount)
    (stored : later.settlement.Stored) (pays : PaysOut later execution held) (answered : execute.simulateProviderTimeout = false) :
    PaidExactly later execution filed.id execute dto.orderId dto.amount ↔
      ∃ target ∈ db.settlement.target dto, target.Leaves dto.amount := by
  obtain ⟨target, is⟩ := createRefundInTx_filed manual accepted
  obtain ⟨order, named, amount⟩ := same
  rw [is.order] at order
  rw [is.named] at named
  rw [is.amount] at amount
  have member : target ∈ later.settlement.settlements := by
    rw [untouched, is.settlements]
    exact mem_of_find?_eq_some is.found
  have own : target.orderId = held.orderId := by
    have chosen := find?_some is.found
    rw [Bool.and_eq_true, decide_eq_true_eq] at chosen
    rw [order, chosen.1]
  have charge := chargeSettlements_iff stored member own named (amount ▸ is.positive) (amount ▸ is.safe)
  rw [amount] at charge
  have run : executeRefundInTx later execution filed.id execute =
      finalizeRefundCompletionInTx later execution held ⟨execute.cashAccountId, execute.externalRefundRef⟩ := by
    have locked : lockRefund later.settlement filed.id = .ok held := required_eq_ok.mpr waiting
    have open_ : held.status ≠ .completed ∧ held.status ≠ .failed ∧ held.status ≠ .rejected := by
      rcases status with status | status <;> rw [status] <;> decide
    rw [executeRefundInTx, locked]
    show (if held.status = .completed then _ else _) = _
    rw [if_neg open_.1, payOutRefund, ensure, if_pos open_.2, answered]
    rfl
  constructor
  · rintro ⟨after, done, executed, _⟩
    rw [run] at executed
    cases finalizeRefundCompletionInTx_ok executed with
    | intro charged => exact ⟨target, is.found, charge.mp ⟨_, charged⟩⟩
  · rintro ⟨other, found, leaves⟩
    cases is.found.symm.trans found
    obtain ⟨rows, charged⟩ := charge.mpr leaves
    obtain ⟨after, done, executed⟩ := finalizeRefundCompletionInTx_pays ⟨execute.cashAccountId, execute.externalRefundRef⟩ pays
      (amount ▸ is.positive) (amount ▸ is.safe) charged
    refine ⟨after, done, run.trans executed, ?_⟩
    cases finalizeRefundCompletionInTx_ok executed with
    | @intro charges _ _ _ _ _ _ _ _ again =>
      cases charged.symm.trans again
      obtain ⟨charging, _⟩ := chargeSettlements_ok charged stored.distinct stored.covered
      refine ⟨rfl, fun orderId => ?_⟩
      have refunded := charging.refunded orderId
      rw [order, amount] at refunded
      exact refunded

private def settlementOf (place amount : Nat) : PaymentSettlementEntity where
  id := place
  code := s!"STL-{place}"
  orderId := 1
  branchId := none
  shiftId := none
  tenderRef := s!"tender:{place}"
  paymentMethod := .card
  provider := "INTERNAL_POS"
  externalTxId := none
  requestedAmount := amount
  confirmedAmount := amount
  settledAmount := amount
  refundedAmount := 0
  providerStatus := "CONFIRMED"
  settlementStatus := .settled
  cashbookEntryId := none
  journalId := none
  idempotencyKey := s!"stl:{place}"

private def paidTwice : FinanceDb where
  settlement := { settlements := [settlementOf 1 60, settlementOf 2 40] }

private def refundOf (amount : Int) : CreateRefundDto where
  orderId := 1
  method := .customerCredit
  amount := amount

/-- All that the payout of the refund needs, read off what its creation leaves. -/
private def ready (made : FinanceDb × RefundResponse) : Bool :=
  decide (made.2.replayed = false ∧ made.1.settlement.refund made.2.refund.id = some made.2.refund ∧
    made.2.refund.status = .requested ∧ made.1.settlement.settlements = paidTwice.settlement.settlements ∧
    made.1.ledger.journals = [] ∧ made.1.cash.accounts = [] ∧ made.1.cash.entries = [] ∧
    (∀ code ∈ [salesReturnRefund, accountsReceivable, cashOnHand, cashAtBank], made.1.ledger.Accepts code) ∧
    ((ensureDefaultCategoriesInTx made.1.cash 0).categoryByCode "CUSTOMER_REFUND").any (·.direction = .expense))

private theorem ready_holds {created} {replayed}
    (checked : ready (created, ⟨filed, replayed⟩) = true) : replayed = false ∧ filed.status = .requested ∧
      created.settlement.refund filed.id = some filed ∧ created.settlement.Stored ∧ PaysOut created {} filed := by
  obtain ⟨new, waiting, status, settlements, journals, accounts, entries, codes, category⟩ := of_decide_eq_true checked
  refine ⟨new, status, waiting, ⟨?_, ?_, ?_, ?_⟩, ⟨?_, codes, ?_, ?_, ?_, ?_, category⟩⟩
  · rw [settlements]
    decide
  · rw [SettlementDb.Covered, settlements]
    decide
  · rw [settlements]
    decide
  · rw [settlements]
    decide
  · rw [journals]
    exact fun _ member => absurd member not_mem_nil
  · rw [accounts]
    exact nodup_nil
  · rw [accounts]
    exact fun _ member => absurd member not_mem_nil
  · rw [Codes, accounts]
    exact fun _ member => absurd member not_mem_nil
  · rw [entries]
    exact fun _ member => absurd member not_mem_nil

theorem small_refund_paid :
    ∃ created filed, createRefundInTx paidTwice {} (some "rf") (refundOf 50) =
      .ok (created, { refund := filed, replayed := false }) ∧ PaidExactly created {} filed.id {} 1 50 := by
  obtain ⟨⟨created, filed, replayed⟩, accepted, checked⟩ := evaluates (createRefundInTx paidTwice {} (some "rf") (refundOf 50))
    ready (by decide +kernel)
  obtain ⟨rfl, status, waiting, stored, pays⟩ := ready_holds checked
  refine ⟨created, filed, accepted, ?_⟩
  exact (accepted_refund_paid_iff rfl accepted rfl waiting (.inl status) ⟨rfl, rfl, rfl⟩ stored pays rfl).mpr
    ⟨settlementOf 1 60, rfl, by decide⟩

/-- An order that was paid with 60 and 40 has a refund of 100 accepted, which is charged to the 60 alone and refused. -/
theorem whole_refund_stuck : ¬∀ (db created : FinanceDb) (draws : Draws) (header : Option String) (dto : CreateRefundDto)
    (filed : RefundOperationEntity), created.settlement.Stored → PaysOut created draws filed →
    createRefundInTx db draws header dto = .ok (created, { refund := filed, replayed := false }) →
    PaidExactly created draws filed.id {} dto.orderId dto.amount := by
  intro paid
  obtain ⟨⟨created, filed, replayed⟩, accepted, checked⟩ := evaluates (createRefundInTx paidTwice {} (some "rf") (refundOf 100))
    (fun made => ready made && (executeRefundInTx made.1 {} made.2.refund.id {}).toOption.isNone) (by decide +kernel)
  obtain ⟨isReady, refused⟩ := Bool.and_eq_true_iff.mp checked
  obtain ⟨rfl, _, _, stored, pays⟩ := ready_holds isReady
  obtain ⟨_, _, executed, _⟩ := paid paidTwice created {} (some "rf") (refundOf 100) filed stored pays accepted
  rw [executed] at refused
  cases refused

end Finance
