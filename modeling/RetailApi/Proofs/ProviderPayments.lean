import RetailApi.Proofs.OrderTakings

/-! The callbacks of a provider for one transaction: the first that is accepted decides, and
every later one is answered with what it left. -/

namespace Finance

open Transaction JsString List SettlementDb

structure ProviderCall where
  draws : Draws
  dto : ProviderWebhookCallbackDto

def providerStep (db : FinanceDb) (call : ProviderCall) : FinanceDb :=
  commit db ((·.1) <$> processProviderCallback db call.draws none call.dto)

/-- A call for a transaction that names no key of its own. -/
def ProviderCall.IsFor (provider externalTxId : String) (call : ProviderCall) : Prop :=
  call.dto.provider = provider ∧ call.dto.externalTxId = externalTxId ∧ call.dto.idempotencyKey = none

instance (provider externalTxId : String) (call : ProviderCall) : Decidable (call.IsFor provider externalTxId) :=
  inferInstanceAs (Decidable (_ ∧ _ ∧ _))

def transactionKey (provider externalTxId : String) : String := toLowerCase (trimmed s!"webhook:{provider}:{externalTxId}")

variable {db after : FinanceDb} {draws : Draws} {provider externalTxId : String} {call : ProviderCall}
  {response : SettlementResponse}

theorem ProviderCall.IsFor.key (isFor : call.IsFor provider externalTxId) :
    call.dto.confirmation.key (some call.dto.webhookKey) = transactionKey provider externalTxId := by
  obtain ⟨rfl, rfl, keyless⟩ := isFor
  rw [ProviderWebhookCallbackDto.webhookKey, keyless]
  rfl

/-- Finance has not heard of the transaction or its tender; what is filed about settlements is about those it has. -/
structure ProviderCall.New (call : ProviderCall) (db : FinanceDb) : Prop where
  unanswered : db.settlement.answered call.dto.confirmation (some call.dto.webhookKey) = none
  untendered : db.settlement.byTender call.dto.orderId call.dto.confirmation.tender = none
  distinct : (db.settlement.settlements.map (·.id)).Nodup
  vouchers : ∀ entry ∈ db.cash.entries,
    entry.idempotencyKey ≠ some s!"stl-cb:{call.dto.confirmation.key (some call.dto.webhookKey)}"
  journals : ∀ journal ∈ db.ledger.journals, journal.sourceType = "PAYMENT_SETTLEMENT" →
    ∃ row ∈ db.settlement.settlements, journal.sourceId = toString row.id
  issues : ∀ issue ∈ db.reconciliation.issues, issue.sourceType = "PAYMENT_SETTLEMENT" →
    ∃ row ∈ db.settlement.settlements, issue.sourceId = toString row.id

/-- The transaction is settled: its journal and, where its method goes through an account, its receipt are there once, and no
issue about it is open. -/
def FinanceDb.Paid (db : FinanceDb) (key : String) : Prop :=
  ∃ row ∈ db.settlement.settlements, row.idempotencyKey = key ∧ row.settlementStatus = .settled ∧
    db.ledger.journals.countP (·.source = ("PAYMENT_SETTLEMENT", toString row.id)) = 1 ∧
    db.cash.entries.countP (·.idempotencyKey = some s!"stl-cb:{key}") =
      (if row.paymentMethod.accountType.isSome then 1 else 0) ∧
    ∀ issue ∈ db.reconciliation.issues, issue.sourceType = "PAYMENT_SETTLEMENT" → issue.sourceId = toString row.id →
      issue.status ≠ .open

instance (db : FinanceDb) (key : String) : Decidable (db.Paid key) := inferInstanceAs (Decidable (∃ _ ∈ _, _))

/-- A cash account that the payment names, and needs, is there. -/
def ProviderCall.Bookable (call : ProviderCall) (db : FinanceDb) : Prop :=
  call.dto.confirmation.paymentMethod.accountType.isSome → ∀ id ∈ call.dto.cashAccountId, (db.cash.account id).isSome

instance (db : FinanceDb) : Decidable (call.Bookable db) := inferInstanceAs (Decidable (_ → ∀ _ ∈ _, _))

theorem methodAccount_some {cash ready drawn cashAccountId branchId wanted account}
    (ran : methodAccount cash drawn cashAccountId branchId wanted = .ok (ready, account)) :
    (account.isSome ↔ wanted.isSome ∧ ∀ id ∈ cashAccountId, (cash.account id).isSome) ∧ ready.entries = cash.entries := by
  cases wanted with
  | none =>
    cases ran
    exact ⟨by simp, rfl⟩
  | some wanted =>
    cases cashAccountId with
    | none =>
      simp only [methodAccount, namedAccount, eq_ok, Prod.mk.injEq] at ran
      obtain ⟨⟨_, drawer⟩, ensured, rfl, rfl⟩ := ran
      refine ⟨by simp, ?_⟩
      cases ensureDefaultCashAccountInTx_ok ensured with
      | there => rfl
      | opened => rfl
    | some id =>
      simp only [methodAccount, namedAccount, eq_ok, readCashAccount_eq_ok, Prod.mk.injEq] at ran
      obtain ⟨_, ⟨rfl, _⟩, rfl, rfl⟩ := ran
      exact ⟨by simp, rfl⟩

structure SettledNew (db : FinanceDb) (rows : SettlementDb) (pending row : PaymentSettlementEntity) (booked : Prop)
    (after : FinanceDb) : Prop where
  saved : rows.saveSettlement row = .ok after.settlement
  id : row.id = pending.id
  key : row.idempotencyKey = pending.idempotencyKey
  method : row.paymentMethod = pending.paymentMethod
  status : row.settlementStatus = .settled
  journal : after.ledger.journals.countP (·.source = ("PAYMENT_SETTLEMENT", toString pending.id)) = 1
  receipt : booked → after.cash.entries.countP (·.idempotencyKey = some s!"stl-cb:{pending.idempotencyKey}") = 1
  none : ¬booked → after.cash.entries.countP (·.idempotencyKey = some s!"stl-cb:{pending.idempotencyKey}") = 0
  issues : after.reconciliation = db.reconciliation

theorem settle_new {rows cashAccountId} {pending} {settled}
    (unposted : ∀ journal ∈ db.ledger.journals, journal.source ≠ ("PAYMENT_SETTLEMENT", toString pending.id))
    (unused : ∀ entry ∈ db.cash.entries, entry.idempotencyKey ≠ some s!"stl-cb:{pending.idempotencyKey}")
    (executed : settle db draws rows cashAccountId pending settled none = .ok (after, response)) :
    ∃ row, SettledNew db rows pending row (pending.paymentMethod.accountType.isSome ∧
      ∀ id ∈ cashAccountId, (db.cash.account id).isSome) after := by
  simp only [settle, eq_ok, Prod.mk.injEq] at executed
  obtain ⟨⟨cash, account⟩, chosen, ⟨ledger, posted⟩, ran, ⟨booked, voucherId⟩, linked, rest, saved, rfl, _⟩ := executed
  obtain ⟨chosen, entries⟩ := methodAccount_some chosen
  obtain ⟨validated, accepted, posting⟩ := postJournalInTx_ok ran
  have linked := linkedVoucher_ok linked
  have same := linked.rest fun id => by simp [settlementVoucher]
  have unused : ∀ entry ∈ cash.entries, entry.idempotencyKey ≠ some s!"stl-cb:{pending.idempotencyKey}" := by
    rw [entries]
    exact unused
  have before : cash.entries.countP (·.idempotencyKey = some s!"stl-cb:{pending.idempotencyKey}") = 0 := by
    rw [countP_eq_zero]
    intro entry member
    rw [decide_eq_true_eq]
    exact unused entry member
  refine ⟨pending.settle settled voucherId posted.journal.id, saved, rfl, rfl, rfl, rfl, ?_, ?_, ?_, ?_⟩
  · show booked.ledger.journals.countP _ = 1
    rw [same]
    cases posting with
    | replayed found source =>
      refine absurd (source.trans ?_) (unposted _ (JournalDb.existing_some found).1)
      rw [PostJournalInTxInput.source, Prod.mk.injEq]
      exact ⟨show toUpperCase (trimmed "PAYMENT_SETTLEMENT") = _ by decide +kernel, trimmed_toString pending.id⟩
    | stored _ _ _ journals =>
      rw [journals, countP_append, countP_eq_zero.mpr, countP_singleton, if_pos]
      · rw [decide_eq_true_eq, PostJournalInTxInput.journal_source, PostJournalInTxInput.source, Prod.mk.injEq]
        exact ⟨show toUpperCase (trimmed "PAYMENT_SETTLEMENT") = _ by decide +kernel, trimmed_toString pending.id⟩
      · intro journal member
        rw [decide_eq_true_eq]
        exact unposted journal member
  · intro isBooked
    cases linked with
    | unbooked => cases chosen.mpr isBooked
    | @made _ _ entry made =>
      obtain ⟨_, new⟩ := made.new rfl (settlementKey_ne pending.idempotencyKey) unused rfl rfl
      have key : entry.idempotencyKey = some s!"stl-cb:{pending.idempotencyKey}" := new.key
      rw [new.entries, countP_append, before, countP_singleton, if_pos (decide_eq_true key)]
  · intro unbooked
    cases linked with
    | unbooked => exact before
    | made => exact absurd (chosen.mp rfl) unbooked
  · show booked.reconciliation = _
    rw [same]

theorem providerStep_replays (isFor : call.IsFor provider externalTxId)
    (there : ∃ row ∈ db.settlement.settlements, row.idempotencyKey = transactionKey provider externalTxId) :
    providerStep db call = db := by
  obtain ⟨row, member, key⟩ := there
  have answered : (db.settlement.answered call.dto.confirmation (some call.dto.webhookKey)).isSome := by
    rw [answered, isFor.key]
    cases found : db.settlement.settlements.find? (·.idempotencyKey = transactionKey provider externalTxId) with
    | none => exact absurd (decide_eq_true key) (find?_eq_none.mp found row member)
    | some other => rfl
  obtain ⟨existing, found⟩ := Option.isSome_iff_exists.mp answered
  have replayed : processProviderCallback db call.draws none call.dto =
      .ok (db, { settlement := existing, replayed := true }) := by
    show confirmSettlementInTx db call.draws (some call.dto.webhookKey) call.dto.confirmation = _
    rw [confirmSettlementInTx, found]
  rw [providerStep, replayed]
  rfl

/-- What the first call leaves: a row under the key of the transaction, the only one, paid when the call settled it. -/
structure Heard (key : String) (settles booked : Prop) (after : FinanceDb) : Prop where
  row : ∃ row ∈ after.settlement.settlements, row.idempotencyKey = key
  paid : after.Paid key ↔ settles ∧ booked

theorem ProviderCall.New.unkeyed (new : call.New db) (isFor : call.IsFor provider externalTxId) :
    ∀ row ∈ db.settlement.settlements, row.idempotencyKey ≠ transactionKey provider externalTxId := by
  intro row member key
  have unanswered := new.unanswered
  rw [answered, isFor.key] at unanswered
  cases found : db.settlement.settlements.find? (·.idempotencyKey = transactionKey provider externalTxId) with
  | none => exact find?_eq_none.mp found row member (decide_eq_true key)
  | some other =>
    rw [found] at unanswered
    cases unanswered

theorem ProviderCall.New.heard (new : call.New db) (isFor : call.IsFor provider externalTxId)
    (ran : processProviderCallback db call.draws none call.dto = .ok (after, response)) :
    Heard (transactionKey provider externalTxId) (¬call.dto.confirmation.Doubtful) (call.Bookable db) after := by
  have unkeyed := new.unkeyed isFor
  have vouchers := new.vouchers
  rw [isFor.key] at vouchers
  replace ran : confirmSettlementInTx db call.draws (some call.dto.webhookKey) call.dto.confirmation = .ok (after, response) :=
    ran
  rw [confirmSettlementInTx, new.unanswered, confirmNew, bind_eq_ok] at ran
  obtain ⟨amounts, parsed, ran⟩ := ran
  dsimp only at ran
  rw [show db.settlement.byTender call.dto.confirmation.orderId _ = none from new.untendered] at ran
  have doubtful : call.dto.confirmation.Doubtful ↔ call.dto.confirmation.ambiguousOutcome = true ∨ amounts.hasMismatch := by
    unfold ConfirmSettlementDto.Doubtful
    rw [parsed]
    simp [Except.toOption]
  generalize identified : db.settlement.identify call.draws.document none = named at ran
  obtain ⟨rows, id, code⟩ := named
  obtain ⟨same, fresh, _⟩ := identify_ok identified
  replace fresh := fresh rfl
  have outside : ∀ row ∈ db.settlement.settlements, toString id ≠ toString row.id :=
    fun row member equal => fresh row member (toString_injective equal).symm
  generalize made : call.dto.confirmation.pending (some call.dto.webhookKey) id code amounts none = pending at ran
  have named : pending.id = id := by rw [← made]; rfl
  have key : pending.idempotencyKey = transactionKey provider externalTxId := by
    rw [← made]
    exact isFor.key
  split at ran
  · next waits =>
    obtain ⟨saved, _⟩ := leavePending_ok ran
    have written := saveSettlement_saved saved (same ▸ new.distinct)
    refine ⟨⟨pending, written.member, key⟩, ?_⟩
    apply iff_of_false
    · rintro ⟨row, member, own, settled, _⟩
      rcases written.only row member with rfl | old
      · rw [← made] at settled
        cases settled
      · exact unkeyed row (same ▸ old) own
    · exact fun paid => paid.1 (doubtful.mpr waits)
  · next certain =>
    obtain ⟨row, is⟩ := settle_new
      (fun journal member source => by
        obtain ⟨row, listed, own⟩ := new.journals journal member (congrArg Prod.fst source)
        exact outside row listed (named ▸ (congrArg Prod.snd source).symm.trans own))
      (by rw [key]; exact vouchers) ran
    have written := saveSettlement_saved is.saved (same ▸ new.distinct)
    have method : pending.paymentMethod = call.dto.confirmation.paymentMethod := by rw [← made]; rfl
    have receiptKey : (some s!"stl-cb:{pending.idempotencyKey}") = some s!"stl-cb:{transactionKey provider externalTxId}" := by
      rw [key]
    refine ⟨⟨row, written.member, is.key.trans key⟩, ?_⟩
    constructor
    · rintro ⟨other, member, own, _, _, receipts, _⟩
      refine ⟨fun isDoubtful => certain (doubtful.mp isDoubtful), fun goes account listed => ?_⟩
      rcases written.only other member with rfl | old
      · by_contra missing
        have none := is.none fun both => missing (both.2 account listed)
        rw [receiptKey, receipts, is.method, method, if_pos goes] at none
        cases none
      · exact absurd own (unkeyed other (same ▸ old))
    · rintro ⟨_, bookable⟩
      refine ⟨row, written.member, is.key.trans key, is.status, ?_, ?_, ?_⟩
      · rw [is.id]
        exact is.journal
      · rw [← receiptKey, is.method]
        split
        · next goes => exact is.receipt ⟨goes, bookable (method ▸ goes)⟩
        · next cashless => exact is.none fun both => cashless both.1
      · rw [is.issues, is.id, named]
        intro issue member type source
        obtain ⟨other, listed, own⟩ := new.issues issue member type
        exact absurd (source.symm.trans own) (outside other listed)

theorem providerStep_kept {calls : List ProviderCall} (each : ∀ call ∈ calls, call.IsFor provider externalTxId)
    (there : ∃ row ∈ db.settlement.settlements, row.idempotencyKey = transactionKey provider externalTxId) :
    calls.foldl providerStep db = db := by
  induction calls with
  | nil => rfl
  | cons call calls inner =>
    rw [foldl_cons, providerStep_replays (each call (.head _)) there]
    exact inner fun other member => each other (.tail _ member)

theorem providerStep_refused {calls : List ProviderCall}
    (refused : ∀ call ∈ calls, ∃ failure, processProviderCallback db call.draws none call.dto = .error failure) :
    calls.foldl providerStep db = db := by
  induction calls with
  | nil => rfl
  | cons call calls inner =>
    obtain ⟨failure, failed⟩ := refused call (.head _)
    rw [foldl_cons, providerStep, failed]
    exact inner fun other member => refused other (.tail _ member)

/-- The calls for a transaction settle it, and are then answered without a change, exactly when the first that is accepted
reports it confirmed as requested, and any cash account it names and needs is there. -/
theorem provider_payment_settles_iff {refused rest : List ProviderCall} {first : ProviderCall} {accepted : FinanceDb × SettlementResponse}
    (isFor : ∀ call ∈ refused ++ first :: rest, call.IsFor provider externalTxId) (new : first.New db)
    (failed : ∀ call ∈ refused, ∃ failure, processProviderCallback db call.draws none call.dto = .error failure)
    (executed : processProviderCallback db first.draws none first.dto = .ok accepted) :
    (((refused ++ first :: rest).foldl providerStep db).Paid (transactionKey provider externalTxId) ∧
      ∀ call : ProviderCall, call.IsFor provider externalTxId →
        providerStep ((refused ++ first :: rest).foldl providerStep db) call = (refused ++ first :: rest).foldl providerStep db) ↔
      ¬first.dto.confirmation.Doubtful ∧ first.Bookable db := by
  have own := isFor first (mem_append_right _ (.head _))
  have heard := new.heard own executed
  have stepped : providerStep db first = accepted.1 := by
    rw [providerStep, executed]
    rfl
  have run : (refused ++ first :: rest).foldl providerStep db = accepted.1 := by
    rw [foldl_append, providerStep_refused failed, foldl_cons, stepped]
    exact providerStep_kept (fun call member => isFor call (mem_append_right _ (.tail _ member))) heard.row
  rw [run, heard.paid]
  exact ⟨And.left, fun paid => ⟨paid, fun call isFor => providerStep_replays isFor heard.row⟩⟩

private def walletCall (status : ProviderStatus) : ProviderCall where
  draws := {}
  dto := { provider := "WALLET", externalTxId := "T-1", orderId := 3, confirmedAmount := 100, providerStatus := some status }

private theorem walletCall_new (status : ProviderStatus) : (walletCall status).New {} where
  unanswered := by
    rw [answered, byTender]
    rfl
  untendered := rfl
  distinct := nodup_nil
  vouchers _ member := absurd member not_mem_nil
  journals _ member := absurd member not_mem_nil
  issues _ member := absurd member not_mem_nil

theorem confirmed_wallet_settles :
    ([walletCall .confirmed].foldl providerStep {}).Paid (transactionKey "WALLET" "T-1") := by
  obtain ⟨accepted, executed, _⟩ := evaluates (processProviderCallback {} {} none (walletCall .confirmed).dto) (fun _ => true)
    (by decide +kernel)
  have isFor : ∀ call ∈ [] ++ [walletCall .confirmed], call.IsFor "WALLET" "T-1" := by decide
  exact ((provider_payment_settles_iff isFor (walletCall_new .confirmed) (fun _ member => absurd member not_mem_nil)
    executed).mpr (by decide +kernel)).1

/-- A payment that is pending first stays so when it is confirmed. -/
theorem pending_wallet_never_settles : ¬∀ (db : FinanceDb) (provider externalTxId : String) (doubtful confirmed : ProviderCall),
    doubtful.IsFor provider externalTxId → confirmed.IsFor provider externalTxId → doubtful.New db →
    doubtful.dto.confirmation.Doubtful → ¬confirmed.dto.confirmation.Doubtful → confirmed.Bookable db →
    ([doubtful, confirmed].foldl providerStep db).Paid (transactionKey provider externalTxId) := by
  intro settles
  have paid := settles {} "WALLET" "T-1" (walletCall .pending) (walletCall .confirmed) (by decide) (by decide)
    (walletCall_new .pending) (by decide +kernel) (by decide +kernel) (by decide +kernel)
  revert paid
  decide +kernel

end Finance
