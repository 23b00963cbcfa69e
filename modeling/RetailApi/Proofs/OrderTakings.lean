import RetailApi.Finance.SalesEvents
import RetailApi.Proofs.Tenders
import RetailApi.Proofs.Vouchers

/-! The takings of an order: what finance settles for a checkout, against the tenders it was paid with. -/

namespace Sales

open Transaction JsString List Int

/-- A tender that is in hand: cash, or a transfer, card or e-wallet payment that is confirmed. -/
def ValidatedTenderLine.Taken (tender : ValidatedTenderLine) : Prop :=
  tender.status = .confirmed ∧ tender.method ≠ .cod ∧ tender.method ≠ .onAccount

instance (tender : ValidatedTenderLine) : Decidable tender.Taken := inferInstanceAs (Decidable (_ ∧ _))

structure ValidatedTenderLine.Sound (allowZero : Bool) (tender : ValidatedTenderLine) : Prop where
  nonneg : 0 ≤ tender.amount
  positive : allowZero = true ∨ tender.amount ≠ 0
  cash : tender.method = .cash → tender.status = .confirmed

theorem validateTender_ok {allowZero} {input tender}
    (validated : validateTender allowZero input = .ok tender) : tender.Sound allowZero := by
  have each := TenderInputLine.validates validated
  exact ⟨each.nonneg, each.positive, fun cash => (each.cash cash).1⟩

namespace CompletedCheckout

variable (checkout : CompletedCheckout)

def takings : Int := ((checkout.tenderSummary.tenders.filter (·.Taken)).map (·.amount)).sum

def cashTakings : Int := ((checkout.tenderSummary.tenders.filter (·.method = .cash)).map (·.amount)).sum

/-- The method the order goes by is that of all its tenders, under a name that finance knows, and nothing is outstanding
that finance takes for settled. -/
def Fits : Prop :=
  checkout.grandTotal = 0 ∨ (∀ tender ∈ checkout.tenderSummary.tenders, tender.method = .cash) ∨
    ∃ tender, checkout.tenderSummary.tenders = [tender] ∧
      (tender.method = .cod ∨ tender.method = .onAccount ∨
        (tender.method = .bankTransfer ∨ tender.method = .card) ∧ tender.status = .confirmed)

end CompletedCheckout

structure CompletedCheckout.Checked (checkout : CompletedCheckout) : Prop where
  some : checkout.tenderSummary.tenders ≠ []
  each : ∀ tender ∈ checkout.tenderSummary.tenders, tender.Sound (checkout.grandTotal = 0)
  total : (checkout.tenderSummary.tenders.map (·.amount)).sum = checkout.grandTotal

theorem CompletedCheckout.checked (checkout : CompletedCheckout) : checkout.Checked := by
  have validated := checkout.validated
  simp only [validateOrderTenders, eq_ok] at validated
  obtain ⟨grandTotal, parsed, _, inputs, tenders, mapped, _, total, _, _, _, _, _, _, _, _, same⟩ := validated
  simp only [parseVndAmount, eq_ok] at parsed
  obtain ⟨_, _, _, _, rfl⟩ := parsed
  have listed : checkout.tenderSummary.tenders = tenders := by rw [← same]
  constructor
  · rw [listed]
    rintro rfl
    have none := (mapM_eq_ok.mp mapped).length_eq
    exact inputs (length_eq_zero_iff.mp none)
  · intro tender member
    obtain ⟨_, _, made⟩ := mapM_mem mapped (listed ▸ member)
    exact validateTender_ok made
  · rw [listed]
    exact total

namespace CompletedCheckout.Checked

variable {checkout : CompletedCheckout}

theorem part_le (checked : checkout.Checked) (chosen : ValidatedTenderLine → Bool) :
    0 ≤ ((checkout.tenderSummary.tenders.filter chosen).map (·.amount)).sum ∧
      ((checkout.tenderSummary.tenders.filter chosen).map (·.amount)).sum ≤ checkout.grandTotal := by
  rw [← checked.total]
  exact tenders_part_le (fun tender member => (checked.each tender member).nonneg) chosen

theorem all_of_sum (checked : checkout.Checked) {chosen} (positive : 0 < checkout.grandTotal)
    (sum : ((checkout.tenderSummary.tenders.filter chosen).map (·.amount)).sum = checkout.grandTotal) :
    ∀ tender ∈ checkout.tenderSummary.tenders, chosen tender = true := by
  have general : ∀ tenders : List ValidatedTenderLine, (∀ tender ∈ tenders, 0 < tender.amount) →
      ((tenders.filter chosen).map (·.amount)).sum ≤ (tenders.map (·.amount)).sum ∧
        (((tenders.filter chosen).map (·.amount)).sum = (tenders.map (·.amount)).sum →
          ∀ tender ∈ tenders, chosen tender = true) := by
    intro tenders
    induction tenders with
    | nil => exact fun _ => ⟨le_refl _, fun _ => nofun⟩
    | cons tender tenders inner =>
      intro each
      have own := each tender (.head _)
      obtain ⟨most, all⟩ := inner fun other member => each other (.tail _ member)
      rw [filter_cons, map_cons, sum_cons]
      split
      · next is =>
        rw [map_cons, sum_cons]
        refine ⟨by omega, fun same other member => ?_⟩
        rcases mem_cons.mp member with rfl | later
        · exact is
        · exact all (by omega) other later
      · refine ⟨by omega, fun same => ?_⟩
        omega
  refine (general _ fun tender member => ?_).2 (sum.trans checked.total.symm)
  have sound := checked.each tender member
  have nonneg := sound.nonneg
  rcases sound.positive with free | apart
  · exact absurd (of_decide_eq_true free) (ne_of_gt positive)
  · omega

end CompletedCheckout.Checked

end Sales

namespace Finance

open Transaction JsString JsNumber Sales

/-- The kind of account that a completed order is settled into; none where nothing is settled. -/
def settledAs (checkout : CompletedCheckout) : Option DefaultAccountType :=
  if toUpperCase (resolvePrimaryPaymentMethod checkout.tenderSummary) = "ON_ACCOUNT" ∨
      toUpperCase (resolvePrimaryPaymentMethod checkout.tenderSummary) = "COD" ∨ checkout.grandTotal ≤ 0 then none
  else (settledMethod (toUpperCase (resolvePrimaryPaymentMethod checkout.tenderSummary))).accountType

def settledAmounts (checkout : CompletedCheckout) : Int × Int :=
  match settledAs checkout with
  | none => (0, 0)
  | some .cashDrawer => (checkout.grandTotal, checkout.grandTotal)
  | some .bank => (checkout.grandTotal, 0)

variable {checkout : CompletedCheckout}

def singleKind : TenderMethod → Option DefaultAccountType
  | .cash | .eWallet => some .cashDrawer
  | .bankTransfer | .card => some .bank
  | .cod | .onAccount => none

theorem settledAs_single {tender} (only : checkout.tenderSummary.tenders = [tender])
    (positive : 0 < checkout.grandTotal) : settledAs checkout = singleKind tender.method := by
  have due : ¬checkout.grandTotal ≤ 0 := not_le.mpr positive
  have name : resolvePrimaryPaymentMethod checkout.tenderSummary = toString tender.method := by
    rw [resolvePrimaryPaymentMethod, only]
  rw [settledAs, name]
  have upper : ∀ method : TenderMethod, toUpperCase (toString method) = toString method := by
    intro method
    cases method <;> decide +kernel
  rw [upper]
  cases tender.method with
  | cash | eWallet | bankTransfer | card =>
    rw [if_neg (by rintro (named | named | free) <;> first | exact absurd named (by decide) | exact due free)]
    rfl
  | cod => exact if_pos (.inr (.inl rfl))
  | onAccount => exact if_pos (.inl rfl)

theorem settledAs_several {first second rest}
    (several : checkout.tenderSummary.tenders = first :: second :: rest) (positive : 0 < checkout.grandTotal) :
    settledAs checkout = some .cashDrawer := by
  have due : ¬checkout.grandTotal ≤ 0 := not_le.mpr positive
  have name : toUpperCase (resolvePrimaryPaymentMethod checkout.tenderSummary) = "COMBINED" := by
    rw [resolvePrimaryPaymentMethod, several]
    show toUpperCase "COMBINED" = "COMBINED"
    decide +kernel
  rw [settledAs, name, if_neg (by rintro (named | named | free) <;> first | exact absurd named (by decide) | exact due free)]
  rfl

theorem settledAmounts_iff (checkout : CompletedCheckout) :
    settledAmounts checkout = (checkout.takings, checkout.cashTakings) ↔ checkout.Fits := by
  have checked := checkout.checked
  have taken := checked.part_le (·.Taken)
  have cash := checked.part_le (·.method = .cash)
  by_cases positive : 0 < checkout.grandTotal
  · cases listed : checkout.tenderSummary.tenders with
    | nil => exact absurd listed checked.some
    | cons first rest =>
      have due : checkout.grandTotal ≠ 0 := ne_of_gt positive
      cases rest with
      | nil =>
        have whole : first.amount = checkout.grandTotal := by
          have total := checked.total
          rw [listed] at total
          simpa using total
        have inHand := (checked.each first (listed ▸ .head _)).cash
        rw [settledAmounts, settledAs_single listed positive, CompletedCheckout.takings, CompletedCheckout.cashTakings,
          CompletedCheckout.Fits, listed]
        cases method : first.method with
        | cash => simp [singleKind, ValidatedTenderLine.Taken, method, inHand method, whole]
        | bankTransfer | card | eWallet | cod | onAccount =>
          cases status : first.status <;>
            simp [singleKind, ValidatedTenderLine.Taken, method, status, whole, due]
      | cons second rest =>
        rw [settledAmounts, settledAs_several listed positive]
        constructor
        · intro same
          have all := checked.all_of_sum positive (Prod.mk.inj same).2.symm
          exact .inr (.inl fun tender member => of_decide_eq_true (all tender member))
        · rintro (free | all | ⟨tender, only, _⟩)
          · exact absurd free due
          · have cashOnly : checkout.tenderSummary.tenders.filter (·.method = .cash) = checkout.tenderSummary.tenders :=
              List.filter_eq_self.mpr fun tender member => decide_eq_true (all tender member)
            have takenAll : checkout.tenderSummary.tenders.filter (·.Taken) = checkout.tenderSummary.tenders := by
              apply List.filter_eq_self.mpr
              intro tender member
              have method := all tender member
              exact decide_eq_true ⟨(checked.each tender member).cash method, by rw [method]; nofun, by rw [method]; nofun⟩
            rw [CompletedCheckout.takings, CompletedCheckout.cashTakings, takenAll, cashOnly, checked.total]
          · cases listed.symm.trans only
  · have free : checkout.grandTotal = 0 := by omega
    have none : settledAs checkout = Option.none := if_pos (.inr (.inr (le_of_eq free)))
    rw [settledAmounts, none]
    refine iff_of_true (Prod.ext ?_ ?_) (.inl free)
    · show 0 = ((checkout.tenderSummary.tenders.filter (·.Taken)).map (·.amount)).sum
      omega
    · show 0 = ((checkout.tenderSummary.tenders.filter (·.method = .cash)).map (·.amount)).sum
      omega

structure RowSaved (before : List PaymentSettlementEntity) (row : PaymentSettlementEntity) (after : List PaymentSettlementEntity) :
    Prop where
  distinct : (after.map (·.id)).Nodup
  member : row ∈ after
  only : ∀ other ∈ after, other = row ∨ other ∈ before
  kept : ∀ other ∈ before, other.id ≠ row.id → other ∈ after

theorem saveSettlement_saved {db after : SettlementDb} {row} (saved : db.saveSettlement row = .ok after)
    (distinct : (db.settlements.map (·.id)).Nodup) : RowSaved db.settlements row after.settlements := by
  simp only [SettlementDb.saveSettlement, eq_ok] at saved
  obtain ⟨_, _, _, _, rfl⟩ := saved
  by_cases there : db.settlements.any (·.id = row.id)
  · rw [if_pos there]
    obtain ⟨old, inside, same⟩ := List.any_eq_true.mp there
    refine ⟨?_, Rows.saved_mem inside (of_decide_eq_true same), fun other member => ?_,
      fun other member apart => Rows.kept_mem member apart⟩
    · rw [Rows.keys_save]
      exact distinct
    · exact (Rows.mem_save member).imp_right And.left
  · rw [if_neg there]
    have fresh : ∀ other ∈ db.settlements, other.id ≠ row.id := by simpa using there
    refine ⟨Keyed.nodup_append distinct fresh, by simp, fun other member => ?_, fun other member _ =>
      List.mem_append_left _ member⟩
    rcases List.mem_append.mp member with old | last
    · exact .inr old
    · exact .inl (List.mem_singleton.mp last)

variable {db after : FinanceDb} {draws : Draws} {header : Option String} {dto : ConfirmSettlementDto} {response : SettlementResponse}

variable {rows : SettlementDb} {previous : Option PaymentSettlementEntity}

theorem identify_ok {db : SettlementDb} {drawn id code}
    (identified : db.identify drawn previous = (rows, id, code)) : rows.settlements = db.settlements ∧
      (previous = none → ∀ other ∈ db.settlements, other.id ≠ id) ∧ ∀ own ∈ previous, own.id = id := by
  cases previous with
  | none =>
    obtain ⟨rfl, rfl, _⟩ := identified
    exact ⟨rfl, fun _ other member => Fresh.ne_pick _ drawn member, fun own absent => absurd absent (Option.not_mem_none own)⟩
  | some own =>
    obtain ⟨rfl, rfl, _⟩ := identified
    exact ⟨rfl, fun absent => absurd absent (Option.some_ne_none own), fun other same => by rw [Option.some.inj same]⟩

/-- A confirmation that is not answered by an earlier one leaves its tender pending, or settles it; it replaces no row that
is settled. -/
theorem confirmNew_ok (distinct : (db.settlement.settlements.map (·.id)).Nodup)
    (unanswered : db.settlement.answered dto header = none) (ran : confirmNew db draws header dto = .ok (after, response)) :
    ∃ amounts rows id code previous, dto.amounts = .ok amounts ∧ rows.settlements = db.settlement.settlements ∧
      (∀ other ∈ db.settlement.settlements, other.id = id → other.settlementStatus ≠ .settled) ∧
      ((dto.ambiguousOutcome = true ∨ amounts.hasMismatch) ∧
          leavePending db draws rows (dto.pending header id code amounts previous) amounts = .ok (after, response) ∨
        ¬(dto.ambiguousOutcome = true ∨ amounts.hasMismatch) ∧ settle db draws rows dto.cashAccountId
          (dto.pending header id code amounts previous) amounts.settled previous = .ok (after, response)) := by
  rw [confirmNew, bind_eq_ok] at ran
  obtain ⟨amounts, parsed, ran⟩ := ran
  dsimp only at ran
  generalize identified : db.settlement.identify draws.document (db.settlement.byTender dto.orderId dto.tender) = row at ran
  obtain ⟨rows, id, code⟩ := row
  obtain ⟨same, fresh, own⟩ := identify_ok identified
  refine ⟨amounts, rows, id, code, db.settlement.byTender dto.orderId dto.tender, parsed, same, fun other member isOwn settled => ?_, ?_⟩
  · cases found : db.settlement.byTender dto.orderId dto.tender with
    | none => exact fresh found other member isOwn
    | some previous =>
      have inside := List.mem_of_find?_eq_some found
      obtain rfl := Rows.eq_of_key distinct member inside (isOwn.trans (own previous found).symm)
      rw [SettlementDb.answered, found, Option.filter_some, if_pos (decide_eq_true settled)] at unanswered
      simp at unanswered
  · split at ran
    · next doubtful => exact .inl ⟨doubtful, ran⟩
    · next certain => exact .inr ⟨certain, ran⟩

theorem leavePending_ok {pending amounts} (ran : leavePending db draws rows pending amounts = .ok (after, response)) :
    rows.saveSettlement pending = .ok after.settlement ∧ after.cash = db.cash := by
  simp only [leavePending, eq_ok, Prod.mk.injEq] at ran
  obtain ⟨settlement, saved, rfl, _⟩ := ran
  exact ⟨saved, rfl⟩

/-- The accounts of a tenant: no id is there twice, and the codes of the usual accounts stand for their types. -/
structure CashDb.Typed (db : CashDb) : Prop where
  distinct : (db.accounts.map (·.id)).Nodup
  usual : ∀ account ∈ db.accounts, ∀ id branchId wanted, account.code = (defaultCashAccount id branchId wanted).code →
    account.accountType = wanted.accountType

theorem ensureDefaultCashAccountInTx_type {cash ready} {drawn branchId wanted account} (typed : cash.Typed)
    (executed : ensureDefaultCashAccountInTx cash drawn branchId wanted = .ok (ready, account)) :
    account.accountType = wanted.accountType := by
  simp only [ensureDefaultCashAccountInTx, eq_ok, readCashAccount_eq_ok] at executed
  obtain ⟨_, ⟨rfl, _⟩, ran⟩ := executed
  split at ran
  · next usual =>
    cases ran
    have active : cash.activeAccount wanted.accountType = some account → account.accountType = wanted.accountType :=
      fun found => (of_decide_eq_true (List.find?_some (p := fun other => decide (_ ∧ _)) found)).1
    rw [CashDb.usualAccount] at usual
    generalize named : (branchId.bind fun branch => if wanted = .cashDrawer then cash.branchDrawer branch else none) = drawer at usual
    cases drawer with
    | none => exact active usual
    | some own =>
      obtain ⟨branch, _, found⟩ := Option.bind_eq_some_iff.mp named
      split at found
      · next isDrawer =>
        cases usual
        rw [isDrawer]
        exact (of_decide_eq_true (List.find?_some (p := fun other => decide (_ ∧ _ ∧ _)) found)).2.1
      · cases found
  · simp only [eq_ok, readCashAccount_eq_ok, Prod.mk.injEq] at ran
    obtain ⟨_, ⟨rfl, _⟩, found, same, _, rfl⟩ := ran
    have code := of_decide_eq_true (List.find?_some (p := fun other => decide (_ = _)) same)
    have member := List.mem_of_find?_eq_some same
    rw [CashDb.insertAccount] at member
    split at member
    · exact typed.usual found member _ _ _ code
    · rcases List.mem_append.mp member with old | new
      · exact typed.usual found old _ _ _ code
      · rw [List.mem_singleton.mp new]
        rfl

def FinanceDb.bookedOn (db : FinanceDb) (settlement : PaymentSettlementEntity) : Option CashAccountType :=
  settlement.cashbookEntryId.bind fun entryId => (db.cash.entry entryId).bind fun entry =>
    (db.cash.account entry.cashAccountId).map (·.accountType)

theorem settlementKey_ne (key : String) : s!"stl-cb:{key}" ≠ "" := by
  rw [Ne, String.append_eq_empty_iff]
  rintro ⟨named, _⟩
  exact absurd named (by decide)

theorem settle_ok {pending} {settled wanted} (typed : db.cash.Typed)
    (method : pending.paymentMethod.accountType = some wanted)
    (unused : ∀ entry ∈ db.cash.entries, entry.idempotencyKey ≠ some s!"stl-cb:{pending.idempotencyKey}")
    (ran : settle db draws rows none pending settled previous = .ok (after, response)) :
    ∃ voucherId journalId, rows.saveSettlement (pending.settle settled voucherId journalId) = .ok after.settlement ∧
      after.bookedOn (pending.settle settled voucherId journalId) = some wanted.accountType := by
  simp only [settle, eq_ok, Prod.mk.injEq] at ran
  obtain ⟨⟨cash, account⟩, chosen, ⟨ledger, posted⟩, _, ⟨booked, voucherId⟩, linked, rest, saved, rfl, _⟩ := ran
  rw [method] at chosen
  simp only [methodAccount, namedAccount, eq_ok, Prod.mk.injEq] at chosen
  obtain ⟨⟨ready, drawer⟩, ensured, rfl, rfl⟩ := chosen
  have type := ensureDefaultCashAccountInTx_type typed ensured
  obtain ⟨found, entries⟩ := (ensureDefaultCashAccountInTx_ok ensured).found typed.distinct
  cases linkedVoucher_ok linked with
  | @made _ _ entry made =>
    obtain ⟨account, new⟩ := made.new rfl (settlementKey_ne pending.idempotencyKey)
      (fun other member => unused other (entries ▸ member)) rfl rfl
    refine ⟨some entry.id, posted.journal.id, saved, ?_⟩
    have own := new.found.symm.trans found
    obtain rfl := Option.some.inj own
    have listed : booked.cash.entry entry.id = some entry := by
      have absent : ready.entries.find? (·.id = entry.id) = none := by simpa [List.find?_eq_none] using new.fresh
      show booked.cash.entries.find? _ = some entry
      rw [new.entries, List.find?_append, absent, Option.none_or]
      exact List.find?_cons_of_pos (decide_eq_true rfl)
    show ((booked.cash.entry entry.id).bind fun entry => (booked.cash.account entry.cashAccountId).map (·.accountType)) = _
    rw [listed, Option.bind_some, new.accountId, CashDb.account, new.accounts, Rows.find_save]
    show ((ready.account account.id).map _).map _ = _
    rw [found, Option.map_some, Option.map_some, if_pos (by rfl)]
    exact congrArg some type

/-- What reaches finance for a checkout: its events, and callbacks of providers for its order. -/
inductive TakingsEvent where
  | orderCompleted (draws : Draws)
  | tenderRecorded (draws : Draws)
  | paymentConfirmed (draws : Draws)
  | callback (draws : Draws) (idempotencyKeyHeader : Option String) (dto : ProviderWebhookCallbackDto)

structure TakingsTrace where
  db : FinanceDb
  told : Bool := false

def callbackFor (checkout : CompletedCheckout) (dto : ProviderWebhookCallbackDto) : ProviderWebhookCallbackDto :=
  { dto with orderId := checkout.orderId }

def TakingsTrace.step (checkout : CompletedCheckout) (trace : TakingsTrace) : TakingsEvent → TakingsTrace
  | .orderCompleted draws =>
    match onSalesOrderCompleted trace.db draws checkout.orderCompleted with
    | .ok db => { db, told := true }
    | .error _ => trace
  | .tenderRecorded draws => { trace with
      db := commit trace.db (onSalesTenderRecorded trace.db draws checkout.tenderRecorded) }
  | .paymentConfirmed draws => { trace with
      db := commit trace.db (onSalesPaymentConfirmed trace.db draws checkout.paymentConfirmed) }
  | .callback draws idempotencyKeyHeader dto => { trace with
      db := commit trace.db
        ((processProviderCallback trace.db draws idempotencyKeyHeader (callbackFor checkout dto)).map (·.1)) }

def settledKey (checkout : CompletedCheckout) : String := toLowerCase (trimmed (orderKey checkout.orderId))

def ConfirmSettlementDto.Doubtful (dto : ConfirmSettlementDto) : Prop :=
  dto.ambiguousOutcome = true ∨ ∀ amounts ∈ dto.amounts.toOption, amounts.hasMismatch

instance (dto : ConfirmSettlementDto) : Decidable dto.Doubtful := inferInstanceAs (Decidable (_ ∨ ∀ _ ∈ _, _))

/-- A callback settles nothing by itself: it is answered by an earlier settlement, or leaves its tender pending under a key
that is not that of the order. -/
def Harmless (checkout : CompletedCheckout) (trace : TakingsTrace) : TakingsEvent → Prop
  | .callback _ header dto =>
    (trace.db.settlement.answered (callbackFor checkout dto).confirmation (some (header.getD dto.webhookKey))).isSome = true ∨
      (callbackFor checkout dto).confirmation.key (some (header.getD dto.webhookKey)) ≠ settledKey checkout ∧
        (callbackFor checkout dto).confirmation.Doubtful
  | .orderCompleted _ | .tenderRecorded _ | .paymentConfirmed _ => True

instance (checkout : CompletedCheckout) (trace : TakingsTrace) : ∀ event, Decidable (Harmless checkout trace event)
  | .callback _ header dto => inferInstanceAs (Decidable
      ((trace.db.settlement.answered (callbackFor checkout dto).confirmation (some (header.getD dto.webhookKey))).isSome = true ∨
        (callbackFor checkout dto).confirmation.key (some (header.getD dto.webhookKey)) ≠ settledKey checkout ∧
          (callbackFor checkout dto).confirmation.Doubtful))
  | .orderCompleted _ | .tenderRecorded _ | .paymentConfirmed _ => isTrue trivial

structure Waiting (checkout : CompletedCheckout) (cash : CashDb) (db : FinanceDb) : Prop where
  cash : db.cash = cash
  distinct : (db.settlement.settlements.map (·.id)).Nodup
  unsettled : ∀ row ∈ db.settlement.settlements, row.orderId = checkout.orderId → row.settlementStatus ≠ .settled
  unkeyed : ∀ row ∈ db.settlement.settlements, row.idempotencyKey ≠ settledKey checkout

structure SettledBy (checkout : CompletedCheckout) (wanted : DefaultAccountType) (db : FinanceDb)
    (row : PaymentSettlementEntity) : Prop where
  member : row ∈ db.settlement.settlements
  own : row.orderId = checkout.orderId
  settled : row.settlementStatus = .settled
  key : row.idempotencyKey = settledKey checkout
  amount : row.settledAmount = checkout.grandTotal
  booked : db.bookedOn row = some wanted.accountType

structure SettledOnce (checkout : CompletedCheckout) (wanted : DefaultAccountType) (db : FinanceDb) : Prop where
  distinct : (db.settlement.settlements.map (·.id)).Nodup
  row : ∃ row, SettledBy checkout wanted db row ∧ ∀ other ∈ db.settlement.settlements, other.orderId = checkout.orderId →
    other.settlementStatus = .settled → other = row

structure LeftPending (key : String) (db after : FinanceDb) : Prop where
  cash : after.cash = db.cash
  rows : after.settlement = db.settlement ∨ ∃ pending : PaymentSettlementEntity,
    RowSaved db.settlement.settlements pending after.settlement.settlements ∧
      pending.settlementStatus = .reconciliationRequired ∧ pending.idempotencyKey ≠ key ∧
      ∀ other ∈ db.settlement.settlements, other.id = pending.id → other.settlementStatus ≠ .settled

variable {key : String} {cash : CashDb} {wanted : DefaultAccountType}

theorem confirmSettlementInTx_pending (distinct : (db.settlement.settlements.map (·.id)).Nodup)
    (harmless : (db.settlement.answered dto header).isSome = true ∨ dto.key header ≠ key ∧ dto.Doubtful)
    (ran : confirmSettlementInTx db draws header dto = .ok (after, response)) : LeftPending key db after := by
  rw [confirmSettlementInTx] at ran
  cases answered : db.settlement.answered dto header with
  | some existing =>
    rw [answered] at ran
    obtain ⟨rfl, _⟩ := Prod.mk.inj (Except.ok.inj ran)
    exact ⟨rfl, .inl rfl⟩
  | none =>
    rw [answered] at ran harmless
    obtain ⟨other, doubtful⟩ := harmless.resolve_left nofun
    obtain ⟨amounts, rows, id, code, previous, parsed, same, unsettled, outcome⟩ := confirmNew_ok distinct answered ran
    have pending : dto.ambiguousOutcome = true ∨ amounts.hasMismatch :=
      doubtful.imp_right fun mismatch => mismatch amounts (by rw [parsed]; rfl)
    obtain ⟨_, left⟩ := outcome.resolve_right fun settled => settled.1 pending
    obtain ⟨saved, cash⟩ := leavePending_ok left
    have written := saveSettlement_saved saved (same ▸ distinct)
    rw [same] at written
    exact ⟨cash, .inr ⟨_, written, rfl, other, unsettled⟩⟩

theorem Waiting.pending (waiting : Waiting checkout cash db) (left : LeftPending (settledKey checkout) db after) :
    Waiting checkout cash after := by
  rcases left.rows with same | ⟨pending, saved, status, other, _⟩
  · refine ⟨left.cash.trans waiting.cash, ?_, ?_, ?_⟩
    · rw [same]
      exact waiting.distinct
    · rw [same]
      exact waiting.unsettled
    · rw [same]
      exact waiting.unkeyed
  · refine ⟨left.cash.trans waiting.cash, saved.distinct, fun row member own => ?_, fun row member => ?_⟩
    · rcases saved.only row member with rfl | old
      · rw [status]
        nofun
      · exact waiting.unsettled row old own
    · rcases saved.only row member with rfl | old
      · exact other
      · exact waiting.unkeyed row old

open FinanceDb

theorem bookedOn_same (same : after.cash = db.cash) (row : PaymentSettlementEntity) : after.bookedOn row = db.bookedOn row := by
  rw [bookedOn, bookedOn, same]

theorem SettledOnce.pending (once : SettledOnce checkout wanted db) (left : LeftPending key db after) :
    SettledOnce checkout wanted after := by
  obtain ⟨row, is, only⟩ := once.row
  rcases left.rows with same | ⟨pending, saved, status, _, unsettled⟩
  · refine ⟨same ▸ once.distinct, row, ⟨same ▸ is.member, is.own, is.settled, is.key, is.amount, ?_⟩, same ▸ only⟩
    rw [bookedOn_same left.cash, is.booked]
  · refine ⟨saved.distinct, row, ⟨?_, is.own, is.settled, is.key, is.amount, ?_⟩, fun other member own settled => ?_⟩
    · exact saved.kept row is.member fun same => unsettled row is.member same is.settled
    · rw [bookedOn_same left.cash, is.booked]
    · rcases saved.only other member with rfl | old
      · cases status.symm.trans settled
      · exact only other old own settled

def orderConfirmation (checkout : CompletedCheckout) : ConfirmSettlementDto :=
  { orderTender checkout.orderCompleted (toUpperCase (resolvePrimaryPaymentMethod checkout.tenderSummary)) checkout.grandTotal with
    idempotencyKey := some (orderKey checkout.orderId) }

theorem settledMethod_account (method : String) : ∃ wanted, (settledMethod method).accountType = some wanted := by
  unfold settledMethod
  split
  all_goals exact ⟨_, rfl⟩

theorem onSalesOrderCompleted_ok (executed : onSalesOrderCompleted db draws checkout.orderCompleted = .ok after) :
    settledAs checkout = none ∧ after = db ∨ ∃ wanted response, settledAs checkout = some wanted ∧ 0 < checkout.grandTotal ∧
      (orderConfirmation checkout).paymentMethod.accountType = some wanted ∧
      confirmSettlementInTx db draws (some (orderKey checkout.orderId)) (orderConfirmation checkout) = .ok (after, response) := by
  change (if toUpperCase (resolvePrimaryPaymentMethod checkout.tenderSummary) = "ON_ACCOUNT" ∨
      toUpperCase (resolvePrimaryPaymentMethod checkout.tenderSummary) = "COD" then (Except.ok db : Except Failure FinanceDb)
    else do
      let cents ← parseVnd (some checkout.grandTotal) { allowZero := true, field := "totalAmount" }
      let tender := orderTender checkout.orderCompleted (toUpperCase (resolvePrimaryPaymentMethod checkout.tenderSummary)) cents
      if cents ≤ 0 then return db
      else confirmTold db draws (orderKey checkout.orderId) tender) = .ok after at executed
  split at executed
  · next skipped =>
    refine .inl ⟨?_, (Except.ok.inj executed).symm⟩
    exact if_pos (skipped.imp_right .inl)
  · next kept =>
    rw [bind_eq_ok] at executed
    obtain ⟨cents, parsed, executed⟩ := executed
    rw [parseVnd_eq_ok] at parsed
    obtain rfl : checkout.grandTotal = cents := Option.some.inj parsed.1
    split at executed
    · next free =>
      refine .inl ⟨?_, (pure_eq_ok.mp executed).symm⟩
      exact if_pos (.inr (.inr free))
    · next due =>
      rw [confirmTold, bind_eq_ok] at executed
      obtain ⟨⟨confirmed, response⟩, ran, same⟩ := executed
      obtain rfl := pure_eq_ok.mp same
      have goes : settledAs checkout =
          (settledMethod (toUpperCase (resolvePrimaryPaymentMethod checkout.tenderSummary))).accountType := by
        rw [settledAs, if_neg]
        rintro (onAccount | cod | free)
        · exact kept (.inl onAccount)
        · exact kept (.inr cod)
        · exact due free
      obtain ⟨wanted, kind⟩ := settledMethod_account (toUpperCase (resolvePrimaryPaymentMethod checkout.tenderSummary))
      exact .inr ⟨wanted, response, goes.trans kind, not_le.mp due, kind, ran⟩

theorem orderConfirmation_amounts {amounts} (due : 0 < checkout.grandTotal)
    (parsed : (orderConfirmation checkout).amounts = .ok amounts) :
    amounts = ⟨checkout.grandTotal, checkout.grandTotal, checkout.grandTotal⟩ := by
  have apart : checkout.grandTotal ≠ 0 := ne_of_gt due
  simp only [ConfirmSettlementDto.amounts, eq_ok, parseVnd_eq_ok] at parsed
  obtain ⟨requested, ⟨first, _⟩, confirmed, ⟨second, _⟩, settled, ⟨third, _⟩, rfl⟩ := parsed
  cases first
  simp only [orderConfirmation, orderTender, Option.filter_some, decide_eq_true apart, if_true, Option.getD_some] at second third ⊢
  rw [← Option.some.inj second, ← Option.some.inj third]

theorem SettledOnce.again (once : SettledOnce checkout wanted db)
    (executed : onSalesOrderCompleted db draws checkout.orderCompleted = .ok after) : after = db := by
  rcases onSalesOrderCompleted_ok executed with ⟨_, same⟩ | ⟨_, response, _, _, _, ran⟩
  · exact same
  · obtain ⟨row, is, _⟩ := once.row
    have answered : ∃ existing, db.settlement.answered (orderConfirmation checkout) (some (orderKey checkout.orderId)) =
        some existing := by
      have first : (db.settlement.settlements.find? fun other =>
          other.idempotencyKey = (orderConfirmation checkout).key (some (orderKey checkout.orderId))).isSome = true :=
        List.find?_isSome.mpr ⟨row, is.member, decide_eq_true is.key⟩
      obtain ⟨existing, found⟩ := Option.isSome_iff_exists.mp first
      rw [SettlementDb.answered, found]
      exact ⟨existing, rfl⟩
    obtain ⟨existing, found⟩ := answered
    rw [confirmSettlementInTx, found] at ran
    exact (Prod.mk.inj (Except.ok.inj ran)).1.symm

theorem Waiting.completed (waiting : Waiting checkout cash db) (typed : cash.Typed)
    (unused : ∀ entry ∈ cash.entries, entry.idempotencyKey ≠ some s!"stl-cb:{settledKey checkout}")
    (executed : onSalesOrderCompleted db draws checkout.orderCompleted = .ok after) :
    settledAs checkout = none ∧ after = db ∨ ∃ wanted, settledAs checkout = some wanted ∧ SettledOnce checkout wanted after := by
  rcases onSalesOrderCompleted_ok executed with skipped | ⟨wanted, response, goes, due, method, ran⟩
  · exact .inl skipped
  · refine .inr ⟨wanted, goes, ?_⟩
    have unanswered : db.settlement.answered (orderConfirmation checkout) (some (orderKey checkout.orderId)) = none := by
      have key : db.settlement.settlements.find? (fun other =>
          other.idempotencyKey = (orderConfirmation checkout).key (some (orderKey checkout.orderId))) = none :=
        List.find?_eq_none.mpr fun row member same => waiting.unkeyed row member (of_decide_eq_true same)
      have tender : (db.settlement.byTender (orderConfirmation checkout).orderId (orderConfirmation checkout).tender).filter
          (·.settlementStatus = .settled) = none := by
        apply Option.filter_eq_none_iff.mpr
        intro row found settled
        have own := (of_decide_eq_true (List.find?_some (p := fun other => decide (_ ∧ _)) found)).1
        exact waiting.unsettled row (List.mem_of_find?_eq_some found) own (of_decide_eq_true settled)
      rw [SettlementDb.answered, key, tender]
      rfl
    rw [confirmSettlementInTx, unanswered] at ran
    obtain ⟨amounts, rows, id, code, previous, parsed, same, unsettled, outcome⟩ := confirmNew_ok waiting.distinct unanswered ran
    obtain rfl := orderConfirmation_amounts due parsed
    have certain : ¬((orderConfirmation checkout).ambiguousOutcome = true ∨
        SettlementAmounts.hasMismatch ⟨checkout.grandTotal, checkout.grandTotal, checkout.grandTotal⟩) := by
      rintro (ambiguous | mismatch | free)
      · cases ambiguous
      · exact mismatch rfl
      · exact absurd due (not_lt.mpr free)
    obtain ⟨_, settled⟩ := outcome.resolve_left fun left => certain left.1
    generalize made : (orderConfirmation checkout).pending (some (orderKey checkout.orderId)) id code
      ⟨checkout.grandTotal, checkout.grandTotal, checkout.grandTotal⟩ previous = pending at settled
    have key : pending.idempotencyKey = settledKey checkout := by
      rw [← made]
      rfl
    have own : pending.orderId = checkout.orderId := by
      rw [← made]
      rfl
    have paid : pending.paymentMethod.accountType = some wanted := by
      rw [← made]
      exact method
    have free : ∀ entry ∈ db.cash.entries, entry.idempotencyKey ≠ some s!"stl-cb:{pending.idempotencyKey}" := by
      rw [waiting.cash, key]
      exact unused
    obtain ⟨voucherId, journalId, saved, booked⟩ := settle_ok (waiting.cash ▸ typed) paid free settled
    have written := saveSettlement_saved saved (same ▸ waiting.distinct)
    rw [same] at written
    refine ⟨written.distinct, _, ⟨written.member, own, rfl, key, rfl, booked⟩, fun other member ofOrder is => ?_⟩
    exact (written.only other member).resolve_right fun old => waiting.unsettled other old ofOrder is

/-- No settlement of the order was made, its key was not used, and the accounts are in order. -/
structure Unsettled (checkout : CompletedCheckout) (db : FinanceDb) : Prop where
  typed : db.cash.Typed
  distinct : (db.settlement.settlements.map (·.id)).Nodup
  unsettled : ∀ row ∈ db.settlement.settlements, row.orderId ≠ checkout.orderId ∧ row.idempotencyKey ≠ settledKey checkout
  unused : ∀ entry ∈ db.cash.entries, entry.idempotencyKey ≠ some s!"stl-cb:{settledKey checkout}"

/-- Where an order stands: settled once when it was told and is settled at all. -/
structure Standing (checkout : CompletedCheckout) (cash : CashDb) (trace : TakingsTrace) : Prop where
  waiting : trace.told = false ∨ settledAs checkout = none → Waiting checkout cash trace.db
  settled : trace.told = true → ∀ wanted, settledAs checkout = some wanted → SettledOnce checkout wanted trace.db

theorem Standing.pending {trace} (standing : Standing checkout cash trace)
    (left : LeftPending (settledKey checkout) trace.db after) : Standing checkout cash { trace with db := after } :=
  ⟨fun open_ => (standing.waiting open_).pending left, fun told wanted goes => (standing.settled told wanted goes).pending left⟩

theorem Standing.step {trace} (standing : Standing checkout cash trace) (typed : cash.Typed)
    (unused : ∀ entry ∈ cash.entries, entry.idempotencyKey ≠ some s!"stl-cb:{settledKey checkout}") {event}
    (harmless : Harmless checkout trace event) : Standing checkout cash (trace.step checkout event) := by
  cases event with
  | orderCompleted draws =>
    rw [TakingsTrace.step]
    split
    · next after ran =>
      cases goes : settledAs checkout with
      | none =>
        have waiting := standing.waiting (.inr goes)
        rcases waiting.completed typed unused ran with ⟨_, rfl⟩ | ⟨wanted, other, _⟩
        · exact ⟨fun _ => waiting, fun _ wanted other => by rw [goes] at other; cases other⟩
        · rw [goes] at other
          cases other
      | some wanted =>
        refine ⟨fun open_ => by simp [goes] at open_, fun _ same other => ?_⟩
        cases goes.symm.trans other
        cases told : trace.told with
        | true =>
          have once := standing.settled told wanted goes
          obtain rfl := once.again ran
          exact once
        | false =>
          rcases (standing.waiting (.inl told)).completed typed unused ran with ⟨none, _⟩ | ⟨_, same, once⟩
          · rw [goes] at none
            cases none
          · cases goes.symm.trans same
            exact once
    · exact standing
  | tenderRecorded draws => exact standing
  | paymentConfirmed draws => exact standing
  | callback draws header dto =>
    refine commit_preserves (fun db => Standing checkout cash { trace with db }) standing fun after ran => ?_
    cases processed : processProviderCallback trace.db draws header (callbackFor checkout dto) with
    | error _ =>
      rw [processed] at ran
      cases ran
    | ok result =>
      rw [processed] at ran
      rw [← Except.ok.inj ran]
      refine standing.pending (confirmSettlementInTx_pending ?_ harmless processed)
      cases told : trace.told with
      | false => exact (standing.waiting (.inl told)).distinct
      | true =>
        cases goes : settledAs checkout with
        | none => exact (standing.waiting (.inr goes)).distinct
        | some wanted => exact (standing.settled told wanted goes).distinct

def FinanceDb.settledInto (db : FinanceDb) (orderId : Uuid) (into : CashAccountType → Bool) : Int :=
  ((db.settlement.settlements.filter fun row =>
    row.orderId = orderId ∧ row.settlementStatus = .settled ∧ (db.bookedOn row).any into).map (·.settledAmount)).sum

/-- What was settled for an order into cash and bank accounts is what is in hand of it, and its drawers have the cash of it. -/
def TakingsAgree (checkout : CompletedCheckout) (db : FinanceDb) : Prop :=
  (db.settledInto checkout.orderId fun _ => true, db.settledInto checkout.orderId (· = .cashDrawer)) =
    (checkout.takings, checkout.cashTakings)

theorem Waiting.amounts (waiting : Waiting checkout cash db) (into : CashAccountType → Bool) :
    db.settledInto checkout.orderId into = 0 := by
  rw [settledInto, List.filter_eq_nil_iff.mpr]
  · rfl
  · intro row member both
    obtain ⟨own, settled, _⟩ := of_decide_eq_true both
    exact waiting.unsettled row member own settled

theorem SettledOnce.amounts (once : SettledOnce checkout wanted db) (into : CashAccountType → Bool) :
    db.settledInto checkout.orderId into = if into wanted.accountType = true then checkout.grandTotal else 0 := by
  obtain ⟨row, is, only⟩ := once.row
  rw [settledInto]
  by_cases inside : into wanted.accountType = true
  · have rows : db.settlement.settlements.filter (fun other => other.orderId = checkout.orderId ∧
        other.settlementStatus = .settled ∧ (db.bookedOn other).any into) = [row] := by
      refine Rows.filter_only once.distinct.of_map is.member (decide_eq_true ⟨is.own, is.settled, ?_⟩) fun other listed both => ?_
      · rw [is.booked]
        exact inside
      · obtain ⟨own, settled, _⟩ := of_decide_eq_true both
        exact only other listed own settled
    rw [rows, if_pos inside, List.map_singleton, List.sum_singleton, is.amount]
  · rw [if_neg inside, List.filter_eq_nil_iff.mpr]
    · rfl
    · intro other member both
      obtain ⟨own, settled, booked⟩ := of_decide_eq_true both
      rw [only other member own settled, is.booked] at booked
      exact inside booked

open TakingsTrace

/-- Whatever reaches finance for an order while no callback settles it anew, once its completion is taken note of, what is
settled for it agrees with its tenders exactly when they fit the one method that it goes by. -/
theorem takings_agree_iff (checkout : CompletedCheckout) {db : FinanceDb} (start : Unsettled checkout db)
    {events : List TakingsEvent} (harmless : Run.Meets (step checkout) (Harmless checkout) { db } events)
    (told : (Run.after (step checkout) { db } events).told = true) :
    TakingsAgree checkout (Run.after (step checkout) { db } events).db ↔ checkout.Fits := by
  have waiting : Waiting checkout db.cash db := ⟨rfl, start.distinct, fun row member own =>
    absurd own (start.unsettled row member).1, fun row member => (start.unsettled row member).2⟩
  have standing := Run.invariant_of_meets (Standing checkout db.cash)
    (fun _ _ condition standing => standing.step start.typed start.unused condition) harmless ⟨fun _ => waiting, nofun⟩
  generalize Run.after (step checkout) { db } events = trace at standing told ⊢
  have settled : (trace.db.settledInto checkout.orderId fun _ => true,
      trace.db.settledInto checkout.orderId (· = .cashDrawer)) = settledAmounts checkout := by
    rw [settledAmounts]
    cases goes : settledAs checkout with
    | none =>
      have nothing := standing.waiting (.inr goes)
      rw [nothing.amounts, nothing.amounts]
    | some wanted =>
      have once := standing.settled told wanted goes
      rw [once.amounts, once.amounts]
      cases wanted <;> rfl
  rw [← settledAmounts_iff, TakingsAgree, settled]

private theorem unsettled_empty (checkout : CompletedCheckout) : Unsettled checkout {} :=
  ⟨⟨List.nodup_nil, fun _ member => absurd member List.not_mem_nil⟩, List.nodup_nil,
    fun _ member => absurd member List.not_mem_nil, fun _ member => absurd member List.not_mem_nil⟩

private def byCard : CompletedCheckout where
  orderId := 9
  branchId := 2
  paymentMethod := some .card
  grandTotal := 100000
  tenderSummary := {
    tenders := [{ method := .card, amount := 100000, tenderedCash := 0, changeDue := 0, status := .confirmed, externalRef := some "POS-CARD" }]
    totalAllocated := 100000, totalConfirmed := 100000, totalCashSales := 0, totalChangeDue := 0, allConfirmed := true
    paymentStatus := .paid }
  validated := rfl

private def undecided : TakingsEvent :=
  .callback { document := 4, issue := 5 } none
    { provider := "VNPAY", externalTxId := "T1", orderId := 9, confirmedAmount := 100000, providerStatus := some .pending }

private def completion : TakingsEvent := .orderCompleted { account := 1, category := 1, journal := 1, entry := 1, document := 1 }

/-- The events of an order come twice, and a provider has nothing to say yet. -/
theorem card_payment_agrees :
    TakingsAgree byCard (Run.after (step byCard) { db := {} } [undecided, completion, completion, .paymentConfirmed {}]).db := by
  refine (takings_agree_iff byCard (unsettled_empty byCard) ?_ ?_).mpr (.inr (.inr ⟨_, rfl, .inr (.inr ⟨.inr rfl, rfl⟩)⟩))
  · decide +kernel
  · decide +kernel

private def inParts : CompletedCheckout where
  orderId := 9
  branchId := 2
  tenders := [{ method := .cash, amount := 60000 }, { method := .bankTransfer, amount := 40000, verified := some true }]
  grandTotal := 100000
  tenderSummary := {
    tenders := [{ method := .cash, amount := 60000, tenderedCash := 60000, changeDue := 0, status := .confirmed, externalRef := none },
      { method := .bankTransfer, amount := 40000, tenderedCash := 0, changeDue := 0, status := .confirmed
        externalRef := some "POS-BANK_TRANSFER" }]
    totalAllocated := 100000, totalConfirmed := 100000, totalCashSales := 60000, totalChangeDue := 0, allConfirmed := true
    paymentStatus := .paid }
  validated := rfl

/-- The transfer is settled into the drawer with the cash. -/
theorem transfer_into_drawer : ¬∀ (checkout : CompletedCheckout) (events : List TakingsEvent),
    (Run.after (step checkout) { db := {} } events).told = true →
      TakingsAgree checkout (Run.after (step checkout) { db := {} } events).db := by
  intro claim
  have drawer := congrArg Prod.snd (claim inParts [completion] (by decide +kernel))
  exact absurd drawer (by decide +kernel)

end Finance
