import RetailApi.Base.Run
import RetailApi.Proofs.CodLines

/-! Cash on delivery over whole runs: what carriers owe in the ledger is what the receivables that are not
reconciled expect, as long as every payout clears each of its shipments once. -/

namespace Finance

open Transaction JsNumber JsString GlAccountCodes CodDb List Rows

theorem CodDb.settles_amounts {db : CodDb} {carrierCode line}
    (settles : db.settles carrierCode line = true) : 0 < line.reportedCodAmount ∧ 0 ≤ line.carrierFeeAmount ∧
      line.netPayoutAmount = line.reportedCodAmount - line.carrierFeeAmount := by
  obtain ⟨receivable, _, meets⟩ := (Option.any_eq_true _ _).mp settles
  unfold CodStatementLine.meets at meets
  split at meets
  · next result evaluated =>
    obtain ⟨positive, fee, exact_⟩ := evaluateCodSettlementLine_ok evaluated
    obtain ⟨gross, net⟩ := exact_ (of_decide_eq_true meets)
    simp only [CodStatementLine.input] at positive fee gross net
    exact ⟨by omega, fee, by omega⟩
  · cases meets

theorem count_sums (lines : List CodStatementLine) (start : CodMatched) :
    lines.foldl CodMatched.count start = {
      expected := (lines.map (·.reportedCodAmount)).foldl add start.expected
      fee := (lines.map (·.carrierFeeAmount)).foldl add start.fee
      net := (lines.map (·.netPayoutAmount)).foldl add start.net } := by
  induction lines generalizing start with
  | nil => rfl
  | cons line lines inner => exact inner _

theorem foldl_add_cases (values : List Int) (each : ∀ value ∈ values, 0 ≤ value) :
    values.foldl add 0 = values.sum ∨ maxSafeInteger < values.foldl add 0 := by
  by_cases small : values.foldl add 0 ≤ maxSafeInteger
  · rw [foldl_add_exact each le_rfl small, Int.zero_add]
    exact .inl rfl
  · exact .inr (by omega)

theorem foldedCarrier : toUpperCase (trimmed codCarrierReceivable) = codCarrierReceivable := folded_code _ (by decide)

theorem codReceivableJournal_net (id : Uuid) (key : String) (expected : Int) :
    inputNetOn codCarrierReceivable (codReceivableJournal id key expected).lines = expected := by
  have revenue : toUpperCase (trimmed salesRevenueClearing) ≠ codCarrierReceivable := by
    rw [folded_code salesRevenueClearing (by decide)]
    decide
  simp only [codReceivableJournal, inputNetOn_cons, inputNetOn_nil, foldedCarrier, revenue, ↓reduceIte, Option.getD_some,
    Option.getD_none]
  omega

theorem codJournal_net {gl} (code : gl = cashOnHand ∨ gl = cashAtBank) (id : Uuid) (progress : CodProgress) :
    inputNetOn codCarrierReceivable (codJournal id gl progress).lines = -progress.matchedExpected := by
  have bank : toUpperCase (trimmed gl) ≠ codCarrierReceivable := by
    rcases code with rfl | rfl
    · rw [folded_code cashOnHand (by decide)]
      decide
    · rw [folded_code cashAtBank (by decide)]
      decide
  have fee : toUpperCase (trimmed carrierFeeExpense) ≠ codCarrierReceivable := by
    rw [folded_code carrierFeeExpense (by decide)]
    decide
  unfold codJournal
  by_cases charged : 0 < progress.matchedFee
  · simp only [charged, cons_append, nil_append, inputNetOn_cons, inputNetOn_nil, foldedCarrier, bank, fee,
      ↓reduceIte, Option.getD_some, Option.getD_none]
    omega
  · simp only [charged, cons_append, nil_append, inputNetOn_cons, inputNetOn_nil, foldedCarrier, bank,
      ↓reduceIte, Option.getD_some, Option.getD_none]
    omega

variable {progress : CodProgress} {draws : Draws} {header : Option String} {cashAccountId : Option Uuid}
  {batch : CodSettlementBatchEntity} {booking : CodBooking} {taken : List Uuid}

theorem codJournal_sums {id gl validated}
    (accepted : validateBalancedJournalLines (codJournal id gl progress).lines = .ok validated)
    {lines : List CodStatementLine} (matched : progress.matched = lines.foldl CodMatched.count ⟨0, 0, 0⟩)
    (each : ∀ line ∈ lines, 0 < line.reportedCodAmount ∧ 0 ≤ line.carrierFeeAmount ∧
      line.netPayoutAmount = line.reportedCodAmount - line.carrierFeeAmount) :
    progress.matchedExpected = (lines.map (·.reportedCodAmount)).sum ∧
      progress.matchedNet = (lines.map (·.netPayoutAmount)).sum ∧ 0 < progress.matchedNet := by
  rw [count_sums] at matched
  obtain ⟨expected, fee, -⟩ := CodMatched.mk.injEq .. ▸ matched
  have expectedCases := foldl_add_cases (lines.map (·.reportedCodAmount)) (by
    rw [forall_mem_map]
    intro line member
    have positive := (each line member).1
    omega)
  have feeCases := foldl_add_cases (lines.map (·.carrierFeeAmount)) (by
    rw [forall_mem_map]
    intro line member
    exact (each line member).2.1)
  have nets : (lines.map (·.netPayoutAmount)).sum =
      (lines.map (·.reportedCodAmount)).sum - (lines.map (·.carrierFeeAmount)).sum := by
    clear expected fee expectedCases feeCases matched accepted
    induction lines with
    | nil => rfl
    | cons line lines inner =>
      have own := (each line (.head _)).2.2
      have rest := inner fun other member => each other (.tail _ member)
      simp only [map_cons, sum_cons]
      omega
  have payout := validated_input accepted { accountCode := gl, debitAmount := some progress.matchedNet } (by simp [codJournal])
  have credit := validated_input accepted {
    accountCode := codCarrierReceivable, creditAmount := some progress.matchedExpected } (by simp [codJournal])
  have balanced := validated.balanced.2
  rw [debits_validated accepted, credits_validated accepted] at balanced
  simp only [Option.getD_some, Option.getD_none, IsSafe] at payout credit
  change progress.matchedExpected = (lines.map (·.reportedCodAmount)).foldl add 0 at expected
  change progress.matchedFee = (lines.map (·.carrierFeeAmount)).foldl add 0 at fee
  by_cases charged : 0 < progress.matchedFee
  · have cost := validated_input accepted { accountCode := carrierFeeExpense, debitAmount := some progress.matchedFee }
      (by simp [codJournal, charged])
    simp only [codJournal, charged, ↓reduceIte, map_append, map_cons, map_nil, sum_append, sum_cons,
      sum_nil, Option.getD_some, Option.getD_none] at balanced
    omega
  · simp only [codJournal, charged, ↓reduceIte, map_append, map_cons, map_nil, sum_append, sum_cons,
      sum_nil, Option.getD_some, Option.getD_none] at balanced
    have feesNonneg : 0 ≤ (lines.map (·.carrierFeeAmount)).sum := by
      refine sum_nonneg (forall_mem_map.mpr fun line member => ?_)
      exact (each line member).2.1
    omega

structure Recognized (db : FinanceDb) (new : CodReceivableEntity) (ledger : JournalDb) (cod : CodDb) : Prop where
  fresh : ∀ other ∈ db.cod.receivables, other.id ≠ new.id
  status : new.status ≠ .reconciled
  posts : ∃ key, PostsFor db (codReceivableJournal new.id key new.expectedCodAmount) ledger
  receivables : cod.receivables = db.cod.receivables ++ [new]
  batches : cod.batches = db.cod.batches

theorem createCodReceivableInTx_ok {db after dto response}
    (executed : createCodReceivableInTx db draws header dto = .ok (after, response)) :
    after = db ∨ ∃ new ledger cod, Recognized db new ledger cod ∧ after = { db with ledger, cod } := by
  unfold createCodReceivableInTx at executed
  split at executed
  · cases executed
    exact .inl rfl
  · simp only [recognizeCod, eq_ok, parseVnd_eq_ok, Prod.mk.injEq] at executed
    obtain ⟨expected, _, ⟨ledger, posted⟩, ran, rfl, _⟩ := executed
    obtain ⟨validated, accepted, posting⟩ := postJournalInTx_ok ran
    generalize picked : newId (db.cod.receivables.map (·.id)) draws.document = id at *
    have fresh : ∀ other ∈ db.cod.receivables, other.id ≠ id := by
      intro other member
      rw [← picked]
      exact Fresh.ne_pick _ draws.document member
    have new : Recognized db (dto.receivable id (documentCode "COD" (db.cod.receivablesIssued + 1)) expected posted.journal.id)
        ledger { db.cod with
          receivables := db.cod.receivables ++
            [dto.receivable id (documentCode "COD" (db.cod.receivablesIssued + 1)) expected posted.journal.id]
          receivablesIssued := db.cod.receivablesIssued + 1 } := by
      refine ⟨fresh, ?_, ⟨dto.key header, validated, posted, accepted, posting⟩, rfl, rfl⟩
      rintro ⟨⟩
    exact .inr ⟨_, _, _, new, rfl⟩

/-- What booking the payout of a batch does: nothing when no line matched or it is booked already. -/
inductive PayoutBooked (db : FinanceDb) (cashAccountId : Option Uuid) (batch : CodSettlementBatchEntity)
    (progress : CodProgress) : FinanceDb → CodBooking → Prop
  | nothing (booked : progress.matchedExpected ≤ 0 ∨ batch.journalId ≠ none) :
      PayoutBooked db cashAccountId batch progress db
        { journalId := batch.journalId, cashbookEntryId := batch.cashbookEntryId }
  | booked {cash account ledger validated posted after entryId} (unbooked : batch.journalId = none)
      (chosen : AccountChosen db.cash cashAccountId (some .bank) cash account)
      (accepted : validateBalancedJournalLines
        (codJournal batch.id ((account.map (·.glAccountCode)).getD cashAtBank) progress).lines = .ok validated)
      (posting : Posting db.ledger (codJournal batch.id ((account.map (·.glAccountCode)).getD cashAtBank) progress) validated
        ledger posted)
      (linked : VoucherLinked { db with ledger, cash } (codVoucher batch progress.matchedNet posted.journal.id)
        (payoutAccount account progress.matchedNet) after entryId) :
      PayoutBooked db cashAccountId batch progress after
        { journalId := some posted.journal.id, cashbookEntryId := entryId <|> batch.cashbookEntryId }

theorem bookPayout_ok {db after} (executed : bookPayout db draws cashAccountId batch progress = .ok (after, booking)) :
    PayoutBooked db (cashAccountId <|> batch.cashAccountId) batch progress after booking := by
  unfold bookPayout at executed
  split at executed
  · next due =>
    simp only [eq_ok, Prod.mk.injEq] at executed
    obtain ⟨⟨cash, account⟩, chosen, ⟨ledger, posted⟩, ran, ⟨_, entryId⟩, linked, rfl, rfl⟩ := executed
    obtain ⟨validated, accepted, posting⟩ := postJournalInTx_ok ran
    exact .booked due.2 (namedAccount_ok chosen) accepted posting (linkedVoucher_ok linked)
  · next due =>
    cases executed
    refine .nothing ?_
    rw [Classical.not_and_iff_not_or_not, Int.not_lt] at due
    exact due

def CashDb.codReceipts (db : CashDb) : Int :=
  ((db.entries.filter fun entry => entry.status = .posted ∧ entry.direction = .receipt ∧
    entry.sourceType = some "COD_SETTLEMENT_BATCH").map (·.amount)).sum

def CashDb.Known (db : CashDb) (cashAccountId : Option Uuid) : Prop := ∀ id ∈ cashAccountId, db.account id ≠ none

instance (db : CashDb) (cashAccountId : Option Uuid) : Decidable (db.Known cashAccountId) :=
  inferInstanceAs (Decidable (∀ _ ∈ cashAccountId, _))

theorem codJournal_source (id : Uuid) (gl : String) (progress : CodProgress) :
    (codJournal id gl progress).source = ("COD_SETTLEMENT_BATCH", toString id) := by
  have folded : toUpperCase (trimmed "COD_SETTLEMENT_BATCH") = "COD_SETTLEMENT_BATCH" := by decide +kernel
  simp only [PostJournalInTxInput.source, codJournal, folded, trimmed_toString]

theorem payoutKey_ne (id : Uuid) : s!"codb-cb:{id}" ≠ "" := by
  rw [Ne, String.append_eq_empty_iff]
  rintro ⟨named, _⟩
  exact absurd named (by decide)

theorem payoutKey_injective {first second : Uuid} (same : s!"codb-cb:{first}" = s!"codb-cb:{second}") : first = second :=
  toString_injective (String.append_right_inj "codb-cb:" |>.mp same)

/-- What booking the payout of a batch leaves behind, for the lines that matched. -/
structure PaidOut (db : FinanceDb) (batch : CodSettlementBatchEntity) (lines : List CodStatementLine) (after : FinanceDb)
    (journalId : Option Uuid) : Prop where
  rest : after = { db with ledger := after.ledger, cash := after.cash }
  codes : after.cash.Codes
  balance : after.ledger.balance codCarrierReceivable =
    db.ledger.balance codCarrierReceivable - (lines.map (·.reportedCodAmount)).sum
  receipts : after.cash.codReceipts = db.cash.codReceipts + (lines.map (·.netPayoutAmount)).sum
  kept : batch.journalId ≠ none → journalId ≠ none
  posted : ∀ journal ∈ after.ledger.journals, journal ∈ db.ledger.journals ∨
    journalId ≠ none ∧ journal.source = ("COD_SETTLEMENT_BATCH", toString batch.id)
  booked : ∀ entry ∈ after.cash.entries, entry ∈ db.cash.entries ∨
    journalId ≠ none ∧ entry.idempotencyKey = some s!"codb-cb:{batch.id}"

structure Unbooked (db : FinanceDb) (batchId : Uuid) : Prop where
  journals : ∀ journal ∈ db.ledger.journals, journal.source ≠ ("COD_SETTLEMENT_BATCH", toString batchId)
  entries : ∀ entry ∈ db.cash.entries, entry.idempotencyKey ≠ some s!"codb-cb:{batchId}"

theorem PayoutBooked.paidOut {db after} {lines : List CodStatementLine}
    (booked : PayoutBooked db cashAccountId batch progress after booking) (codes : db.cash.Codes)
    (unbooked : batch.journalId = none → Unbooked db batch.id)
    (matched : batch.journalId = none → progress.matched = lines.foldl CodMatched.count ⟨0, 0, 0⟩)
    (settled : batch.journalId ≠ none → lines = [])
    (each : ∀ line ∈ lines, 0 < line.reportedCodAmount ∧ 0 ≤ line.carrierFeeAmount ∧
      line.netPayoutAmount = line.reportedCodAmount - line.carrierFeeAmount)
    (known : lines ≠ [] → db.cash.Known cashAccountId) : PaidOut db batch lines after booking.journalId := by
  cases booked with
  | nothing done =>
    have nothing : lines = [] := by
      by_cases open_ : batch.journalId = none
      · have expected := congrArg CodMatched.expected (matched open_)
        rw [count_sums] at expected
        have cases_ := foldl_add_cases (lines.map (·.reportedCodAmount)) (by
          rw [forall_mem_map]
          intro line member
          have positive := (each line member).1
          omega)
        change progress.matchedExpected = (lines.map (·.reportedCodAmount)).foldl add 0 at expected
        have small : progress.matchedExpected ≤ 0 := done.resolve_right (absurd open_)
        cases lines with
        | nil => rfl
        | cons line rest =>
          have first := (each line (.head _)).1
          have others : 0 ≤ (rest.map (·.reportedCodAmount)).sum := by
            refine sum_nonneg (forall_mem_map.mpr fun other member => ?_)
            have positive := (each other (.tail _ member)).1
            omega
          rw [← expected, map_cons, sum_cons] at cases_
          unfold maxSafeInteger at cases_
          omega
      · exact settled open_
    rw [nothing]
    refine ⟨rfl, codes, (Int.sub_zero _).symm, (Int.add_zero _).symm, id, ?_, ?_⟩
    · exact fun journal member => .inl member
    · exact fun entry member => .inl member
  | @booked cash account ledger validated posted _ entryId open_ chosen accepted posting linked =>
    obtain ⟨expected, net, positive⟩ := codJournal_sums accepted (matched open_) each
    have some_ : lines ≠ [] := by
      rintro rfl
      rw [net] at positive
      exact absurd positive (lt_irrefl 0)
    obtain ⟨unposted, keyless⟩ := unbooked open_
    cases chosen with
    | unneeded cashless => cases cashless
    | unknown named absent => exact absurd absent (known some_ _ named)
    | @ready _ account ready =>
      obtain ⟨readyCodes, code⟩ := ready.codes codes
      have entries : cash.entries = db.cash.entries := by
        cases ready with
        | there => rfl
        | opened => rfl
      have source := codJournal_source batch.id account.glAccountCode progress
      obtain ⟨moved, _⟩ := posts_new ⟨validated, posted, accepted, posting⟩
        (fun journal member same => absurd (same.trans source) (unposted journal member)) codCarrierReceivable
      rw [payoutAccount, Option.filter_some, if_pos (decide_eq_true positive)] at linked
      cases linked with
      | @made _ _ entry made =>
        have same : after.ledger = ledger := made.ledger nofun
        have rest := made.rest
        obtain ⟨drawer, new⟩ := made.new rfl (payoutKey_ne batch.id)
          (fun other member => keyless other (entries ▸ member)) rfl rfl
        have receipt : entry.status = .posted ∧ entry.direction = .receipt ∧
            entry.sourceType = some "COD_SETTLEMENT_BATCH" := ⟨new.status, new.direction, new.sourceType⟩
        refine ⟨?_, made.codes readyCodes, ?_, ?_, nofun, ?_, ?_⟩
        · exact rest
        · rw [same]
          refine moved.trans ?_
          show _ + inputNetOn _ (codJournal batch.id account.glAccountCode progress).lines = _
          rw [codJournal_net code, expected]
          exact Int.sub_eq_add_neg.symm
        · have amount : entry.amount = progress.matchedNet := new.amount
          have appended := new.entries
          rw [CashDb.codReceipts, appended, entries, filter_append, filter_cons_of_pos (by exact decide_eq_true receipt),
            filter_nil, map_append, sum_append, map_singleton, sum_singleton, amount, net]
          rfl
        · intro journal member
          rw [same] at member
          rcases posts_source ⟨validated, posted, accepted, posting⟩ member with old | new
          · exact .inl old
          · exact .inr ⟨nofun, new.trans source⟩
        · rw [new.entries]
          exact forall_concat (fun _ old => .inl (entries ▸ old)) (.inr ⟨nofun, new.key⟩)

inductive BatchReconciled (db : FinanceDb) (cashAccountId : Option Uuid) (batch : CodSettlementBatchEntity) : FinanceDb → Prop
  | intro {draws progress booked booking}
      (passed : passLines db draws batch = .ok progress)
      (books : PayoutBooked { db with cod := progress.cod, reconciliation := progress.reconciliation } cashAccountId batch
        progress booked booking) :
      BatchReconciled db cashAccountId batch
        { booked with cod := { booked.cod with
          batches := save (·.id) (batch.reconcile progress booking) booked.cod.batches } }

def CodSettlementBatchEntity.closed (batch : CodSettlementBatchEntity) : Bool :=
  batch.status = .reconciled ∧ batch.journalId ≠ none

theorem reconcileBatchInTx_ok {db after batchId}
    (executed : reconcileBatchInTx db draws batchId cashAccountId = .ok (after, batch)) :
    after = db ∨ ∃ stored, db.cod.batches.find? (·.id = batchId) = some stored ∧ stored.closed = false ∧
      BatchReconciled db (cashAccountId <|> stored.cashAccountId) stored after := by
  simp only [reconcileBatchInTx, eq_ok] at executed
  obtain ⟨stored, found, ran⟩ := executed
  split at ran
  · cases ran
    exact .inl rfl
  · next open_ =>
    simp only [reconcileLines, eq_ok, Prod.mk.injEq] at ran
    obtain ⟨progress, passed, ⟨booked, booking⟩, made, rfl, _⟩ := ran
    exact .inr ⟨stored, found, decide_eq_false open_, .intro passed (bookPayout_ok made)⟩

structure Imported (db : CodDb) (dto : ImportCodSettlementBatchDto) (batch : CodSettlementBatchEntity) (cod : CodDb) :
    Prop where
  fresh : ∀ other ∈ db.batches, other.id ≠ batch.id
  unbooked : batch.journalId = none
  carrier : batch.carrierCode = dto.carrier
  account : batch.cashAccountId = dto.cashAccountId
  lines : batch.lines.map (·.statement) = dto.statementLines
  batches : cod.batches = db.batches ++ [batch]
  receivables : cod.receivables = db.receivables

def CodSettlementBatchLineDto.statement (line : CodSettlementBatchLineDto) : CodStatementLine where
  trackingNumber := trimmed line.trackingNumber
  reportedCodAmount := line.reportedCodAmount
  carrierFeeAmount := line.carrierFeeAmount.getD 0
  netPayoutAmount := line.netPayoutAmount

theorem importLine_statement {drawn done next line} (ran : importLine taken drawn done line = .ok next) :
    next.lines.map (·.statement) = done.lines.map (·.statement) ++ [line.1.statement] := by
  simp only [importLine, eq_ok, parseVnd_eq_ok] at ran
  obtain ⟨reported, ⟨reportedIs, _⟩, fee, ⟨feeIs, _⟩, net, ⟨netIs, _⟩, rfl⟩ := ran
  cases reportedIs
  cases feeIs
  cases netIs
  rw [map_append, map_singleton]
  rfl

theorem importLines_statement {drawn} {lines : List CodSettlementBatchLineDto} {done}
    (executed : lines.zipIdx.foldlM (importLine taken drawn) {} = .ok done) :
    done.lines.map (·.statement) = lines.map (·.statement) := by
  have read : done.lines.map (·.statement) = lines.zipIdx.map (·.1.statement) := by
    refine foldlM_links (fun finished (middle : CodImport) =>
      middle.lines.map (·.statement) = finished.map (·.1.statement)) rfl ?_ executed
    intro finished line _ middle next _ same ran
    rw [importLine_statement ran, same, map_append, map_singleton]
  rw [read]
  conv_rhs => rw [← zipIdx_map_fst 0 lines, map_map]
  rfl

theorem importNew_ok {db cod dto} (ran : importNew db draws header dto = .ok (cod, batch)) : Imported db dto batch cod := by
  simp only [importNew, eq_ok, Prod.mk.injEq] at ran
  obtain ⟨done, read, rfl, rfl⟩ := ran
  have fresh : ∀ other ∈ db.batches, other.id ≠ newId (db.batches.map (·.id)) draws.document :=
    fun other member => Fresh.ne_pick _ draws.document member
  generalize newId (db.batches.map (·.id)) draws.document = id at *
  exact ⟨fresh, rfl, rfl, rfl, importLines_statement read, rfl, rfl⟩

namespace CodDb

def posted (db : CodDb) : List Uuid := (db.batches.filter (·.journalId.isSome)).map (·.id)

variable {db later : CodDb} {batch : CodSettlementBatchEntity}

theorem mem_posted (member : batch ∈ db.batches) (posted : batch.journalId ≠ none) : batch.id ∈ db.posted :=
  mem_map_of_mem (mem_filter.mpr ⟨member, Option.isSome_iff_ne_none.mpr posted⟩)

theorem posted_mem {id} (member : id ∈ db.posted) : ∃ batch ∈ db.batches, batch.journalId ≠ none ∧ batch.id = id := by
  obtain ⟨batch, listed, rfl⟩ := mem_map.mp member
  obtain ⟨inside, posted⟩ := mem_filter.mp listed
  exact ⟨batch, inside, Option.isSome_iff_ne_none.mp posted, rfl⟩

theorem not_posted (distinct : (db.batches.map (·.id)).Nodup)
    (member : batch ∈ db.batches) (unposted : batch.journalId = none) : batch.id ∉ db.posted := by
  intro listed
  obtain ⟨other, inside, posted, same⟩ := posted_mem listed
  rw [eq_of_key distinct inside member same] at posted
  exact posted unposted

theorem posted_save {old new} (distinct : (db.batches.map (·.id)).Nodup)
    (member : old ∈ db.batches) (id : new.id = old.id) (kept : old.journalId ≠ none → new.journalId ≠ none)
    (batches : later.batches = save (·.id) new db.batches) {listed} (posted : listed ∈ db.posted) :
    listed ∈ later.posted := by
  obtain ⟨batch, inside, journal, rfl⟩ := posted_mem posted
  by_cases own : batch.id = new.id
  · have same : batch = old := eq_of_key distinct inside member (own.trans id)
    rw [own]
    apply mem_posted
    · rw [batches]
      exact saved_mem inside own
    · exact kept (same ▸ journal)
  · apply @mem_posted _ batch
    · rw [batches]
      exact kept_mem inside own
    · exact journal

def Posts (db : CodDb) (source : JournalSource) : Prop :=
  (∃ id ∈ db.receivables.map (·.id), source = ("COD_RECEIVABLE", toString id)) ∨
    ∃ id ∈ db.posted, source = ("COD_SETTLEMENT_BATCH", toString id)

theorem Posts.mono {source} (posts : db.Posts source)
    (receivables : ∀ id ∈ db.receivables.map (·.id), id ∈ later.receivables.map (·.id))
    (posted : ∀ id ∈ db.posted, id ∈ later.posted) : later.Posts source := by
  rcases posts with ⟨id, listed, same⟩ | ⟨id, listed, same⟩
  · exact .inl ⟨id, receivables id listed, same⟩
  · exact .inr ⟨id, posted id listed, same⟩

end CodDb

theorem codReceivableJournal_source (id : Uuid) (key : String) (expected : Int) :
    (codReceivableJournal id key expected).source = ("COD_RECEIVABLE", toString id) := by
  have folded : toUpperCase (trimmed "COD_RECEIVABLE") = "COD_RECEIVABLE" := by decide +kernel
  simp only [PostJournalInTxInput.source, codReceivableJournal, folded, trimmed_toString]

structure CodBooks (db : FinanceDb) : Prop where
  codes : db.cash.Codes
  receivableIds : (db.cod.receivables.map (·.id)).Nodup
  batchIds : (db.cod.batches.map (·.id)).Nodup
  owed : db.ledger.balance codCarrierReceivable = db.cod.owed
  receipts : db.cash.codReceipts = db.cod.paidOut
  posted : ∀ journal ∈ db.ledger.journals, db.cod.Posts journal.source
  booked : ∀ entry ∈ db.cash.entries, ∃ id ∈ db.cod.posted, entry.idempotencyKey = some s!"codb-cb:{id}"

/-- The lines of a statement clear each shipment once, on an account that is there. -/
def Clears (db : FinanceDb) (cashAccountId : Option Uuid) (carrierCode : String) (lines : List CodStatementLine) : Prop :=
  db.cod.Clearing carrierCode lines ∧ (db.cod.settled carrierCode lines ≠ [] → db.cash.Known cashAccountId)

instance (db : FinanceDb) (cashAccountId : Option Uuid) (carrierCode : String) (lines : List CodStatementLine) :
    Decidable (Clears db cashAccountId carrierCode lines) :=
  inferInstanceAs (Decidable (_ ∧ _))

/-- The lines of a batch clear each shipment once, or leave the receivables as they stand when its payout is booked. -/
def BatchFits (db : FinanceDb) (cashAccountId : Option Uuid) (batch : CodSettlementBatchEntity) : Prop :=
  if batch.journalId = none then Clears db cashAccountId batch.carrierCode (batch.lines.map (·.statement))
  else db.cod.Standing batch.carrierCode (batch.lines.map (·.statement))

instance (db : FinanceDb) (cashAccountId : Option Uuid) (batch : CodSettlementBatchEntity) :
    Decidable (BatchFits db cashAccountId batch) :=
  inferInstanceAs (Decidable (if batch.journalId = none then Clears db cashAccountId batch.carrierCode _
    else db.cod.Standing batch.carrierCode _))

namespace CodBooks

variable {db after : FinanceDb}

theorem recognize {new ledger cod} (books : CodBooks db)
    (recognized : Recognized db new ledger cod) : CodBooks { db with ledger, cod } := by
  obtain ⟨key, posts⟩ := recognized.posts
  have source := codReceivableJournal_source new.id key new.expectedCodAmount
  have unposted : db.ledger.Unposted (codReceivableJournal new.id key new.expectedCodAmount).source
      ((codReceivableJournal new.id key new.expectedCodAmount).lines.map fun line => line.debitAmount.getD 0).sum := by
    intro journal member same
    rw [source] at same
    rcases books.posted journal member with ⟨id, listed, own⟩ | ⟨id, _, own⟩
    · obtain ⟨other, inside, rfl⟩ := mem_map.mp listed
      have named := toString_injective (congrArg Prod.snd (own.symm.trans same))
      exact absurd named (recognized.fresh other inside)
    · have apart : "COD_SETTLEMENT_BATCH" ≠ "COD_RECEIVABLE" := by decide
      exact absurd (congrArg Prod.fst (own.symm.trans same)) apart
  have ids : ∀ id ∈ db.cod.receivables.map (·.id), id ∈ cod.receivables.map (·.id) := by
    intro id listed
    rw [recognized.receivables, map_append]
    exact mem_append_left _ listed
  have posted : cod.posted = db.cod.posted := by rw [CodDb.posted, recognized.batches, CodDb.posted]
  obtain ⟨moved, _⟩ := posts_new posts unposted codCarrierReceivable
  have owes : new.owed = new.expectedCodAmount := if_neg recognized.status
  have pays : new.paidOut = 0 := if_neg recognized.status
  refine ⟨books.codes, ?_, ?_, ?_, ?_, ?_, ?_⟩
  · show (cod.receivables.map (·.id)).Nodup
    rw [recognized.receivables]
    exact Keyed.nodup_append books.receivableIds recognized.fresh
  · show (cod.batches.map (·.id)).Nodup
    rw [recognized.batches]
    exact books.batchIds
  · refine moved.trans ?_
    rw [codReceivableJournal_net, books.owed, CodDb.owed, CodDb.owed, recognized.receivables, map_append, sum_append,
      map_singleton, sum_singleton, owes]
  · refine books.receipts.trans ?_
    rw [CodDb.paidOut, CodDb.paidOut, recognized.receivables, map_append, sum_append, map_singleton,
      sum_singleton, pays, Int.add_zero]
  · intro journal member
    rcases posts_source posts member with old | new
    · exact (books.posted journal old).mono ids fun id listed => posted ▸ listed
    · refine .inl ⟨_, ?_, new.trans source⟩
      rw [recognized.receivables, map_append]
      exact mem_append_right _ (.head _)
  · intro entry member
    obtain ⟨id, listed, key⟩ := books.booked entry member
    exact ⟨id, posted ▸ listed, key⟩

structure BatchPassed (db : CodDb) (batch : CodSettlementBatchEntity) (progress : CodProgress) (lines : List CodStatementLine) :
    Prop where
  ids : progress.cod.receivables.map (·.id) = db.receivables.map (·.id)
  rest : progress.cod = { db with receivables := progress.cod.receivables }
  owed : progress.cod.owed = db.owed - (lines.map (·.reportedCodAmount)).sum
  paidOut : progress.cod.paidOut = db.paidOut + (lines.map (·.netPayoutAmount)).sum
  matched : batch.journalId = none → progress.matched = lines.foldl CodMatched.count ⟨0, 0, 0⟩
  booked : batch.journalId ≠ none → lines = []
  each : ∀ line ∈ lines, 0 < line.reportedCodAmount ∧ 0 ≤ line.carrierFeeAmount ∧
    line.netPayoutAmount = line.reportedCodAmount - line.carrierFeeAmount

variable {batch : CodSettlementBatchEntity} {cashAccountId : Option Uuid}

theorem passed {draws progress}
    (books : CodBooks db) (fits : BatchFits db cashAccountId batch) (ran : passLines db draws batch = .ok progress) :
    ∃ lines, BatchPassed db.cod batch progress lines ∧ (lines ≠ [] → db.cash.Known cashAccountId) := by
  by_cases open_ : batch.journalId = none
  · obtain ⟨clearing, known⟩ : Clears db cashAccountId batch.carrierCode (batch.lines.map (·.statement)) := by
      rwa [BatchFits, if_pos open_] at fits
    have cleared := passLines_clearing ran books.receivableIds clearing
    refine ⟨db.cod.settled batch.carrierCode (batch.lines.map (·.statement)), ?_, known⟩
    constructor
    · exact related_ids (fun _ _ same => same) cleared.shipments
    · exact cleared.rest
    · exact cleared.owed
    · exact cleared.paidOut
    · exact fun _ => cleared.matched
    · exact fun booked => absurd open_ booked
    · exact fun line listed => settles_amounts (mem_filter.mp listed).2
  · rw [BatchFits, if_neg open_] at fits
    obtain ⟨standing, rest⟩ := passLines_standing ran books.receivableIds fits
    refine ⟨[], ?_, fun listed => absurd rfl listed⟩
    constructor
    · exact related_ids (fun _ _ same => same.toSameShipment) standing
    · exact rest
    · exact (congrArg sum (related_map (·.owed) (fun _ _ same => same.owed) standing)).trans (Int.sub_zero _).symm
    · exact (congrArg sum (related_map (·.paidOut) (fun _ _ same => same.paidOut) standing)).trans (Int.add_zero _).symm
    · exact fun unbooked => absurd unbooked open_
    · exact fun _ => rfl
    · nofun

theorem unbooked (books : CodBooks db) (member : batch ∈ db.cod.batches)
    (open_ : batch.journalId = none) : Unbooked db batch.id := by
  have absent := not_posted books.batchIds member open_
  constructor
  · intro journal inside source
    rcases books.posted journal inside with ⟨id, _, own⟩ | ⟨id, listed, own⟩
    · have apart : "COD_RECEIVABLE" ≠ "COD_SETTLEMENT_BATCH" := by decide
      exact apart (congrArg Prod.fst (own.symm.trans source))
    · have same : id = batch.id := toString_injective (congrArg Prod.snd (own.symm.trans source))
      exact absent (same ▸ listed)
  · intro entry inside key
    obtain ⟨id, listed, own⟩ := books.booked entry inside
    have same : id = batch.id := payoutKey_injective (Option.some.inj (own.symm.trans key))
    exact absent (same ▸ listed)

theorem reconcile (books : CodBooks db) (member : batch ∈ db.cod.batches) (fits : BatchFits db cashAccountId batch)
    (reconciled : BatchReconciled db cashAccountId batch after) : CodBooks after := by
  cases reconciled with
  | @intro draws progress booked booking ran payout =>
    obtain ⟨lines, passed, known⟩ := books.passed fits ran
    have unbooked : batch.journalId = none → Unbooked db batch.id := books.unbooked member
    have paid := payout.paidOut books.codes (fun open_ => ⟨(unbooked open_).journals, (unbooked open_).entries⟩) passed.matched
      passed.booked passed.each known
    have cod : booked.cod = progress.cod := congrArg (·.cod) paid.rest
    have batches : booked.cod.batches = db.cod.batches := by rw [cod, passed.rest]
    have receivables : booked.cod.receivables.map (·.id) = db.cod.receivables.map (·.id) := by rw [cod, passed.ids]
    generalize saved : batch.reconcile progress booking = new
    have id : new.id = batch.id := saved ▸ rfl
    have journal : new.journalId = booking.journalId := saved ▸ rfl
    have kept : batch.journalId ≠ none → new.journalId ≠ none := by
      rw [journal]
      exact paid.kept
    generalize laterIs : ({ booked.cod with batches := save (·.id) new booked.cod.batches } : CodDb) = later
    have laterBatches : later.batches = save (·.id) new db.cod.batches := by rw [← laterIs, ← batches]
    have laterIds : later.receivables.map (·.id) = db.cod.receivables.map (·.id) := by rw [← laterIs, ← receivables]
    have grown : ∀ other ∈ db.cod.posted, other ∈ later.posted := fun _ listed =>
      posted_save books.batchIds member id kept laterBatches listed
    have own : booking.journalId ≠ none → batch.id ∈ later.posted := by
      intro posted
      rw [← id]
      apply mem_posted
      · rw [laterBatches]
        exact saved_mem member id.symm
      · rw [journal]
        exact posted
    have owed : later.owed = progress.cod.owed := by rw [← laterIs, ← cod]; rfl
    have paidOut : later.paidOut = progress.cod.paidOut := by rw [← laterIs, ← cod]; rfl
    refine ⟨paid.codes, ?_, ?_, ?_, ?_, ?_, ?_⟩
    · show (later.receivables.map (·.id)).Nodup
      rw [laterIds]
      exact books.receivableIds
    · show (later.batches.map (·.id)).Nodup
      rw [laterBatches, keys_save]
      exact books.batchIds
    · show booked.ledger.balance _ = later.owed
      rw [paid.balance, owed, passed.owed, ← books.owed]
    · show booked.cash.codReceipts = later.paidOut
      rw [paid.receipts, paidOut, passed.paidOut, ← books.receipts]
    · intro posted inside
      rcases paid.posted posted inside with old | ⟨booked, source⟩
      · exact (books.posted posted old).mono (fun id listed => laterIds ▸ listed) grown
      · exact .inr ⟨batch.id, own booked, source⟩
    · intro entry inside
      rcases paid.booked entry inside with old | ⟨booked, key⟩
      · obtain ⟨id, listed, key⟩ := books.booked entry old
        exact ⟨id, grown id listed, key⟩
      · exact ⟨batch.id, own booked, key⟩

theorem imported {dto cod} (books : CodBooks db) (imported : Imported db.cod dto batch cod) : CodBooks { db with cod } := by
  have posted : cod.posted = db.cod.posted := by
    rw [CodDb.posted, imported.batches, filter_append, filter_cons_of_neg (by simp [imported.unbooked]), filter_nil,
      append_nil, CodDb.posted]
  refine ⟨books.codes, ?_, ?_, ?_, ?_, ?_, ?_⟩
  · show (cod.receivables.map (·.id)).Nodup
    rw [imported.receivables]
    exact books.receivableIds
  · show (cod.batches.map (·.id)).Nodup
    rw [imported.batches]
    exact Keyed.nodup_append books.batchIds imported.fresh
  · refine books.owed.trans ?_
    rw [CodDb.owed, CodDb.owed, imported.receivables]
  · refine books.receipts.trans ?_
    rw [CodDb.paidOut, CodDb.paidOut, imported.receivables]
  · intro journal member
    exact (books.posted journal member).mono (fun id listed => imported.receivables ▸ listed) (fun id listed => posted ▸ listed)
  · intro entry member
    obtain ⟨id, listed, key⟩ := books.booked entry member
    exact ⟨id, posted ▸ listed, key⟩

end CodBooks

/-- The condition on a request: the lines it goes through clear each shipment once. -/
def StatementFits (db : FinanceDb) : CodRequest → Prop
  | .recognize .. => True
  | .importBatch _ header dto => db.cod.imported dto header = none → dto.autoReconcile ≠ some false →
    Clears db dto.cashAccountId dto.carrier dto.statementLines
  | .reconcile _ batchId cashAccountId => ∀ batch ∈ db.cod.batches.find? (·.id = batchId), batch.closed = false →
    BatchFits db (cashAccountId <|> batch.cashAccountId) batch

instance (db : FinanceDb) : ∀ request, Decidable (StatementFits db request)
  | .recognize .. => .isTrue trivial
  | .importBatch .. => inferInstanceAs (Decidable (_ → _ → _))
  | .reconcile _ batchId cashAccountId => inferInstanceAs (Decidable (∀ batch ∈ db.cod.batches.find? (·.id = batchId),
      batch.closed = false → BatchFits db (cashAccountId <|> batch.cashAccountId) batch))

theorem importSettlementBatch_ok {db after dto response}
    (executed : importSettlementBatch db draws header dto = .ok (after, response)) :
    after = db ∨ db.cod.imported dto header = none ∧ ∃ batch cod, Imported db.cod dto batch cod ∧
      (after = { db with cod } ∨ dto.autoReconcile ≠ some false ∧
        BatchReconciled { db with cod } dto.cashAccountId batch after) := by
  unfold importSettlementBatch at executed
  split at executed
  · cases executed
    exact .inl rfl
  · next absent =>
    simp only [eq_ok, Prod.mk.injEq] at executed
    obtain ⟨⟨cod, batch⟩, read, ⟨_, _⟩, ran, rfl, _⟩ := executed
    have imported := importNew_ok read
    refine .inr ⟨absent, batch, cod, imported, ?_⟩
    unfold autoReconcile at ran
    split at ran
    · cases ran
      exact .inl rfl
    · next auto =>
      rcases reconcileBatchInTx_ok ran with same | ⟨stored, found, _, reconciled⟩
      · exact .inl same
      · have own : stored = batch := by
          have absent : db.cod.batches.find? (·.id = batch.id) = none := by
            rw [find?_eq_none]
            intro other member
            rw [decide_eq_true_eq]
            exact imported.fresh other member
          rw [imported.batches, find?_append, absent, Option.none_or, find?_singleton] at found
          simpa using found.symm
        rw [own, imported.account] at reconciled
        have account : (dto.cashAccountId <|> dto.cashAccountId) = dto.cashAccountId := by cases dto.cashAccountId <;> rfl
        rw [account] at reconciled
        exact .inr ⟨auto, reconciled⟩

theorem CodBooks.step {db request} (fits : StatementFits db request) (books : CodBooks db) : CodBooks (codStep db request) := by
  apply commit_preserves CodBooks books
  intro after ran
  cases request with
  | recognize draws header dto =>
    obtain ⟨⟨_, response⟩, performed, rfl⟩ := map_eq_ok.mp ran
    rcases createCodReceivableInTx_ok performed with rfl | ⟨new, ledger, cod, recognized, rfl⟩
    · exact books
    · exact books.recognize recognized
  | importBatch draws header dto =>
    obtain ⟨⟨_, response⟩, performed, rfl⟩ := map_eq_ok.mp ran
    rcases importSettlementBatch_ok performed with rfl | ⟨absent, batch, cod, imported, rfl | ⟨auto, reconciled⟩⟩
    · exact books
    · exact books.imported imported
    · have member : batch ∈ cod.batches := by simp [imported.batches]
      apply (books.imported imported).reconcile member _ reconciled
      obtain ⟨⟨open_, apart⟩, known⟩ := fits absent auto
      have shipment : cod.shipment = db.cod.shipment := by
        funext carrierCode trackingNumber
        rw [shipment, shipment, imported.receivables]
      have settles : cod.settles = db.cod.settles := by
        funext carrierCode line
        rw [settles, settles, shipment]
      rw [BatchFits, if_pos imported.unbooked, imported.carrier, imported.lines]
      refine ⟨⟨?_, ?_⟩, ?_⟩
      · show ∀ line ∈ _, ∀ receivable ∈ cod.shipment _ _, _
        rw [shipment]
        exact open_
      · show Pairwise (fun earlier later => cod.settles _ earlier = true → _) _
        rw [settles]
        exact apart
      · intro some_
        apply known
        rwa [settled, ← settles]
  | reconcile draws batchId cashAccountId =>
    obtain ⟨⟨_, batch⟩, performed, rfl⟩ := map_eq_ok.mp ran
    rcases reconcileBatchInTx_ok performed with rfl | ⟨stored, found, open_, reconciled⟩
    · exact books
    · exact books.reconcile (mem_of_find?_eq_some found) (fits stored found open_) reconciled

def CodDb.reconciledRows (db : CodDb) : List CodReceivableEntity := db.receivables.filter (·.status = .reconciled)

def CodDb.openRows (db : CodDb) : List CodReceivableEntity := db.receivables.filter (·.status ≠ .reconciled)

structure CodAgrees (db : FinanceDb) : Prop where
  owed : db.ledger.balance codCarrierReceivable = (db.cod.openRows.map (·.expectedCodAmount)).sum
  receipts : db.cash.codReceipts = (db.cod.reconciledRows.map (·.actualRemittedAmount)).sum

theorem CodBooks.agree {db} (books : CodBooks db) : CodAgrees db := by
  constructor
  · rw [books.owed, CodDb.owed, CodDb.openRows]
    induction db.cod.receivables with
    | nil => rfl
    | cons receivable rest inner =>
      rw [map_cons, sum_cons, inner, CodReceivableEntity.owed, filter_cons]
      by_cases reconciled : receivable.status = .reconciled
      · simp [reconciled]
      · simp [reconciled]
  · rw [books.receipts, CodDb.paidOut, CodDb.reconciledRows]
    induction db.cod.receivables with
    | nil => rfl
    | cons receivable rest inner =>
      rw [map_cons, sum_cons, inner, CodReceivableEntity.paidOut, filter_cons]
      by_cases reconciled : receivable.status = .reconciled
      · simp [reconciled]
      · simp [reconciled]

structure Unstarted (db : FinanceDb) : Prop where
  cod : db.cod = {}
  journals : db.ledger.journals = []
  entries : db.cash.entries = []
  codes : db.cash.Codes

/-- Carriers owe what is not reconciled and have paid out what is, along every run in which the lines of every
statement that is gone through clear each shipment once. -/
theorem cod_agrees_cleared_once {db : FinanceDb} (start : Unstarted db) {requests : List CodRequest}
    (fits : Run.Meets codStep StatementFits db requests) : CodAgrees (Run.after codStep db requests) := by
  have books : CodBooks db := by
    refine ⟨start.codes, ?_, ?_, ?_, ?_, ?_, ?_⟩
    · simp [start.cod]
    · simp [start.cod]
    · simp [start.cod, JournalDb.balance, start.journals, owed]
    · simp [start.cod, CashDb.codReceipts, start.entries, paidOut]
    · simp [start.journals]
    · simp [start.entries]
  exact (Run.invariant_of_meets CodBooks (fun _ _ met kept => kept.step met) fits books).agree

private def shipped (document : Uuid) (trackingNumber : String) (amount : Int) : CodRequest :=
  .recognize { journal := document, document } none
    { orderId := document, carrierCode := "GHN", trackingNumber, expectedCodAmount := amount }

private def statement (id : Uuid) (statementRef : String) (lines : List CodSettlementBatchLineDto) : CodRequest :=
  .importBatch { journal := 10 * id, document := id, line := 1, issue := 1, entry := 1, account := 1, category := 1 } none
    { carrierCode := "GHN", statementRef, lines }

private def deliveries : List CodRequest :=
  [shipped 1 "T1" 100, shipped 2 "T2" 200,
    statement 1 "S1" [{ trackingNumber := "T1", reportedCodAmount := 100, carrierFeeAmount := some 10, netPayoutAmount := 90 },
      { trackingNumber := "T2", reportedCodAmount := 150, netPayoutAmount := 150 }],
    .reconcile { journal := 11, issue := 2 } 1 none,
    statement 2 "S2" [{ trackingNumber := "T2", reportedCodAmount := 200, netPayoutAmount := 200 }]]

theorem deliveries_agree : CodAgrees (Run.after codStep {} deliveries) ∧
    (Run.after codStep {} deliveries).cash.codReceipts = 290 := by
  refine ⟨cod_agrees_cleared_once ⟨rfl, rfl, rfl, by simp [CashDb.Codes]⟩ (by decide +kernel), ?_⟩
  decide +kernel

private def doubled : FinanceDb :=
  Run.after codStep {} [shipped 1 "T1" 100, statement 1 "S1" (replicate 2
    { trackingNumber := "T1", reportedCodAmount := 100, carrierFeeAmount := some 10, netPayoutAmount := 90 })]

/-- A statement that lists one shipment twice is paid out twice, and clears it once. -/
theorem shipment_paid_twice : ¬CodAgrees doubled := by
  intro agrees
  have apart : doubled.cash.codReceipts ≠ (doubled.cod.reconciledRows.map (·.actualRemittedAmount)).sum := by decide +kernel
  exact apart agrees.receipts

end Finance
