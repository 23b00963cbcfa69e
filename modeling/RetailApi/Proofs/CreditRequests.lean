import RetailApi.Finance.Receivables
import RetailApi.Proofs.DebtBooks
import RetailApi.Proofs.Vouchers

/-! What each request about customer credit does to the store when it succeeds. -/

namespace Finance

open Transaction JsNumber CreditDb List

namespace CreditDb

/-- A customer's profile; a customer without one has the profile that would be created. -/
def profile (db : CreditDb) (customerId : Uuid) : CustomerCreditProfileEntity := (db.profiles.lookup customerId).getD {}

/-- No profile, hold or debt moves, though rows beside them may. -/
structure Kept (before after : CreditDb) : Prop where
  profile : ∀ customerId, after.profile customerId = before.profile customerId
  authorizations : after.authorizations = before.authorizations
  receivables : after.receivables = before.receivables

def Updated (before after : CreditDb) (customerId : Uuid) (profile : CustomerCreditProfileEntity) : Prop :=
  ∀ other, after.profile other = if other = customerId then profile else before.profile other

theorem profile_saveProfile (db : CreditDb) (customerId : Uuid) (profile : CustomerCreditProfileEntity) :
    db.Updated (db.saveProfile customerId profile) customerId profile := by
  intro other
  rw [CreditDb.profile, saveProfile, Table.lookup_insert_if]
  split
  · rfl
  · rfl

theorem Kept.updated {before middle after} {customerId : Uuid} {profile}
    (kept : Kept before middle) (updated : middle.Updated after customerId profile) :
    before.Updated after customerId profile := by
  intro other
  rw [updated other, kept.profile other]

end CreditDb

structure CustomerCreditProfileEntity.Readable (profile : CustomerCreditProfileEntity) : Prop where
  creditLimit : IsSafe profile.creditLimit
  postedDebt : IsSafe profile.postedDebt
  heldCredit : IsSafe profile.heldCredit
  prepaymentBalance : IsSafe profile.prepaymentBalance

@[simp] theorem readProfile_eq_ok {stored read} : readProfile stored = .ok read ↔ stored.Readable ∧ stored = read := by
  simp only [readProfile, eq_ok, toMoney_eq_ok]
  constructor
  · rintro ⟨_, ⟨limit, rfl⟩, _, ⟨posted, rfl⟩, _, ⟨held, rfl⟩, _, ⟨prepaid, rfl⟩, rfl⟩
    exact ⟨⟨limit, posted, held, prepaid⟩, rfl⟩
  · rintro ⟨⟨limit, posted, held, prepaid⟩, rfl⟩
    exact ⟨_, ⟨limit, rfl⟩, _, ⟨posted, rfl⟩, _, ⟨held, rfl⟩, _, ⟨prepaid, rfl⟩, rfl⟩

variable {customerId authId : Uuid} {profile : CustomerCreditProfileEntity} {auth : CustomerCreditAuthorizationEntity}
  {header : Option String} {draws : Draws} {receivableId customer : Option Uuid}

theorem lockOrCreateProfileInTx_ok {db after} (ran : lockOrCreateProfileInTx db customerId = .ok (after, profile)) :
    profile = db.profile customerId ∧ db.Kept after ∧ profile.Readable := by
  unfold lockOrCreateProfileInTx at ran
  split at ran
  · next stored found =>
    simp only [eq_ok, readProfile_eq_ok, Prod.mk.injEq] at ran
    obtain ⟨_, ⟨readable, rfl⟩, rfl, rfl⟩ := ran
    exact ⟨by rw [profile, found, Option.getD_some], ⟨fun _ => rfl, rfl, rfl⟩, readable⟩
  · next absent =>
    cases ran
    refine ⟨by rw [profile, absent, Option.getD_none], ⟨?_, rfl, rfl⟩, ⟨?_, ?_, ?_, ?_⟩⟩
    · intro other
      apply (profile_saveProfile db customerId {} other).trans
      split
      · next same => rw [profile, same, absent, Option.getD_none]
      · rfl
    all_goals decide

theorem creditSummary_ok {available : Int} (ran : creditSummary profile = .ok available) :
    IsSafe profile.creditLimit ∧ IsSafe profile.postedDebt ∧ IsSafe profile.heldCredit := by
  simp only [creditSummary, eq_ok, parseVnd_eq_ok] at ran
  obtain ⟨_, ⟨limit, safe, _⟩, _, ⟨posted, second, _⟩, _, ⟨held, third, _⟩, _⟩ := ran
  cases limit
  cases posted
  cases held
  exact ⟨safe, second, third⟩

theorem formatAuthorizationResponse_ok {replayed : Bool} {response}
    (ran : formatAuthorizationResponse auth profile replayed = .ok response) :
    IsSafe profile.creditLimit ∧ IsSafe profile.postedDebt ∧ IsSafe profile.heldCredit := by
  simp only [formatAuthorizationResponse, eq_ok] at ran
  obtain ⟨_, summary, _⟩ := ran
  exact creditSummary_ok summary

structure WithinLimit (profile : CustomerCreditProfileEntity) (amount : Int) (approver : Option String) : Prop where
  readable : 0 ≤ profile.creditLimit ∧ 0 ≤ profile.postedDebt ∧ 0 ≤ profile.heldCredit
  allowed : amount ≤ availableCredit profile.creditLimit profile.postedDebt profile.heldCredit ∨ isOverride approver = true

theorem evaluateCreditAuthorization_ok {amount : Int} {approver result} (ran : evaluateCreditAuthorization {
      creditLimit := profile.creditLimit, postedDebt := profile.postedDebt, heldCredit := profile.heldCredit
      requestedAmount := amount, overrideApprovedBy := approver } = .ok result) :
    WithinLimit profile amount approver ∧ result.heldCreditAfter = add profile.heldCredit amount := by
  simp only [evaluateCreditAuthorization, eq_ok, parseVnd_eq_ok] at ran
  obtain ⟨_, ⟨limit, _, first, _⟩, _, ⟨posted, _, second, _⟩, _, ⟨held, _, third, _⟩, _, ⟨requested, _⟩, _, allowed, rfl⟩ :=
    ran
  cases limit
  cases posted
  cases held
  cases requested
  simp only [Bool.false_eq_true, or_false] at first second third
  exact ⟨⟨⟨first, second, third⟩, allowed⟩, rfl⟩

def CustomerCreditProfileEntity.without (profile : CustomerCreditProfileEntity) (amount : Int) : CustomerCreditProfileEntity :=
  { profile with heldCredit := lessAtMost profile.heldCredit amount }

structure Closing (db : CreditDb) (auth closed : CustomerCreditAuthorizationEntity) (after : CreditDb) : Prop where
  member : auth ∈ db.authorizations
  held : auth.state = .held
  id : closed.id = auth.id
  customer : closed.customerId = auth.customerId
  amount : closed.authorizedAmount = auth.authorizedAmount
  state : closed.state ≠ .held
  authorizations : after.authorizations = Rows.save (·.id) closed db.authorizations

structure Releasing (db : CreditDb) (auth closed : CustomerCreditAuthorizationEntity) (after : CreditDb) : Prop
    extends Closing db auth closed after where
  receivables : after.receivables = db.receivables
  profile : db.Updated after auth.customerId ((db.profile auth.customerId).without auth.authorizedAmount)

inductive Expiring : CreditDb → CreditDb → Prop
  | done {db} : Expiring db db
  | next {db middle after auth closed}
      (releasing : Releasing db auth closed middle) (rest : Expiring middle after) : Expiring db after

structure Holding (db : CreditDb) (dto : CreateCreditAuthorizationDto) (auth : CustomerCreditAuthorizationEntity)
    (after : CreditDb) : Prop where
  customer : auth.customerId = dto.customerId
  state : auth.state = .held
  positive : 0 < auth.authorizedAmount
  fresh : ∀ other ∈ db.authorizations, other.id ≠ auth.id
  limit : WithinLimit (db.profile dto.customerId) auth.authorizedAmount dto.overrideApprovedBy
  authorizations : after.authorizations = db.authorizations ++ [auth]
  receivables : after.receivables = db.receivables
  profile : db.Updated after dto.customerId
    { db.profile dto.customerId with heldCredit := (db.profile dto.customerId).heldCredit + auth.authorizedAmount }

theorem positive_of_parsed {amount : Int} (sign : 0 ≤ amount ∨ false = true) (zero : amount ≠ 0 ∨ false = true) : 0 < amount := by
  simp only [Bool.false_eq_true, or_false] at sign zero
  omega

theorem authorizeCredit_ok {db after} {drawn} {now : Nat} {dto response}
    (executed : authorizeCredit db drawn now header dto = .ok (after, response)) :
    db.Kept after ∨ ∃ auth, Holding db dto auth after := by
  simp only [authorizeCredit, eq_ok, parseVnd_eq_ok] at executed
  obtain ⟨key, _, amount, ⟨given, _, sign, zero⟩, ⟨locked, profile⟩, lock, ran⟩ := executed
  obtain ⟨rfl, kept, _⟩ := lockOrCreateProfileInTx_ok lock
  split at ran
  · simp only [eq_ok, Prod.mk.injEq] at ran
    obtain ⟨_, _, rfl, _⟩ := ran
    exact .inl kept
  · simp only [holdCredit, eq_ok, Prod.mk.injEq] at ran
    obtain ⟨evaluation, evaluated, _, formatted, rfl, _⟩ := ran
    obtain ⟨limit, held⟩ := evaluateCreditAuthorization_ok evaluated
    have safe := (formatAuthorizationResponse_ok formatted).2.2
    rw [held] at safe
    let auth := dto.authorization (newId (locked.authorizations.map (·.id)) drawn) (documentCode "CRD" (locked.issued + 1))
      amount key now
    refine .inr ⟨auth, rfl, rfl, positive_of_parsed sign zero, ?_, limit, ?_, kept.receivables, ?_⟩
    · intro other member
      rw [← kept.authorizations] at member
      exact Fresh.ne_pick _ drawn member
    · exact congrArg (· ++ [auth]) kept.authorizations
    · have grown : (db.profile dto.customerId).heldCredit + auth.authorizedAmount = evaluation.heldCreditAfter :=
        ((held.trans (add_exact safe))).symm
      rw [grown]
      exact kept.updated (profile_saveProfile locked dto.customerId _)

theorem authorization_some {db : CreditDb} {id : Uuid} (found : db.authorization id = some auth) : auth ∈ db.authorizations :=
  mem_of_find?_eq_some found

theorem releaseAuthorization_ok {db after response} (executed : releaseAuthorization db authId = .ok (after, response)) :
    db.Kept after ∨ ∃ auth closed, Releasing db auth closed after := by
  simp only [releaseAuthorization, eq_ok] at executed
  obtain ⟨auth, found, ⟨locked, profile⟩, lock, ran⟩ := executed
  obtain ⟨rfl, kept, _⟩ := lockOrCreateProfileInTx_ok lock
  split at ran
  · simp only [eq_ok, Prod.mk.injEq] at ran
    obtain ⟨_, _, rfl, _⟩ := ran
    exact .inl kept
  · simp only [releaseHeld, eq_ok, parseVnd_eq_ok, Prod.mk.injEq] at ran
    obtain ⟨_, held, authorized, ⟨amount, _⟩, heldBefore, ⟨before, _⟩, _, _, rfl, _⟩ := ran
    cases amount
    cases before
    refine .inr ⟨auth, { auth with state := .released }, ⟨authorization_some found, held, rfl, rfl, rfl, by rintro ⟨⟩, ?_⟩,
      kept.receivables, kept.updated (profile_saveProfile locked auth.customerId _)⟩
    show Rows.save _ _ locked.authorizations = _
    rw [kept.authorizations]

theorem expireAuthorization_ok {db after : CreditDb} (member : auth ∈ db.authorizations)
    (held : auth.state = .held) (ran : expireAuthorization db auth = .ok after) :
    Releasing db auth { auth with state := .expired } after := by
  simp only [expireAuthorization, eq_ok, toMoney_eq_ok, parseVnd_eq_ok] at ran
  obtain ⟨_, ⟨_, rfl⟩, ⟨locked, profile⟩, lock, heldBefore, ⟨before, _⟩, authorized, ⟨amount, _⟩, rfl⟩ := ran
  obtain ⟨rfl, kept, _⟩ := lockOrCreateProfileInTx_ok lock
  cases amount
  cases before
  refine ⟨⟨member, held, rfl, rfl, rfl, by rintro ⟨⟩, ?_⟩, kept.receivables,
    kept.updated (profile_saveProfile locked auth.customerId _)⟩
  show Rows.save _ _ locked.authorizations = _
  rw [kept.authorizations]

theorem expiring_of_loop {db after} {stale : List CustomerCreditAuthorizationEntity}
    (distinct : (stale.map (·.id)).Nodup) (each : ∀ auth ∈ stale, auth ∈ db.authorizations ∧ auth.state = .held)
    (executed : stale.foldlM expireAuthorization db = .ok after) : Expiring db after := by
  induction stale generalizing db with
  | nil =>
    rw [foldlM_nil] at executed
    rw [executed]
    exact .done
  | cons auth stale inner =>
    obtain ⟨middle, stepped, ran⟩ := foldlM_cons.mp executed
    obtain ⟨alone, distinct⟩ := nodup_cons.mp distinct
    obtain ⟨member, held⟩ := each auth (.head _)
    have releasing := expireAuthorization_ok member held stepped
    refine .next releasing (inner distinct ?_ ran)
    intro other later
    obtain ⟨stored, still⟩ := each other (.tail _ later)
    refine ⟨?_, still⟩
    rw [releasing.authorizations]
    apply Rows.kept_mem stored
    intro same
    have named : other.id = auth.id := same
    apply alone
    show auth.id ∈ _
    rw [← named]
    exact mem_map_of_mem later

theorem expireStaleAuthorizations_ok {db after} {now : Nat} {locked}
    (ids : (db.authorizations.map (·.id)).Nodup) (ran : expireStaleAuthorizations db now locked = .ok after) :
    Expiring db after := by
  apply expiring_of_loop ((filter_sublist.map _).nodup ids) ?_ ran
  intro auth listed
  obtain ⟨member, stale⟩ := mem_filter.mp listed
  rw [decide_eq_true_eq] at stale
  exact ⟨member, stale.1⟩

/-- A journal is posted beside a change of the documents, and nothing else changes. -/
structure Posts (db : FinanceDb) (input : PostJournalInTxInput) (after : FinanceDb) : Prop where
  posting : ∃ validated posted, validateBalancedJournalLines input.lines = .ok validated ∧
    Posting db.ledger input validated after.ledger posted
  rest : after = { db with ledger := after.ledger, credit := after.credit }

structure Recognising (db : CreditDb) (customerId : Uuid) (amount : Int) (doc : CustomerReceivableEntity)
    (row : DebtLedgerEntity) (after : CreditDb) : Prop where
  safe : IsSafe amount
  positive : 0 < amount
  amounts : doc.originalAmount = amount ∧ doc.paidAmount = 0 ∧ doc.adjustedAmount = 0 ∧ doc.outstandingAmount = amount
  party : doc.partyId = customerId
  status : doc.status = .open
  fresh : ∀ other ∈ db.receivables.documents, other.id ≠ doc.id
  rowParty : row.partyId = customerId
  delta : row.amountDelta = amount
  before : row.balanceBefore = (db.profile customerId).postedDebt
  later : row.balanceAfter = add (db.profile customerId).postedDebt amount
  documents : after.receivables.documents = db.receivables.documents ++ [doc]
  ledger : after.receivables.ledger = db.receivables.ledger ++ [row]

theorem insertDocument_ok {Columns : Type} {book after : DebtBook Columns} {doc}
    (ran : book.insertDocument doc = .ok after) :
    after.documents = book.documents ++ [doc] ∧ after.ledger = book.ledger := by
  simp only [DebtBook.insertDocument, eq_ok] at ran
  obtain ⟨_, _, _, _, rfl⟩ := ran
  exact ⟨rfl, rfl⟩

theorem insertLedger_ok {Columns : Type} {book after : DebtBook Columns} {row} (ran : book.insertLedger row = .ok after) :
    after.documents = book.documents ∧ after.ledger = book.ledger ++ [row] ∧
      ∀ other ∈ book.ledger, other.idempotencyKey ≠ row.idempotencyKey := by
  simp only [DebtBook.insertLedger, eq_ok] at ran
  obtain ⟨_, fresh, rfl⟩ := ran
  exact ⟨rfl, rfl, fresh⟩

/-- A new document and its row go to the end of the book, which locking the profile has left as it was. -/
theorem insertNew_ok {db locked : CreditDb} {drawn withDoc book} {doc : CustomerReceivableEntity} {row} (kept : db.Kept locked)
    (id : doc.id = newId (locked.receivables.documents.map (·.id)) drawn)
    (inserted : locked.receivables.insertDocument doc = .ok withDoc) (rowed : withDoc.insertLedger row = .ok book) :
    (∀ other ∈ db.receivables.documents, other.id ≠ doc.id) ∧
      book.documents = db.receivables.documents ++ [doc] ∧ book.ledger = db.receivables.ledger ++ [row] := by
  obtain ⟨documents, ledgerKept⟩ := insertDocument_ok inserted
  obtain ⟨documentsKept, rows, _⟩ := insertLedger_ok rowed
  rw [← kept.receivables, id]
  refine ⟨fun other => ?_, documentsKept.trans documents, ?_⟩
  · exact Fresh.ne_pick (fun other : CustomerReceivableEntity => other.id) drawn
  · rw [rows, ledgerKept]

structure Committing (db : FinanceDb) (auth closed : CustomerCreditAuthorizationEntity) (doc : CustomerReceivableEntity)
    (row : DebtLedgerEntity) (after : FinanceDb) : Prop where
  closing : Closing db.credit auth closed after.credit
  recognising : Recognising db.credit auth.customerId auth.authorizedAmount doc row after.credit
  unrounded : add (db.credit.profile auth.customerId).postedDebt auth.authorizedAmount =
    (db.credit.profile auth.customerId).postedDebt + auth.authorizedAmount
  posts : Posts db (commitJournal auth) after
  profile : db.credit.Updated after.credit auth.customerId
    { (db.credit.profile auth.customerId).without auth.authorizedAmount with
      postedDebt := (db.credit.profile auth.customerId).postedDebt + auth.authorizedAmount }

theorem commitAuthorization_ok {db after dto response} (executed : commitAuthorization db draws authId dto = .ok (after, response)) :
    (∃ credit, after = { db with credit } ∧ db.credit.Kept credit) ∨
      ∃ auth closed doc row, Committing db auth closed doc row after := by
  simp only [commitAuthorization, eq_ok] at executed
  obtain ⟨auth, found, ⟨locked, profile⟩, lock, ran⟩ := executed
  obtain ⟨rfl, kept, _⟩ := lockOrCreateProfileInTx_ok lock
  split at ran
  · simp only [eq_ok, Prod.mk.injEq] at ran
    obtain ⟨_, _, rfl, _⟩ := ran
    exact .inl ⟨locked, rfl, kept⟩
  · simp only [commitHeld, eq_ok, parseVnd_eq_ok, Prod.mk.injEq] at ran
    obtain ⟨_, held, authorized, ⟨amount, safe, sign, zero⟩, heldBefore, ⟨before, _⟩, postedBefore, ⟨owed, _⟩,
      ⟨ledger, posted⟩, journal, withDoc, inserted, book, rowed, response, formatted, rfl, _⟩ := ran
    cases amount
    cases before
    cases owed
    obtain ⟨fresh, documents, rows⟩ := insertNew_ok kept rfl inserted rowed
    obtain ⟨validated, accepted, posting⟩ := postJournalInTx_ok journal
    have unrounded := add_exact (formatAuthorizationResponse_ok formatted).2.1
    let orderId := dto.orderId <|> auth.orderId
    let branchId := dto.branchId <|> auth.branchId
    let doc := commitReceivable auth (newId (locked.receivables.documents.map (·.id)) draws.document)
      (documentCode "AR" (locked.receivables.issued + 1)) orderId branchId posted.journal.id
    let closed := { auth with state := .committed, orderId, branchId, committedReceivableId := some doc.id }
    let row := commitLedgerRow auth doc.id posted.journal.id (db.credit.profile auth.customerId).postedDebt
    refine .inr ⟨auth, closed, doc, row, ⟨authorization_some found, held, rfl, rfl, rfl, by simp [closed], ?_⟩,
      ⟨safe, positive_of_parsed sign zero, ⟨rfl, rfl, rfl, rfl⟩, rfl, rfl, fresh, rfl, rfl, rfl, rfl, documents, rows⟩,
      unrounded, ⟨⟨validated, posted, accepted, posting⟩, rfl⟩, ?_⟩
    · exact congrArg (Rows.save _ _) kept.authorizations
    · rw [← unrounded]
      exact kept.updated (profile_saveProfile { locked with receivables := book } auth.customerId _)

structure NewDebt (db : FinanceDb) (keys : RecognitionKeys) (dto : RecognizeReceivableDto) (doc : CustomerReceivableEntity)
    (row : DebtLedgerEntity) (after : FinanceDb) : Prop where
  recognising : Recognising db.credit dto.customerId dto.amount doc row after.credit
  readable : (db.credit.profile dto.customerId).Readable
  limit : WithinLimit (db.credit.profile dto.customerId) dto.amount dto.overrideApprovedBy
  absent : db.credit.receivables.recognized keys = none
  posts : Posts db (receivableJournal keys dto.amount) after
  authorizations : after.credit.authorizations = db.credit.authorizations
  profile : db.credit.Updated after.credit dto.customerId
    { db.credit.profile dto.customerId with
      postedDebt := add (db.credit.profile dto.customerId).postedDebt dto.amount }

theorem recognizeReceivable_ok {db after dto response} (executed : recognizeReceivable db draws header dto = .ok (after, response)) :
    (∃ credit, after = { db with credit } ∧ db.credit.Kept credit) ∨
      ∃ doc row, NewDebt db (dto.keys header) dto doc row after := by
  simp only [recognizeReceivable, eq_ok, parseVnd_eq_ok] at executed
  obtain ⟨amount, ⟨given, safe, sign, zero⟩, ⟨locked, profile⟩, lock, ran⟩ := executed
  cases given
  obtain ⟨rfl, kept, readable⟩ := lockOrCreateProfileInTx_ok lock
  split at ran
  · simp only [eq_ok, Prod.mk.injEq] at ran
    obtain ⟨_, _, rfl, _⟩ := ran
    exact .inl ⟨locked, rfl, kept⟩
  · next absent =>
    simp only [recognizeNew, eq_ok, parseVnd_eq_ok, Prod.mk.injEq] at ran
    obtain ⟨_, evaluated, postedBefore, ⟨owed, _⟩, ⟨ledger, posted⟩, journal, withDoc, inserted, book, rowed, rfl, _⟩ := ran
    cases owed
    obtain ⟨fresh, documents, rows⟩ := insertNew_ok kept rfl inserted rowed
    obtain ⟨validated, accepted, posting⟩ := postJournalInTx_ok journal
    let keys := dto.keys header
    let doc := dto.receivable keys (newId (locked.receivables.documents.map (·.id)) draws.document)
      (documentCode "AR" (locked.receivables.issued + 1)) dto.amount posted.journal.id
    let row := receivableLedgerRow keys dto.customerId doc.id posted.journal.id dto.amount
      (db.credit.profile dto.customerId).postedDebt
    refine .inr ⟨doc, row, ⟨safe, positive_of_parsed sign zero, ⟨rfl, rfl, rfl, rfl⟩, rfl, rfl, fresh, rfl, rfl, rfl, rfl,
      documents, rows⟩, readable, (evaluateCreditAuthorization_ok evaluated).1, ?_,
      ⟨⟨validated, posted, accepted, posting⟩, rfl⟩, kept.authorizations, ?_⟩
    · exact kept.receivables ▸ absent
    · exact kept.updated (profile_saveProfile { locked with receivables := book } dto.customerId _)

def collectionEntry (key : String) (customerId journalId voucherId : Uuid) : PaymentEntry where
  partyId := customerId
  cashbookEntryId := voucherId
  journalId := journalId
  referenceType := "RECEIVABLE_PAYMENT"
  cleanKey := key

inductive Collecting (db : FinanceDb) (key : String) (dto : RecordReceivablePaymentDto) (customerId : Uuid) : FinanceDb → Prop
  | intro {chosen : CustomerReceivableEntity → Bool} {result : CalculatedPaymentAllocationResult} {locked credit : CreditDb}
      {cash : CashDb} {account : CashAccountEntity} {ledger : JournalDb} {validated : ValidatedJournal} {posted : PostedJournal}
      {branchId : Option Uuid} {description : String} {made : FinanceDb} {voucher : CashbookEntryEntity}
      {progress : PaymentProgress ReceivableColumns} {prepaid : Int} (kept : db.credit.Kept locked)
      (readable : (db.credit.profile customerId).Readable)
      (own : ∀ doc ∈ db.credit.receivables.documents.filter chosen, doc.partyId = customerId)
      (allocation : Allocation dto.amount
        ((db.credit.receivables.documents.filter chosen).map (·.toOpenObligationSnapshot))
        (dto.overpaymentPolicy.getD .reject) result)
      (ready : AccountReady db.cash cash account)
      (accepted : validateBalancedJournalLines (collectionJournal key account.glAccountCode result).lines = .ok validated)
      (posting : Posting db.ledger (collectionJournal key account.glAccountCode result) validated ledger posted)
      (voucherMade : VoucherMade { db with ledger, cash, credit := locked }
        (collectionVoucher key account.id result.paymentAmount branchId description posted.journal.id) made voucher)
      (settling : Settling (collectionEntry key customerId posted.journal.id voucher.id) result.allocations.length
        { book := db.credit.receivables, runningDebt := (db.credit.profile customerId).postedDebt }
        result.allocations.zipIdx progress)
      (receivables : credit.receivables = progress.book) (authorizations : credit.authorizations = db.credit.authorizations)
      (profile : db.credit.Updated credit customerId { db.credit.profile customerId with
        postedDebt := progress.runningDebt, prepaymentBalance := prepaid }) :
      Collecting db key dto customerId { made with credit }

theorem profilePaid_ok {after} {debt overpaid : Int} (ran : profilePaid profile debt overpaid = .ok after) :
    ∃ prepaid, after = { profile with postedDebt := debt, prepaymentBalance := prepaid } := by
  unfold profilePaid at ran
  split at ran
  · simp only [eq_ok] at ran
    obtain ⟨_, _, rfl⟩ := ran
    exact ⟨_, rfl⟩
  · cases ran
    exact ⟨profile.prepaymentBalance, rfl⟩

theorem applyReceivablePayment_ok {db after} {key : String} {dto response}
    (ids : (db.credit.receivables.documents.map (·.id)).Nodup)
    (ran : applyReceivablePayment db draws key receivableId customer dto = .ok (after, response)) :
    ∃ customerId, paymentCustomer db receivableId customer = .ok customerId ∧ Collecting db key dto customerId after := by
  simp only [applyReceivablePayment, eq_ok, parseVnd_eq_ok, Prod.mk.injEq] at ran
  obtain ⟨customerId, customer, ⟨locked, profile⟩, lock, _, _, result, calculated, ⟨cash, account⟩, opened, overpaid, ⟨beyond, _⟩,
    ⟨ledger, posted⟩, journal, ⟨made, voucher⟩, voucherMade, debt, ⟨owed, _⟩, progress, applied, profile', paid, _, _,
    rfl, _⟩ := ran
  obtain ⟨rfl, kept, readable⟩ := lockOrCreateProfileInTx_ok lock
  cases beyond
  cases owed
  obtain ⟨prepaid, rfl⟩ := profilePaid_ok paid
  obtain ⟨validated, accepted, posting⟩ := postJournalInTx_ok journal
  have done := createAndOptionallyPostVoucherInTx_ok voucherMade
  have credit : made.credit = locked := done.credit.1
  have own : ∀ doc ∈ openReceivables db receivableId customerId, doc.partyId = customerId := by
    intro doc member
    have chosen := (mem_filter.mp member).2
    simp only [Bool.and_eq_true, decide_eq_true_eq] at chosen
    exact chosen.1
  have docs : ((openReceivables db receivableId customerId).map (·.toOpenObligationSnapshot)).map (·.id) =
      (openReceivables db receivableId customerId).map (·.id) := by
    rw [map_map]
    rfl
  have allocation := calculateDocumentAllocations_ok (by
    rw [docs]
    exact (filter_sublist.map _).nodup ids) calculated
  rw [credit, kept.receivables] at applied
  have saved : db.credit.Updated
      ({ made.credit with receivables := progress.book }.saveProfile customerId { db.credit.profile customerId with
        postedDebt := progress.runningDebt, prepaymentBalance := prepaid })
      customerId { db.credit.profile customerId with postedDebt := progress.runningDebt, prepaymentBalance := prepaid } := by
    rw [credit]
    exact kept.updated (profile_saveProfile { locked with receivables := progress.book } customerId _)
  refine ⟨customerId, customer, .intro kept readable own allocation (paymentAccount_ok opened) accepted posting done
    (applyAllocations_settling ids own allocation applied) rfl ?_ saved⟩
  exact (congrArg (·.authorizations) credit).trans kept.authorizations

theorem readLedgerRow_ok {found read} (ran : readLedgerRow found = .ok read) : found = read := by
  cases found with
  | none =>
    cases ran
    rfl
  | some row =>
    simp only [readLedgerRow, eq_ok] at ran
    obtain ⟨_, _, _, _, _, _, rfl⟩ := ran
    rfl

theorem recordReceivablePayment_ok {db after : FinanceDb} {dto response}
    (ids : (db.credit.receivables.documents.map (·.id)).Nodup)
    (executed : recordReceivablePayment db draws receivableId customer header dto = .ok (after, response)) :
    (∃ credit, after = { db with credit } ∧ db.credit.Kept credit) ∨
      db.credit.receivables.paymentRow (dto.key header draws.key) = none ∧
      ∃ customerId, paymentCustomer db receivableId customer = .ok customerId ∧
        Collecting db (dto.key header draws.key) dto customerId after := by
  simp only [recordReceivablePayment, eq_ok] at executed
  obtain ⟨found, read, ran⟩ := executed
  cases readLedgerRow_ok read
  split at ran
  · simp only [replayReceivablePayment, eq_ok, Prod.mk.injEq] at ran
    obtain ⟨⟨credit, profile⟩, lock, rfl, _⟩ := ran
    exact .inl ⟨credit, rfl, (lockOrCreateProfileInTx_ok lock).2.1⟩
  · next absent => exact .inr ⟨absent, applyReceivablePayment_ok ids ran⟩

structure Limiting (db : CreditDb) (customerId : Uuid) (creditLimit : Int) (after : CreditDb) : Prop where
  safe : IsSafe creditLimit
  nonneg : 0 ≤ creditLimit
  authorizations : after.authorizations = db.authorizations
  receivables : after.receivables = db.receivables
  profile : db.Updated after customerId { db.profile customerId with creditLimit := creditLimit }

theorem updateCreditLimit_ok {db after} {creditLimit : Int} {response}
    (ran : updateCreditLimit db customerId creditLimit = .ok (after, response)) :
    Limiting db customerId creditLimit after := by
  simp only [updateCreditLimit, eq_ok, parseVnd_eq_ok, Prod.mk.injEq] at ran
  obtain ⟨_, ⟨given, safe, sign, _⟩, ⟨locked, profile⟩, lock, _, _, rfl, _⟩ := ran
  cases given
  obtain ⟨rfl, kept, _⟩ := lockOrCreateProfileInTx_ok lock
  simp only [Bool.false_eq_true, or_false] at sign
  exact ⟨safe, sign, kept.authorizations, kept.receivables,
    kept.updated (profile_saveProfile locked customerId _)⟩

/-- What a request may do to the books. -/
inductive CreditChange (db : FinanceDb) : CreditRequest → FinanceDb → Prop
  | kept {request credit} (kept : db.credit.Kept credit) :
      CreditChange db request { db with credit }
  | held {drawn now header dto auth credit} (holding : Holding db.credit dto auth credit) :
      CreditChange db (.authorize drawn now header dto) { db with credit }
  | committed {draws authId dto auth closed doc row after} (committing : Committing db auth closed doc row after) :
      CreditChange db (.commit draws authId dto) after
  | released {authId auth closed credit}
      (releasing : Releasing db.credit auth closed credit) : CreditChange db (.release authId) { db with credit }
  | expired {now locked credit} (expiring : Expiring db.credit credit) :
      CreditChange db (.expireStale now locked) { db with credit }
  | recognised {draws header dto doc row after} (debt : NewDebt db (dto.keys header) dto doc row after) :
      CreditChange db (.recognize draws header dto) after
  | collected {draws receivableId customer header dto customerId after}
      (absent : db.credit.receivables.paymentRow (dto.key header draws.key) = none)
      (collecting : Collecting db (dto.key header draws.key) dto customerId after) :
      CreditChange db (.pay draws receivableId customer header dto) after
  | limited {customerId creditLimit credit}
      (limiting : Limiting db.credit customerId creditLimit credit) :
      CreditChange db (.updateLimit customerId creditLimit) { db with credit }

structure CreditDb.Ids (db : CreditDb) : Prop where
  authorizations : (db.authorizations.map (·.id)).Nodup
  receivables : (db.receivables.documents.map (·.id)).Nodup

theorem creditStep_change {db : FinanceDb} (ids : db.credit.Ids) (request : CreditRequest) :
    CreditChange db request (creditStep db request) := by
  apply commit_preserves (CreditChange db request) (.kept ⟨fun _ => rfl, rfl, rfl⟩)
  intro after ran
  cases request with
  | authorize drawn now header dto =>
    obtain ⟨⟨credit, response⟩, performed, rfl⟩ := map_eq_ok.mp ran
    rcases authorizeCredit_ok performed with kept | ⟨auth, holding⟩
    · exact .kept kept
    · exact .held holding
  | commit draws authId dto =>
    obtain ⟨⟨done, response⟩, performed, rfl⟩ := map_eq_ok.mp ran
    rcases commitAuthorization_ok performed with ⟨credit, rfl, kept⟩ | ⟨auth, closed, doc, row, committing⟩
    · exact .kept kept
    · exact .committed committing
  | release authId =>
    obtain ⟨⟨credit, response⟩, performed, rfl⟩ := map_eq_ok.mp ran
    rcases releaseAuthorization_ok performed with kept | ⟨auth, closed, releasing⟩
    · exact .kept kept
    · exact .released releasing
  | expireStale now locked =>
    obtain ⟨credit, performed, rfl⟩ := map_eq_ok.mp ran
    exact .expired (expireStaleAuthorizations_ok ids.authorizations performed)
  | recognize draws header dto =>
    obtain ⟨⟨done, response⟩, performed, rfl⟩ := map_eq_ok.mp ran
    rcases recognizeReceivable_ok performed with ⟨credit, rfl, kept⟩ | ⟨doc, row, debt⟩
    · exact .kept kept
    · exact .recognised debt
  | pay draws receivableId customer header dto =>
    obtain ⟨⟨done, response⟩, performed, rfl⟩ := map_eq_ok.mp ran
    rcases recordReceivablePayment_ok ids.receivables performed with ⟨credit, rfl, kept⟩ | ⟨absent, _, _, collecting⟩
    · exact .kept kept
    · exact .collected absent collecting
  | updateLimit customerId creditLimit =>
    obtain ⟨⟨credit, response⟩, performed, rfl⟩ := map_eq_ok.mp ran
    exact .limited (updateCreditLimit_ok performed)

end Finance
