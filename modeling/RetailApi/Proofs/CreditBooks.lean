import RetailApi.Base.Run
import RetailApi.Proofs.CreditRequests

/-! The customer debt subledger over whole runs: what is held and what is owed is kept twice, in
the profiles and in the rows below them, and both stay equal as long as no debt is rounded. -/

namespace Finance

open Transaction JsNumber Keyed

def CustomerCreditAuthorizationEntity.heldAmount (auth : CustomerCreditAuthorizationEntity) : Int :=
  if auth.state = .held then auth.authorizedAmount else 0

def heldBy (authorizations : List CustomerCreditAuthorizationEntity) (customerId : Uuid) : Int :=
  total (·.customerId) (·.heldAmount) customerId authorizations

/-- The authorizations hold of every customer what `held` says. -/
structure Holds (authorizations : List CustomerCreditAuthorizationEntity) (held : Uuid → Int) : Prop where
  ids : (authorizations.map (·.id)).Nodup
  positive : ∀ auth ∈ authorizations, 0 < auth.authorizedAmount
  total : ∀ customerId, held customerId = heldBy authorizations customerId

namespace Holds

variable {authorizations : List CustomerCreditAuthorizationEntity} {held later : Uuid → Int}
  {auth closed : CustomerCreditAuthorizationEntity}

section

variable (holds : Holds authorizations held)
include holds

theorem heldAmount_nonneg : ∀ other ∈ authorizations, 0 ≤ other.heldAmount := by
  intro other member
  have positive := holds.positive other member
  unfold CustomerCreditAuthorizationEntity.heldAmount
  split <;> omega

theorem covered (member : auth ∈ authorizations) (state : auth.state = .held) :
    auth.authorizedAmount ≤ held auth.customerId := by
  have own : auth.heldAmount = auth.authorizedAmount := if_pos state
  rw [holds.total, ← own]
  exact Rows.le_total (fun other : CustomerCreditAuthorizationEntity => other.customerId) holds.heldAmount_nonneg member

theorem nonneg (customerId : Uuid) : 0 ≤ held customerId := by
  rw [holds.total]
  exact total_nonneg holds.heldAmount_nonneg

theorem hold (state : auth.state = .held) (positive : 0 < auth.authorizedAmount)
    (fresh : ∀ other ∈ authorizations, other.id ≠ auth.id)
    (changed : ∀ other, later other = if other = auth.customerId then held auth.customerId + auth.authorizedAmount
      else held other) : Holds (authorizations ++ [auth]) later := by
  constructor
  · exact nodup_append holds.ids fresh
  · exact forall_concat holds.positive positive
  · intro other
    have before := holds.total other
    have own : auth.heldAmount = auth.authorizedAmount := if_pos state
    rw [changed, heldBy, total_append, total_cons, total_nil, own]
    unfold heldBy at before
    by_cases same : other = auth.customerId
    · rw [same] at before ⊢
      simp only [↓reduceIte]
      omega
    · simp only [same, Ne.symm same, ↓reduceIte]
      omega

theorem close (member : auth ∈ authorizations) (state : auth.state = .held)
    (id : closed.id = auth.id) (customer : closed.customerId = auth.customerId)
    (amount : closed.authorizedAmount = auth.authorizedAmount) (beyond : closed.state ≠ .held)
    (changed : ∀ other, later other = if other = auth.customerId then
      lessAtMost (held auth.customerId) auth.authorizedAmount else held other) :
    Holds (Rows.save (·.id) closed authorizations) later := by
  have covered := holds.covered member state
  constructor
  · rw [Rows.keys_save]
    exact holds.ids
  · apply Rows.forall_save holds.positive
    rw [amount]
    exact holds.positive auth member
  · intro other
    have before := holds.total other
    have own : auth.heldAmount = auth.authorizedAmount := if_pos state
    have none : closed.heldAmount = 0 := if_neg beyond
    have less : lessAtMost (held auth.customerId) auth.authorizedAmount = held auth.customerId - auth.authorizedAmount :=
      if_pos covered
    rw [changed, heldBy, Rows.total_save holds.ids member id, customer, own, none, less]
    unfold heldBy at before
    by_cases same : other = auth.customerId
    · rw [same] at before ⊢
      simp only [↓reduceIte]
      omega
    · simp only [same, Ne.symm same, ↓reduceIte]
      omega

end

end Holds

theorem DebtBook.Agrees.congr {Columns : Type} {book : DebtBook Columns} {debt later} (agrees : book.Agrees debt)
    (same : ∀ party, later party = debt party) : book.Agrees later := by
  rw [funext same]
  exact agrees

theorem allocated_unadjusted (doc : CustomerReceivableEntity) (line : CalculatedAllocationLine) :
    (doc.allocated line).status ≠ .adjusted := by
  show line.statusAfter.status ≠ .adjusted
  cases line.statusAfter with
  | partiallyPaid => nofun
  | paid => nofun

variable {profile : CustomerCreditProfileEntity} {approver : Option String}

theorem WithinLimit.bounded {amount}
    (within : WithinLimit profile amount approver) (positive : 0 < amount) (regular : isOverride approver = false) :
    profile.postedDebt + profile.heldCredit + amount ≤ profile.creditLimit := by
  rcases within.allowed with allowed | overridden
  · unfold availableCredit at allowed
    split at allowed <;> omega
  · cases regular.symm.trans overridden

section Columns

variable {db after : CreditDb} {customerId : Uuid} {profile : CustomerCreditProfileEntity}

theorem column (updated : db.Updated after customerId profile) (read : CustomerCreditProfileEntity → Int) (other : Uuid) :
    read (after.profile other) = if other = customerId then read profile else read (db.profile other) := by
  rw [updated other]
  split <;> rfl

theorem column_kept (updated : db.Updated after customerId profile) (read : CustomerCreditProfileEntity → Int)
    (same : read profile = read (db.profile customerId)) (other : Uuid) :
    read (after.profile other) = read (db.profile other) := by
  rw [column updated read other, same]
  by_cases own : other = customerId
  · rw [if_pos own, own]
  · rw [if_neg own]

end Columns

def CreditDb.HoldsAgree (db : CreditDb) : Prop := Holds db.authorizations fun customerId => (db.profile customerId).heldCredit

namespace CreditDb.HoldsAgree

variable {db after : CreditDb} {auth closed : CustomerCreditAuthorizationEntity}

theorem same (holds : db.HoldsAgree) (authorizations : after.authorizations = db.authorizations)
    (profile : ∀ customerId, (after.profile customerId).heldCredit = (db.profile customerId).heldCredit) :
    after.HoldsAgree := by
  rw [HoldsAgree, authorizations, funext profile]
  exact holds

theorem hold {dto} (holds : db.HoldsAgree) (holding : Holding db dto auth after) : after.HoldsAgree := by
  rw [HoldsAgree, holding.authorizations]
  apply Holds.hold holds holding.state holding.positive holding.fresh
  rw [holding.customer]
  exact column holding.profile (·.heldCredit)

theorem close (holds : db.HoldsAgree) (closing : Closing db auth closed after) {profile}
    (updated : db.Updated after auth.customerId profile)
    (less : profile.heldCredit = lessAtMost (db.profile auth.customerId).heldCredit auth.authorizedAmount) :
    after.HoldsAgree := by
  rw [HoldsAgree, closing.authorizations]
  apply Holds.close holds closing.member closing.held closing.id closing.customer closing.amount closing.state
  rw [← less]
  exact column updated (·.heldCredit)

end CreditDb.HoldsAgree

structure CreditBooks (db : CreditDb) : Prop where
  holds : db.HoldsAgree
  debts : db.receivables.Agrees fun customerId => (db.profile customerId).postedDebt
  unadjusted : ∀ doc ∈ db.receivables.documents, doc.status ≠ .adjusted

namespace CreditBooks

variable {db after : CreditDb}

theorem empty : CreditBooks {} := by
  refine ⟨⟨List.nodup_nil, by simp, fun _ => rfl⟩, ?_, by simp⟩
  exact DebtBook.Agrees.empty rfl rfl

theorem ids (books : CreditBooks db) : db.Ids := ⟨books.holds.ids, books.debts.ids⟩

theorem kept (books : CreditBooks db) (kept : db.Kept after) : CreditBooks after := by
  refine ⟨books.holds.same kept.authorizations fun customerId => congrArg (·.heldCredit) (kept.profile customerId), ?_, ?_⟩
  · rw [kept.receivables, funext fun customerId => congrArg (·.postedDebt) (kept.profile customerId)]
    exact books.debts
  · rw [kept.receivables]
    exact books.unadjusted

variable {auth closed : CustomerCreditAuthorizationEntity} {customerId : Uuid} {doc : CustomerReceivableEntity}
  {row : DebtLedgerEntity} {store changed : FinanceDb}

theorem hold {dto} (books : CreditBooks db) (holding : Holding db dto auth after) : CreditBooks after := by
  refine ⟨books.holds.hold holding, ?_, ?_⟩
  · rw [holding.receivables]
    exact books.debts.congr (column_kept holding.profile (·.postedDebt) rfl)
  · rw [holding.receivables]
    exact books.unadjusted

theorem release (books : CreditBooks db) (releasing : Releasing db auth closed after) : CreditBooks after := by
  refine ⟨books.holds.close releasing.toClosing releasing.profile rfl, ?_, ?_⟩
  · rw [releasing.receivables]
    exact books.debts.congr (column_kept releasing.profile (·.postedDebt) rfl)
  · rw [releasing.receivables]
    exact books.unadjusted

theorem expire (books : CreditBooks db) (expiring : Expiring db after) : CreditBooks after := by
  induction expiring with
  | done => exact books
  | next releasing _ inner => exact inner (books.release releasing)

theorem recognised {amount profile} (books : CreditBooks db) (recognising : Recognising db customerId amount doc row after)
    (unrounded : add (db.profile customerId).postedDebt amount = (db.profile customerId).postedDebt + amount)
    (updated : db.Updated after customerId profile) (debt : profile.postedDebt = (db.profile customerId).postedDebt + amount) :
    after.receivables.Agrees (fun other => (after.profile other).postedDebt) ∧
      ∀ doc ∈ after.receivables.documents, doc.status ≠ .adjusted := by
  obtain ⟨original, paid, adjusted, outstanding⟩ := recognising.amounts
  have positive := recognising.positive
  have safe := recognising.safe
  have open_ : doc.status.isOpen = true := by rw [recognising.status, ObligationStatus.isOpen]
  have fits : doc.AddsUp := by
    refine ⟨by omega, by omega, by omega, by omega, original ▸ safe, ?_⟩
    rw [open_, outstanding]
    constructor
    · rintro ⟨⟩
    · omega
  constructor
  · have agrees := books.debts.recognise recognising.documents recognising.ledger recognising.fresh fits
      (recognising.rowParty.trans recognising.party.symm) (recognising.delta.trans outstanding.symm)
      (by rw [recognising.before, recognising.party]) (by rw [recognising.later, recognising.party, outstanding, unrounded])
    apply agrees.congr
    rw [recognising.party, outstanding, ← debt]
    exact column updated (·.postedDebt)
  · rw [recognising.documents]
    intro other member
    rcases List.mem_append.mp member with old | new
    · exact books.unadjusted other old
    · rw [List.mem_singleton.mp new, recognising.status]
      rintro ⟨⟩

theorem commit (books : CreditBooks store.credit)
    (committing : Committing store auth closed doc row changed) : CreditBooks changed.credit := by
  obtain ⟨agrees, unadjusted⟩ :=
    books.recognised committing.recognising committing.unrounded committing.profile rfl
  exact ⟨books.holds.close committing.closing committing.profile rfl, agrees, unadjusted⟩

theorem recognise {keys dto} (books : CreditBooks store.credit)
    (debt : NewDebt store keys dto doc row changed) (unrounded : add (store.credit.profile dto.customerId).postedDebt dto.amount =
      (store.credit.profile dto.customerId).postedDebt + dto.amount) : CreditBooks changed.credit := by
  obtain ⟨agrees, unadjusted⟩ := books.recognised debt.recognising unrounded debt.profile unrounded
  exact ⟨books.holds.same debt.authorizations (column_kept debt.profile (·.heldCredit) rfl), agrees, unadjusted⟩

theorem collect {key dto} (books : CreditBooks store.credit) (collecting : Collecting store key dto customerId changed) :
    CreditBooks changed.credit := by
  cases collecting with
  | intro _ _ _ _ _ _ _ _ settling receivables authorizations profile =>
    refine ⟨books.holds.same authorizations (column_kept profile (·.heldCredit) rfl), ?_, ?_⟩
    · rw [receivables]
      apply (books.debts.settle settling).congr
      exact column profile (·.postedDebt)
    · rw [receivables]
      exact settling.documents (fun doc line _ _ => allocated_unadjusted doc line) books.unadjusted

theorem limit {creditLimit} (books : CreditBooks db)
    (limiting : Limiting db customerId creditLimit after) : CreditBooks after := by
  refine ⟨books.holds.same limiting.authorizations (column_kept limiting.profile (·.heldCredit) rfl), ?_, ?_⟩
  · rw [limiting.receivables]
    exact books.debts.congr (column_kept limiting.profile (·.postedDebt) rfl)
  · rw [limiting.receivables]
    exact books.unadjusted

end CreditBooks

def openReceivablesOf (db : CreditDb) (customerId : Uuid) : List CustomerReceivableEntity :=
  db.receivables.documents.filter fun doc => doc.partyId = customerId ∧ (doc.status = .open ∨ doc.status = .partiallyPaid)

def debtLedgerOf (db : CreditDb) (customerId : Uuid) : List DebtLedgerEntity :=
  db.receivables.ledger.filter fun row => row.partyId = customerId

structure SubledgerAgrees (db : CreditDb) : Prop where
  held : ∀ customerId, (db.profile customerId).heldCredit = heldBy db.authorizations customerId
  posted : ∀ customerId, (db.profile customerId).postedDebt =
    ((openReceivablesOf db customerId).map (·.outstandingAmount)).sum
  ledger : ∀ customerId, (db.profile customerId).postedDebt = ((debtLedgerOf db customerId).map (·.amountDelta)).sum
  rows : ∀ row ∈ db.receivables.ledger, row.balanceAfter = row.balanceBefore + row.amountDelta
  chained : ∀ customerId, Chain.Linked (·.amountDelta) (·.balanceAfter) 0 (debtLedgerOf db customerId)
    (db.profile customerId).postedDebt
  receivables : ∀ doc ∈ db.receivables.documents,
    doc.originalAmount = doc.paidAmount + doc.adjustedAmount + doc.outstandingAmount ∧ 0 ≤ doc.outstandingAmount ∧
      (doc.status = .paid ↔ doc.outstandingAmount = 0)
  holdsFit : ∀ auth ∈ db.authorizations, auth.state = .held →
    lessAtMost (db.profile auth.customerId).heldCredit auth.authorizedAmount =
      (db.profile auth.customerId).heldCredit - auth.authorizedAmount
  debtsFit : ∀ doc ∈ db.receivables.documents,
    lessAtMost (db.profile doc.partyId).postedDebt doc.outstandingAmount =
      (db.profile doc.partyId).postedDebt - doc.outstandingAmount

theorem owed_open {documents : List CustomerReceivableEntity} (each : ∀ doc ∈ documents, doc.AddsUp) (customerId : Uuid) :
    total (·.partyId) (·.outstandingAmount) customerId documents =
      ((documents.filter fun doc => doc.partyId = customerId ∧ (doc.status = .open ∨ doc.status = .partiallyPaid)).map
        (·.outstandingAmount)).sum := by
  induction documents with
  | nil => rfl
  | cons doc documents inner =>
    have rest := inner fun other member => each other (.tail _ member)
    have settled := (each doc (.head _)).settled
    rw [total_cons, rest, List.filter_cons]
    by_cases own : doc.partyId = customerId
    · cases status : doc.status with
      | «open» => simp [own]
      | partiallyPaid => simp [own]
      | paid =>
        rw [status] at settled
        simp [own, settled.mp rfl]
      | adjusted =>
        rw [status] at settled
        simp [own, settled.mp rfl]
    · simp [own]

theorem CreditBooks.agrees {db : CreditDb} (books : CreditBooks db) : SubledgerAgrees db where
  held := books.holds.total
  posted customerId := (books.debts.owed customerId).trans (owed_open books.debts.documents customerId)
  ledger customerId := by
    have total := (books.debts.linked customerId).total
    rwa [Int.zero_add] at total
  rows := books.debts.rows
  chained := books.debts.linked
  receivables := by
    intro doc member
    have fits := books.debts.documents doc member
    have unadjusted := books.unadjusted doc member
    refine ⟨fits.original, fits.outstanding, ?_⟩
    rw [← fits.settled]
    cases status : doc.status with
    | adjusted => exact absurd status unadjusted
    | _ => simp [ObligationStatus.isOpen]
  holdsFit auth member held := if_pos (books.holds.covered member held)
  debtsFit doc member := if_pos (books.debts.outstanding_le member)

/-- The debt a request adds is stored as the exact sum; within the limit it always is. -/
def Unrounded (db : FinanceDb) : CreditRequest → Prop
  | .recognize _ header dto =>
    0 < dto.amount ∧ IsSafe dto.amount → IsSafe (db.credit.profile dto.customerId).postedDebt →
      db.credit.receivables.recognized (dto.keys header) = none → isOverride dto.overrideApprovedBy = true →
      add (db.credit.profile dto.customerId).postedDebt dto.amount =
        (db.credit.profile dto.customerId).postedDebt + dto.amount
  | _ => True

theorem unrounded_within {amount}
    (within : WithinLimit profile amount approver) (safe : IsSafe profile.creditLimit) (positive : 0 < amount)
    (regular : isOverride approver = false) : add profile.postedDebt amount = profile.postedDebt + amount := by
  have bounded := within.bounded positive regular
  obtain ⟨_, posted, held⟩ := within.readable
  apply add_of_safe
  unfold IsSafe maxSafeInteger at safe ⊢
  omega

theorem CreditBooks.step {db request} (unrounded : Unrounded db request)
    (books : CreditBooks db.credit) : CreditBooks (creditStep db request).credit := by
  have change := creditStep_change books.ids request
  generalize creditStep db request = after at change ⊢
  cases change with
  | kept kept => exact books.kept kept
  | held holding => exact books.hold holding
  | committed committing => exact books.commit committing
  | released releasing => exact books.release releasing
  | expired expiring => exact books.expire expiring
  | @recognised _ _ dto _ _ _ debt =>
    apply books.recognise debt
    cases overridden : isOverride dto.overrideApprovedBy with
    | true =>
      have recognising := debt.recognising
      exact unrounded ⟨recognising.positive, recognising.safe⟩ debt.readable.postedDebt debt.absent overridden
    | false => exact unrounded_within debt.limit debt.readable.creditLimit debt.recognising.positive overridden
  | collected _ collecting => exact books.collect collecting
  | limited limiting => exact books.limit limiting

/-- The subledger agrees after every run in which no debt recognised under an override is rounded. -/
theorem subledger_agrees_unrounded {db : FinanceDb} (empty : db.credit = {}) {requests : List CreditRequest}
    (unrounded : Run.Meets creditStep Unrounded db requests) :
    SubledgerAgrees (Run.after creditStep db requests).credit := by
  have start : CreditBooks db.credit := by
    rw [empty]
    exact CreditBooks.empty
  have books := Run.invariant_of_meets (fun now : FinanceDb => CreditBooks now.credit)
    (fun _ _ met kept => kept.step met) unrounded start
  exact books.agrees

private def saleOnCredit (orderId : Uuid) (amount : Int) (approver : Option String) : CreditRequest :=
  .recognize { journal := orderId, document := orderId } none
    { customerId := 1, amount, orderId := some orderId, overrideApprovedBy := approver }

private def creditSales : List CreditRequest :=
  [saleOnCredit 1 900000 none, .authorize 1 0 (some "hold") { customerId := 1, amount := 500000 },
    .commit { journal := 2, document := 2 } 1 {},
    .pay { account := 1, category := 1, journal := 3, entry := 1 } none (some 1) (some "pay") { amount := 1000000 }]

theorem credit_sales_agree : SubledgerAgrees (Run.after creditStep {} creditSales).credit ∧
    ((Run.after creditStep {} creditSales).credit.profile 1).postedDebt = 400000 := by
  have regular : isOverride none ≠ true := nofun
  refine ⟨subledger_agrees_unrounded rfl ⟨fun _ _ _ overridden => absurd overridden regular, trivial, trivial, trivial, trivial⟩, ?_⟩
  decide +kernel

/-- Under an override a debt passes the safe integers, and the sum that is stored is a rounded one. -/
theorem overridden_debt_is_rounded : ¬SubledgerAgrees (Run.after creditStep {}
    [saleOnCredit 1 9007199254740991 (some "owner"), saleOnCredit 2 2 (some "owner")]).credit := by
  intro agrees
  have apart : ((Run.after creditStep {}
      [saleOnCredit 1 9007199254740991 (some "owner"), saleOnCredit 2 2 (some "owner")]).credit.profile 1).postedDebt ≠
      ((openReceivablesOf (Run.after creditStep {}
        [saleOnCredit 1 9007199254740991 (some "owner"), saleOnCredit 2 2 (some "owner")]).credit 1).map
          (·.outstandingAmount)).sum := by
    decide +kernel
  exact apart (agrees.posted 1)

end Finance
