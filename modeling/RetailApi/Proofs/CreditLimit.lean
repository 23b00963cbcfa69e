import RetailApi.Proofs.CreditBooks

/-! The credit limit of one customer: without overrides, and while the limit is not lowered, what is
owed and what is held stay under it, and new requests are refused exactly when they would not. -/

namespace Finance

open Transaction JsNumber

/-- Debt and holds of the customer fit the customer's limit together. -/
structure UnderLimit (db : CreditDb) (customerId : Uuid) : Prop where
  holds : db.HoldsAgree
  documents : (db.receivables.documents.map (·.id)).Nodup
  posted : 0 ≤ (db.profile customerId).postedDebt
  limit : (db.profile customerId).postedDebt + (db.profile customerId).heldCredit ≤ (db.profile customerId).creditLimit
  safe : IsSafe (db.profile customerId).creditLimit

def Regular (customerId : Uuid) (db : FinanceDb) : CreditRequest → Prop
  | .authorize _ _ _ dto => dto.customerId = customerId → isOverride dto.overrideApprovedBy = false
  | .recognize _ _ dto => dto.customerId = customerId → isOverride dto.overrideApprovedBy = false
  | .updateLimit other creditLimit => other = customerId → (db.credit.profile customerId).creditLimit ≤ creditLimit
  | _ => True

structure CustomerCreditProfileEntity.Under (profile : CustomerCreditProfileEntity) : Prop where
  posted : 0 ≤ profile.postedDebt
  limit : profile.postedDebt + profile.heldCredit ≤ profile.creditLimit
  safe : IsSafe profile.creditLimit

namespace UnderLimit

variable {db after : CreditDb} {customerId other : Uuid}

theorem under (kept : UnderLimit db customerId) : (db.profile customerId).Under := ⟨kept.posted, kept.limit, kept.safe⟩

theorem updated (kept : UnderLimit db customerId) {profile}
    (updated : db.Updated after other profile) (under : other = customerId → (db.profile other).Under → profile.Under)
    (holds : after.HoldsAgree) (documents : (after.receivables.documents.map (·.id)).Nodup) : UnderLimit after customerId := by
  have now : (after.profile customerId).Under := by
    rw [updated customerId]
    by_cases own : other = customerId
    · rw [if_pos own.symm]
      exact under own (own ▸ kept.under)
    · rw [if_neg (Ne.symm own)]
      exact kept.under
  exact ⟨holds, documents, now.posted, now.limit, now.safe⟩

theorem empty (customerId : Uuid) : UnderLimit {} customerId := by
  have new : ({} : CreditDb).profile customerId = {} := rfl
  have under : ({} : CustomerCreditProfileEntity).Under := ⟨by decide, by decide, by decide⟩
  exact ⟨CreditBooks.empty.holds, List.nodup_nil, under.posted, under.limit, under.safe⟩

theorem kept (under : UnderLimit db customerId) (kept : db.Kept after) : UnderLimit after customerId := by
  have profile := kept.profile customerId
  refine ⟨under.holds.same kept.authorizations fun customerId => congrArg (·.heldCredit) (kept.profile customerId), ?_,
    profile ▸ under.posted, profile ▸ under.limit, profile ▸ under.safe⟩
  rw [kept.receivables]
  exact under.documents

variable {auth closed : CustomerCreditAuthorizationEntity} {doc : CustomerReceivableEntity} {row : DebtLedgerEntity}
  {store changed : FinanceDb}

section

variable (kept : UnderLimit db customerId)
include kept

theorem hold {dto}
    (regular : dto.customerId = customerId → isOverride dto.overrideApprovedBy = false)
    (holding : Holding db dto auth after) : UnderLimit after customerId := by
  apply kept.updated holding.profile ?_ (kept.holds.hold holding) (holding.receivables ▸ kept.documents)
  intro own under
  have bounded := holding.limit.bounded holding.positive (regular own)
  exact ⟨under.posted, by dsimp only; omega, under.safe⟩

theorem release (releasing : Releasing db auth closed after) : UnderLimit after customerId := by
  have covered := kept.holds.covered releasing.member releasing.held
  have positive := kept.holds.positive auth releasing.member
  apply kept.updated releasing.profile ?_ (kept.holds.close releasing.toClosing releasing.profile rfl)
    (releasing.receivables ▸ kept.documents)
  intro _ under
  have less : lessAtMost (db.profile auth.customerId).heldCredit auth.authorizedAmount =
      (db.profile auth.customerId).heldCredit - auth.authorizedAmount := if_pos covered
  refine ⟨under.posted, ?_, under.safe⟩
  have limit := under.limit
  show _ + lessAtMost _ _ ≤ (db.profile auth.customerId).creditLimit
  rw [less]
  show (db.profile auth.customerId).postedDebt + _ ≤ _
  omega

theorem expire (expiring : Expiring db after) : UnderLimit after customerId := by
  induction expiring with
  | done => exact kept
  | next releasing _ inner => exact inner (kept.release releasing)

theorem documents_recognised {amount}
    (recognising : Recognising db other amount doc row after) :
    (after.receivables.documents.map (·.id)).Nodup := by
  rw [recognising.documents]
  exact Keyed.nodup_append kept.documents recognising.fresh

end

section

variable (kept : UnderLimit store.credit customerId)
include kept

theorem commit
    (committing : Committing store auth closed doc row changed) : UnderLimit changed.credit customerId := by
  have covered := kept.holds.covered committing.closing.member committing.closing.held
  have positive := committing.recognising.positive
  apply kept.updated committing.profile ?_ (kept.holds.close committing.closing committing.profile rfl)
    (kept.documents_recognised committing.recognising)
  intro _ under
  have less : lessAtMost (store.credit.profile auth.customerId).heldCredit auth.authorizedAmount =
      (store.credit.profile auth.customerId).heldCredit - auth.authorizedAmount := if_pos covered
  have posted := under.posted
  have limit := under.limit
  refine ⟨?_, ?_, under.safe⟩
  · show 0 ≤ (store.credit.profile auth.customerId).postedDebt + auth.authorizedAmount
    omega
  · show (store.credit.profile auth.customerId).postedDebt + auth.authorizedAmount + lessAtMost _ _ ≤
      (store.credit.profile auth.customerId).creditLimit
    rw [less]
    omega

theorem recognise {keys} {dto}
    (regular : dto.customerId = customerId → isOverride dto.overrideApprovedBy = false)
    (debt : NewDebt store keys dto doc row changed) : UnderLimit changed.credit customerId := by
  have positive := debt.recognising.positive
  apply kept.updated debt.profile ?_ (kept.holds.same debt.authorizations (column_kept debt.profile (·.heldCredit) rfl))
    (kept.documents_recognised debt.recognising)
  intro own under
  have bounded := debt.limit.bounded positive (regular own)
  have unrounded := unrounded_within debt.limit under.safe positive (regular own)
  have posted := under.posted
  refine ⟨?_, ?_, under.safe⟩
  · show 0 ≤ add _ _
    rw [unrounded]
    omega
  · show add _ _ + (store.credit.profile dto.customerId).heldCredit ≤ (store.credit.profile dto.customerId).creditLimit
    rw [unrounded]
    omega

theorem collect {key dto} (collecting : Collecting store key dto other changed) :
    UnderLimit changed.credit customerId := by
  cases collecting with
  | intro _ _ _ _ _ _ _ _ settling receivables authorizations profile =>
    apply kept.updated profile ?_ (kept.holds.same authorizations (column_kept profile (·.heldCredit) rfl))
    · rw [receivables, settling.ids]
      exact kept.documents
    · intro _ under
      obtain ⟨nonneg, less⟩ := settling.running_le under.posted
      have limit := under.limit
      exact ⟨nonneg, by dsimp only at less ⊢; omega, under.safe⟩

end

theorem limited {creditLimit} (kept : UnderLimit db customerId)
    (regular : other = customerId → (db.profile customerId).creditLimit ≤ creditLimit)
    (limiting : Limiting db other creditLimit after) : UnderLimit after customerId := by
  apply kept.updated limiting.profile ?_
    (kept.holds.same limiting.authorizations (column_kept limiting.profile (·.heldCredit) rfl))
    (limiting.receivables ▸ kept.documents)
  intro own under
  have raised := regular own
  rw [← own] at raised
  exact ⟨under.posted, under.limit.trans raised, limiting.safe⟩

theorem step {request} (regular : Regular customerId store request)
    (kept : UnderLimit store.credit customerId) : UnderLimit (creditStep store request).credit customerId := by
  have change := creditStep_change ⟨kept.holds.ids, kept.documents⟩ request
  generalize creditStep store request = changed at change ⊢
  cases change with
  | kept same => exact kept.kept same
  | held holding => exact kept.hold regular holding
  | committed committing => exact kept.commit committing
  | released releasing => exact kept.release releasing
  | expired expiring => exact kept.expire expiring
  | recognised debt => exact kept.recognise regular debt
  | collected _ collecting => exact kept.collect collecting
  | limited limiting => exact kept.limited regular limiting

end UnderLimit

def Failure.isLimit : Failure → Bool
  | .domain .customerCreditLimitExceeded _ _ => true
  | _ => false

def refusedForLimit {α : Type} : Except Failure α → Bool
  | .error failure => failure.isLimit
  | .ok _ => false

section Refusals

variable {α β : Type}

variable {first : Except Failure α} {next : α → Except Failure β} {failure : Failure}

theorem not_refused_bind (here : refusedForLimit first = false)
    (later : ∀ value, refusedForLimit (next value) = false) : refusedForLimit (first >>= next) = false := by
  cases first with
  | ok value => exact later value
  | error failure => exact here

theorem not_refused_ensure {condition} [Decidable condition]
    (other : refusedForLimit (.error failure : Except Failure Unit) = false) :
    refusedForLimit (ensure condition failure) = false := by
  unfold ensure
  split
  · rfl
  · exact other

theorem not_refused_required {row : Option α} (other : refusedForLimit (.error failure : Except Failure α) = false) :
    refusedForLimit (required row failure) = false := by
  cases row with
  | none => exact other
  | some found => rfl

theorem not_refused_parseVnd (raw : Option Int) (options : ParseMoneyOptions) :
    refusedForLimit (parseVnd raw options) = false := by
  apply not_refused_bind (not_refused_required rfl)
  intro value
  apply not_refused_bind (not_refused_ensure rfl)
  intro _
  apply not_refused_bind (not_refused_ensure rfl)
  intro _
  apply not_refused_bind (not_refused_ensure rfl)
  intro _
  rfl

theorem not_refused_mapM {change : α → Except Failure β} (each : ∀ item, refusedForLimit (change item) = false)
    (items : List α) : refusedForLimit (items.mapM change) = false := by
  induction items with
  | nil => rfl
  | cons item items inner =>
    rw [List.mapM_cons]
    exact not_refused_bind (each item) fun _ => not_refused_bind inner fun _ => rfl

theorem not_refused_forM {check} (each : ∀ item, refusedForLimit (check item) = false)
    (items : List α) : refusedForLimit (items.forM check) = false := by
  induction items with
  | nil => rfl
  | cons item items inner =>
    exact not_refused_bind (each item) fun _ => inner

theorem not_refused_postJournalInTx (db : JournalDb) (drawn : Uuid) (input : PostJournalInTxInput) :
    refusedForLimit (postJournalInTx db drawn input) = false := by
  apply not_refused_bind
  · apply not_refused_bind (not_refused_ensure rfl)
    intro _
    apply not_refused_bind
    · apply not_refused_mapM
      intro line
      apply not_refused_bind (not_refused_ensure rfl)
      intro _
      apply not_refused_bind (not_refused_parseVnd _ _)
      intro _
      apply not_refused_bind (not_refused_parseVnd _ _)
      intro _
      split <;> rfl
    · intro _
      split <;> rfl
  · intro validated
    split
    · exact not_refused_bind (not_refused_bind (not_refused_ensure rfl) fun _ => rfl) fun _ => rfl
    · apply not_refused_bind
      · apply not_refused_forM
        intro line
        exact not_refused_bind (not_refused_required rfl) fun _ => not_refused_ensure rfl
      · intro _
        exact not_refused_bind (not_refused_bind (not_refused_ensure rfl) fun _ => rfl) fun _ => rfl

theorem not_refused_creditSummary (profile : CustomerCreditProfileEntity) : refusedForLimit (creditSummary profile) = false := by
  apply not_refused_bind (not_refused_parseVnd _ _)
  intro _
  apply not_refused_bind (not_refused_parseVnd _ _)
  intro _
  exact not_refused_bind (not_refused_parseVnd _ _) fun _ => rfl

theorem refused_of_ok {value} (succeeded : first = .ok value) :
    refusedForLimit (first >>= next) = refusedForLimit (next value) := by
  rw [succeeded]
  rfl

theorem refused_ensure {condition} [Decidable condition] (limit : failure.isLimit = true) :
    refusedForLimit (ensure condition failure) = true ↔ ¬condition := by
  unfold ensure
  split
  · next met => simp [refusedForLimit, met]
  · next unmet => simp [refusedForLimit, limit, unmet]

theorem refused_first
    (later : ∀ value, refusedForLimit (next value) = false) : refusedForLimit (first >>= next) = refusedForLimit first := by
  cases first with
  | ok value => exact later value
  | error failure => rfl

end Refusals

theorem evaluate_refused {profile : CustomerCreditProfileEntity} (under : profile.Under) (held : 0 ≤ profile.heldCredit)
    {amount} (valid : 0 < amount ∧ IsSafe amount) {approver} (regular : isOverride approver = false) :
    refusedForLimit (evaluateCreditAuthorization {
      creditLimit := profile.creditLimit, postedDebt := profile.postedDebt, heldCredit := profile.heldCredit
      requestedAmount := amount, overrideApprovedBy := approver }) = true ↔
      profile.creditLimit - profile.postedDebt - profile.heldCredit < amount := by
  have posted := under.posted
  have limit := under.limit
  have safe := under.safe
  have within : ∀ value, 0 ≤ value → value ≤ profile.creditLimit → IsSafe value := by
    intro value nonneg small
    unfold IsSafe maxSafeInteger at safe ⊢
    omega
  have sum : add profile.postedDebt profile.heldCredit = profile.postedDebt + profile.heldCredit :=
    add_of_safe (within _ (by omega) limit)
  have available : availableCredit profile.creditLimit profile.postedDebt profile.heldCredit =
      profile.creditLimit - profile.postedDebt - profile.heldCredit := by
    unfold availableCredit
    rw [sum]
    split <;> omega
  have first : parseVnd (some profile.creditLimit) { allowZero := true, field := "creditLimit" } = .ok profile.creditLimit :=
    parseVnd_eq_ok.mpr ⟨rfl, safe, .inl (by omega), .inr rfl⟩
  have second : parseVnd (some profile.postedDebt) { allowZero := true, field := "postedDebt" } = .ok profile.postedDebt :=
    parseVnd_eq_ok.mpr ⟨rfl, within _ posted (by omega), .inl posted, .inr rfl⟩
  have third : parseVnd (some profile.heldCredit) { allowZero := true, field := "heldCredit" } = .ok profile.heldCredit :=
    parseVnd_eq_ok.mpr ⟨rfl, within _ held (by omega), .inl held, .inr rfl⟩
  have last : parseVnd (some amount) { field := "requestedAmount" } = .ok amount :=
    parseVnd_eq_ok.mpr ⟨rfl, valid.2, .inl (by omega), .inl (by omega)⟩
  unfold evaluateCreditAuthorization
  rw [refused_of_ok first, refused_of_ok second, refused_of_ok third, refused_of_ok last]
  rw [refused_first fun _ => rfl, refused_ensure rfl, available, regular]
  simp

variable {customerId : Uuid} {header : Option String}

theorem lock_readable {db} (readable : (db.profile customerId).Readable) :
    ∃ locked, lockOrCreateProfileInTx db customerId = .ok (locked, db.profile customerId) ∧ db.Kept locked := by
  have ran : ∃ locked profile, lockOrCreateProfileInTx db customerId = .ok (locked, profile) := by
    unfold lockOrCreateProfileInTx
    cases found : db.profiles.lookup customerId with
    | none => exact ⟨_, _, rfl⟩
    | some stored =>
      rw [CreditDb.profile, found, Option.getD_some] at readable
      exact ⟨db, stored, by simp only [eq_ok, readProfile_eq_ok]; exact ⟨stored, ⟨readable, rfl⟩, rfl⟩⟩
  obtain ⟨locked, profile, ran⟩ := ran
  obtain ⟨rfl, kept, _⟩ := lockOrCreateProfileInTx_ok ran
  exact ⟨locked, ran, kept⟩

theorem UnderLimit.readable {db} (kept : UnderLimit db customerId)
    (prepaid : IsSafe (db.profile customerId).prepaymentBalance) : (db.profile customerId).Readable := by
  have safe := kept.safe
  have posted := kept.posted
  have held := kept.holds.nonneg customerId
  have limit := kept.limit
  unfold IsSafe maxSafeInteger at safe
  refine ⟨kept.safe, ?_, ?_, prepaid⟩ <;> unfold IsSafe maxSafeInteger <;> omega

def CreditDb.leftOf (db : CreditDb) (customerId : Uuid) : Int :=
  (db.profile customerId).creditLimit - (db.profile customerId).postedDebt - (db.profile customerId).heldCredit

/-- A request for a hold that comes with a key it was not made under before. -/
def NewAuthorization (db : CreditDb) (header : Option String) (dto : CreateCreditAuthorizationDto) : Prop :=
  ∃ key, optionalKey (header <|> dto.idempotencyKey) = some key ∧ db.authorizationByKey key = none

theorem parseVnd_valid {amount : Int} (valid : 0 < amount ∧ IsSafe amount) : parseVnd (some amount) = .ok amount :=
  parseVnd_eq_ok.mpr ⟨rfl, valid.2, .inl valid.1.le, .inl valid.1.ne'⟩

theorem authorizeCredit_refused {db} (kept : UnderLimit db customerId)
    (prepaid : IsSafe (db.profile customerId).prepaymentBalance) {drawn now}
    {dto : CreateCreditAuthorizationDto} (customer : dto.customerId = customerId) (valid : 0 < dto.amount ∧ IsSafe dto.amount)
    (regular : isOverride dto.overrideApprovedBy = false) (fresh : NewAuthorization db header dto) :
    refusedForLimit (authorizeCredit db drawn now header dto) = true ↔ db.leftOf customerId < dto.amount := by
  obtain ⟨key, given, absent⟩ := fresh
  cases customer
  obtain ⟨locked, lock, same⟩ := lock_readable (kept.readable prepaid)
  have none : locked.authorizationByKey key = none := by
    unfold CreditDb.authorizationByKey
    rw [same.authorizations]
    exact absent
  unfold authorizeCredit
  rw [refused_of_ok (required_eq_ok.mpr given), refused_of_ok (parseVnd_valid valid), refused_of_ok lock]
  dsimp only
  rw [none]
  dsimp only [holdCredit]
  rw [refused_first]
  · exact evaluate_refused kept.under (kept.holds.nonneg dto.customerId) valid regular
  · intro evaluation
    apply not_refused_bind (not_refused_bind (not_refused_creditSummary _) fun _ => rfl)
    intro _
    rfl

theorem recognizeReceivable_refused {db} (kept : UnderLimit db.credit customerId)
    (prepaid : IsSafe (db.credit.profile customerId).prepaymentBalance) {draws}
    {dto : RecognizeReceivableDto} (customer : dto.customerId = customerId) (valid : 0 < dto.amount ∧ IsSafe dto.amount)
    (regular : isOverride dto.overrideApprovedBy = false) (fresh : db.credit.receivables.recognized (dto.keys header) = none) :
    refusedForLimit (recognizeReceivable db draws header dto) = true ↔ db.credit.leftOf customerId < dto.amount := by
  cases customer
  obtain ⟨locked, lock, same⟩ := lock_readable (kept.readable prepaid)
  have none : locked.receivables.recognized (dto.keys header) = none := by
    rw [same.receivables]
    exact fresh
  unfold recognizeReceivable
  rw [refused_of_ok (parseVnd_valid valid), refused_of_ok lock]
  dsimp only
  rw [none]
  dsimp only [recognizeNew]
  rw [refused_first]
  · exact evaluate_refused kept.under (kept.holds.nonneg dto.customerId) valid regular
  · intro _
    apply not_refused_bind (not_refused_parseVnd _ _)
    intro _
    apply not_refused_bind (not_refused_postJournalInTx _ _ _)
    intro _
    apply not_refused_bind
    · exact not_refused_bind (not_refused_ensure rfl) fun _ => not_refused_bind (not_refused_ensure rfl) fun _ => rfl
    · intro _
      exact not_refused_bind (not_refused_bind (not_refused_ensure rfl) fun _ => rfl) fun _ => rfl

/-- In every run without overrides and without a lower limit for a customer, the customer stays under the limit,
and a new request with a valid amount is refused for the limit exactly when the limit leaves less. -/
theorem credit_limit_kept {db : FinanceDb} (empty : db.credit = {}) {customerId : Uuid} {requests : List CreditRequest}
    (regular : Run.Meets creditStep (Regular customerId) db requests) :
    let now := Run.after creditStep db requests
    (now.credit.profile customerId).postedDebt + (now.credit.profile customerId).heldCredit ≤
        (now.credit.profile customerId).creditLimit ∧
      (IsSafe (now.credit.profile customerId).prepaymentBalance →
        (∀ (drawn : Uuid) (time : Nat) (header : Option String) (dto : CreateCreditAuthorizationDto),
          dto.customerId = customerId → 0 < dto.amount ∧ IsSafe dto.amount → isOverride dto.overrideApprovedBy = false →
          NewAuthorization now.credit header dto →
          (refusedForLimit (authorizeCredit now.credit drawn time header dto) = true ↔
            now.credit.leftOf customerId < dto.amount)) ∧
        ∀ (draws : Draws) (header : Option String) (dto : RecognizeReceivableDto),
          dto.customerId = customerId → 0 < dto.amount ∧ IsSafe dto.amount → isOverride dto.overrideApprovedBy = false →
          now.credit.receivables.recognized (dto.keys header) = none →
          (refusedForLimit (recognizeReceivable now draws header dto) = true ↔
            now.credit.leftOf customerId < dto.amount)) := by
  have start : UnderLimit db.credit customerId := by
    rw [empty]
    exact UnderLimit.empty customerId
  have kept := Run.invariant_of_meets (fun now : FinanceDb => UnderLimit now.credit customerId)
    (fun _ _ met kept => kept.step met) regular start
  refine ⟨kept.limit, fun prepaid => ⟨?_, ?_⟩⟩
  · intro drawn time header dto customer valid regular fresh
    exact authorizeCredit_refused kept prepaid customer valid regular fresh
  · intro draws header dto customer valid regular fresh
    exact recognizeReceivable_refused kept prepaid customer valid regular fresh

private def holdRequest : CreateCreditAuthorizationDto := { customerId := 1, amount := 1500000 }

private def heldOnce : List CreditRequest := [.authorize 1 0 (some "hold") holdRequest]

theorem second_hold_is_refused :
    refusedForLimit (authorizeCredit (Run.after creditStep {} heldOnce).credit 2 0 (some "other") holdRequest) = true := by
  have kept := (@credit_limit_kept {} rfl 1 heldOnce ⟨fun _ => rfl, trivial⟩).2
    (by decide +kernel)
  apply (kept.1 2 0 (some "other") holdRequest rfl (by decide) rfl ⟨"other", by decide +kernel, by decide +kernel⟩).mpr
  decide +kernel

/-- A repeated request for a hold is answered with that hold, whatever the limit leaves. -/
theorem repeated_hold_is_not_refused :
    (Run.after creditStep {} heldOnce).credit.leftOf 1 < holdRequest.amount ∧
      refusedForLimit (authorizeCredit (Run.after creditStep {} heldOnce).credit 2 0 (some "hold") holdRequest) = false := by
  decide +kernel

end Finance
