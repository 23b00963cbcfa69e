import RetailApi.Finance.Refunds
import RetailApi.Proofs.Vouchers

/-! What the operations on refunds do when they succeed: a refund is filed, its status is revised, or
it is completed, and then the settlements of its order are charged with exactly its amount. -/

namespace Finance

open Transaction JsNumber List RefundRequest Prod

variable {amounts : List Int} {refund done : RefundOperationEntity} {draws : Draws}

theorem sumVnd_ok {field total} (ran : sumVnd field amounts = .ok total) :
    (∀ amount ∈ amounts, 0 ≤ amount) ∧ total = amounts.foldl add 0 := by
  have linked := foldlM_links
    (fun done sum => (∀ amount ∈ done, 0 ≤ amount) ∧ sum = done.foldl add 0) ⟨by simp, rfl⟩ ?_ ran
  · exact linked
  · rintro done amount _ sum next - ⟨each, rfl⟩ added
    simp only [addVnd, eq_ok, parseVnd_eq_ok] at added
    obtain ⟨_, ⟨given, _, sign, _⟩, rfl⟩ := added
    cases given
    exact ⟨forall_concat each (by simpa using sign), by rw [foldl_append, foldl_cons, foldl_nil]⟩

theorem sumVnd_exact {field total} (ran : sumVnd field amounts = .ok total) (safe : IsSafe total) : total = amounts.sum := by
  obtain ⟨each, rfl⟩ := sumVnd_ok ran
  rw [foldl_add_exact each le_rfl safe.2, Int.zero_add]

theorem validateRefundAllocation_ok {input result} (ran : validateRefundAllocation input = .ok result) :
    IsSafe input.originalPaidAmount ∧ IsSafe input.alreadyRefundedAmount ∧ 0 < input.requestedRefundAmount ∧
      IsSafe input.requestedRefundAmount ∧
      input.requestedRefundAmount ≤ input.originalPaidAmount - input.alreadyRefundedAmount := by
  simp only [validateRefundAllocation, eq_ok, parseVnd_eq_ok] at ran
  obtain ⟨paid, ⟨paidIs, paidSafe, paidSign, paidZero⟩, refunded, ⟨refundedIs, refundedSafe, refundedSign, _⟩, requested,
    ⟨requestedIs, requestedSafe, sign, zero⟩, _, fits, _⟩ := ran
  cases paidIs
  cases refundedIs
  cases requestedIs
  simp only [Bool.false_eq_true, or_false] at sign zero
  refine ⟨paidSafe, refundedSafe, by omega, requestedSafe, ?_⟩
  split at fits <;> omega

def SettlementDb.refundedOf (db : SettlementDb) (orderId : Uuid) : Int :=
  Keyed.total (·.orderId) (·.refundedAmount) orderId db.settlements

def SettlementDb.Covered (db : SettlementDb) : Prop :=
  ∀ settlement ∈ db.settlements, 0 ≤ settlement.refundedAmount ∧ settlement.refundedAmount ≤ settlement.settledAmount

structure SameTender (before after : PaymentSettlementEntity) : Prop where
  id : after.id = before.id
  order : after.orderId = before.orderId
  settled : after.settledAmount = before.settledAmount
  status : after.settlementStatus = before.settlementStatus
  confirmed : after.confirmedAmount = before.confirmedAmount

theorem SameTender.refl (settlement : PaymentSettlementEntity) : SameTender settlement settlement := ⟨rfl, rfl, rfl, rfl, rfl⟩

theorem SameTender.trans {first second third} (before : SameTender first second)
    (after : SameTender second third) : SameTender first third :=
  ⟨after.id.trans before.id, after.order.trans before.order, after.settled.trans before.settled,
    after.status.trans before.status, after.confirmed.trans before.confirmed⟩

/-- The settlements of an order are charged with an amount; nothing else changes. -/
structure Charged (db : SettlementDb) (orderId : Uuid) (amount : Int) (after : SettlementDb) : Prop where
  refunds : after.refunds = db.refunds
  tenders : Forall₂ SameTender db.settlements after.settlements
  covered : after.Covered
  refunded : ∀ other, after.refundedOf other = db.refundedOf other + if other = orderId then amount else 0

namespace Charged

variable {db middle after : SettlementDb} {orderId : Uuid} {amount more : Int}

theorem ids (charged : Charged db orderId amount after) :
    after.settlements.map (·.id) = db.settlements.map (·.id) := by
  have tenders := charged.tenders
  generalize db.settlements = before at tenders ⊢
  generalize after.settlements = later at tenders ⊢
  induction tenders with
  | nil => rfl
  | cons same _ inner => rw [map_cons, map_cons, same.id, inner]

theorem none (covered : db.Covered) : Charged db orderId 0 db := by
  refine ⟨rfl, forall₂_same.mpr fun settlement _ => SameTender.refl settlement, covered, fun other => ?_⟩
  split <;> omega

theorem trans (first : Charged db orderId amount middle) (second : Charged middle orderId more after) :
    Charged db orderId (amount + more) after := by
  refine ⟨second.refunds.trans first.refunds, ?_, second.covered, ?_⟩
  · have compose : ∀ {before between later : List PaymentSettlementEntity}, Forall₂ SameTender before between →
        Forall₂ SameTender between later → Forall₂ SameTender before later := by
      intro before between later before_ after_
      induction before_ generalizing later with
      | nil => exact after_
      | cons same _ inner =>
        cases after_ with
        | cons next rest => exact .cons (same.trans next) (inner rest)
    exact compose first.tenders second.tenders
  · intro other
    rw [second.refunded, first.refunded]
    split <;> omega

end Charged

theorem saveSettlement_there {db after : SettlementDb} {old settlement}
    (ran : db.saveSettlement settlement = .ok after) (member : old ∈ db.settlements) (same : old.id = settlement.id) :
    after = { db with settlements := Rows.save (·.id) settlement db.settlements } := by
  simp only [SettlementDb.saveSettlement, eq_ok] at ran
  obtain ⟨_, _, _, _, rfl⟩ := ran
  have there : db.settlements.any (·.id = settlement.id) := by
    rw [any_eq_true]
    exact ⟨old, member, decide_eq_true same⟩
  rw [if_pos there]

theorem chargeSettlement_ok {progress next settlement} (executed : chargeSettlement progress settlement = .ok next)
    (distinct : (progress.rows.settlements.map (·.id)).Nodup) (covered : progress.rows.Covered)
    (member : settlement ∈ progress.rows.settlements) (remaining : 0 ≤ progress.remaining) :
    Charged progress.rows settlement.orderId (progress.remaining - next.remaining) next.rows ∧ 0 ≤ next.remaining ∧
      (next.remaining = 0 ∨ progress.remaining - next.remaining = settlement.settledAmount - settlement.refundedAmount) ∧
      (∀ other ∈ progress.rows.settlements, other.id ≠ settlement.id → other ∈ next.rows.settlements) := by
  have own := covered settlement member
  unfold chargeSettlement at executed
  by_cases beyond : progress.remaining ≤ 0
  · rw [if_pos beyond] at executed
    cases executed
    rw [Int.sub_self]
    exact ⟨.none covered, remaining, .inl (by omega), fun other inside _ => inside⟩
  · rw [if_neg beyond] at executed
    simp only [eq_ok, parseVnd_eq_ok] at executed
    obtain ⟨settled, ⟨settledIs, _⟩, refunded, ⟨refundedIs, _⟩, ran⟩ := executed
    cases settledIs
    cases refundedIs
    by_cases exhausted : settlement.settledAmount - settlement.refundedAmount ≤ 0
    · rw [if_pos exhausted] at ran
      cases ran
      rw [Int.sub_self]
      exact ⟨.none covered, remaining, .inr (by omega), fun other inside _ => inside⟩
    · rw [if_neg exhausted] at ran
      simp only [eq_ok] at ran
      obtain ⟨rows, saved, rfl⟩ := ran
      generalize charge : (if progress.remaining ≤ settlement.settledAmount - settlement.refundedAmount then
        progress.remaining else settlement.settledAmount - settlement.refundedAmount) = delta at saved ⊢
      rw [saveSettlement_there saved member rfl]
      refine ⟨⟨rfl, ?_, ?_, ?_⟩, ?_, ?_, ?_⟩
      · rw [Rows.save, forall₂_map_right_iff]
        apply forall₂_same.mpr
        intro other inside
        by_cases same : other.id = settlement.id
        · rw [if_pos same, Rows.eq_of_key distinct inside member same]
          exact ⟨rfl, rfl, rfl, rfl, rfl⟩
        · rw [if_neg same]
          exact .refl other
      · apply Rows.forall_save covered
        show 0 ≤ settlement.refundedAmount + delta ∧ settlement.refundedAmount + delta ≤ settlement.settledAmount
        omega
      · intro other
        have id : ({ settlement with refundedAmount := settlement.refundedAmount + delta } : PaymentSettlementEntity).id =
          settlement.id := rfl
        refine (Rows.total_save distinct member id (·.orderId) (·.refundedAmount) other).trans ?_
        show progress.rows.refundedOf other - _ + _ = _
        by_cases same : settlement.orderId = other
        · simp only [same, ↓reduceIte]
          omega
        · simp only [same, Ne.symm same, ↓reduceIte]
          omega
      · show 0 ≤ progress.remaining - delta
        omega
      · show progress.remaining - delta = 0 ∨ progress.remaining - (progress.remaining - delta) = _
        omega
      · exact fun other inside apart => Rows.kept_mem inside apart

theorem chargeSettlements_ok {db after}
    (executed : chargeSettlements db refund = .ok after) (distinct : (db.settlements.map (·.id)).Nodup)
    (covered : db.Covered) : Charged db refund.orderId refund.amount after ∧ 0 < refund.amount := by
  simp only [chargeSettlements, lockOrderSettlementsInTx, eq_ok, parseVnd_eq_ok] at executed
  obtain ⟨settlements, ⟨_, _, rfl⟩, amount, ⟨given, _⟩, paid, paidSum, refunded, refundedSum, _, valid, progress, looped,
    rfl⟩ := executed
  cases given
  obtain ⟨paidSafe, refundedSafe, positive, _, fits⟩ := validateRefundAllocation_ok valid
  simp only at paidSafe refundedSafe positive fits
  rw [sumVnd_exact paidSum paidSafe, sumVnd_exact refundedSum refundedSafe] at fits
  generalize chosen : (db.settlements.filter fun settlement =>
    settlement.orderId = refund.orderId && refund.settlementId.all (settlement.id = ·)) = settlements at *
  have inside : ∀ settlement ∈ settlements, settlement ∈ db.settlements ∧ settlement.orderId = refund.orderId := by
    intro settlement member
    rw [← chosen] at member
    obtain ⟨stored, picked⟩ := mem_filter.mp member
    rw [Bool.and_eq_true, decide_eq_true_eq] at picked
    exact ⟨stored, picked.1⟩
  have apart : (settlements.map (·.id)).Nodup := by
    rw [← chosen]
    exact distinct.sublist (filter_sublist.map _)
  -- Settlements not reached yet are as they were; those passed are charged in full, or nothing is left.
  have linked := foldlM_links
    (fun done (middle : ChargeProgress) =>
      Charged db refund.orderId (refund.amount - middle.remaining) middle.rows ∧ 0 ≤ middle.remaining ∧
        (middle.remaining = 0 ∨ refund.amount - middle.remaining =
          (done.map (·.settledAmount)).sum - (done.map (·.refundedAmount)).sum) ∧
        ∀ other ∈ db.settlements, (∀ passed ∈ done, passed.id ≠ other.id) → other ∈ middle.rows.settlements)
    ⟨by rw [Int.sub_self]; exact .none covered, positive.le, .inr (by simp), fun other member _ => member⟩ ?_ looped
  · obtain ⟨charged, least, full, _⟩ := linked
    have rest : progress.remaining = 0 := by
      rcases full with none | all
      · exact none
      · omega
    rw [rest, Int.sub_zero] at charged
    exact ⟨charged, positive⟩
  · rintro done settlement rest middle next split ⟨charged, least, full, kept⟩ ran
    rw [split, map_append, map_cons, nodup_append] at apart
    have current : settlement ∈ settlements := by simp [split]
    obtain ⟨stored, order⟩ := inside settlement current
    have untouched : settlement ∈ middle.rows.settlements := by
      apply kept settlement stored
      intro passed member same
      exact apart.2.2 _ (mem_map_of_mem member) _ (.head _) same
    have middleDistinct : (middle.rows.settlements.map (·.id)).Nodup := by
      rw [charged.ids]
      exact distinct
    obtain ⟨more, left, filled, others⟩ := chargeSettlement_ok ran middleDistinct charged.covered untouched least
    rw [order] at more
    have whole := charged.trans more
    have steps : refund.amount - middle.remaining + (middle.remaining - next.remaining) = refund.amount - next.remaining := by
      omega
    rw [steps] at whole
    refine ⟨whole, left, ?_, ?_⟩
    · simp only [map_append, map_singleton, sum_append, sum_singleton]
      have own := covered settlement stored
      rcases full with nothing | all
      · have end_ : next.remaining = 0 := by
          rcases filled with end_ | amount
          · exact end_
          · omega
        exact .inl end_
      · omega
    · intro other member unpassed
      have kept := kept other member fun passed listed => unpassed passed (mem_append_left _ listed)
      exact others other kept fun same => unpassed settlement (by simp) same.symm

/-- What completing a refund does: the settlements are charged, the journal is posted, and the payout is booked
where the method goes through an account that is there. -/
inductive Finalizing (db : FinanceDb) (refund : RefundOperationEntity) (options : RefundCompletionOptions) :
    FinanceDb → RefundOperationEntity → Prop
  | intro {rows : SettlementDb} {cash : CashDb} {account : Option CashAccountEntity} {ledger : JournalDb}
      {posted : PostedJournal} {validated : ValidatedJournal} {booked : FinanceDb} {voucherId : Option Uuid}
      {reconciliation : ReconciliationDb}
      (charged : chargeSettlements db.settlement refund = .ok rows)
      (chosen : AccountChosen db.cash (options.cashAccountId <|> refund.cashAccountId) refund.method.accountType cash account)
      (accepted : validateBalancedJournalLines
        (refundJournal refund ((account.map (·.glAccountCode)).getD refund.method.creditGl)).lines = .ok validated)
      (posting : Posting db.ledger (refundJournal refund ((account.map (·.glAccountCode)).getD refund.method.creditGl))
        validated ledger posted)
      (linked : VoucherLinked { db with ledger, cash } (refundVoucher refund posted.journal.id) account booked voucherId) :
      Finalizing db refund options
        { db with
          ledger, cash := booked.cash, reconciliation
          settlement := rows.saveRefund (refund.complete options account posted.journal.id voucherId) }
        (refund.complete options account posted.journal.id voucherId)

theorem finalizeRefundCompletionInTx_ok {db after options}
    (executed : finalizeRefundCompletionInTx db draws refund options = .ok (after, done)) :
    Finalizing db refund options after done := by
  simp only [finalizeRefundCompletionInTx, eq_ok, mk.injEq] at executed
  obtain ⟨rows, charged, ⟨cash, account⟩, chosen, ⟨ledger, posted⟩, ran, ⟨booked, voucherId⟩, linked, rfl, rfl⟩ := executed
  obtain ⟨validated, accepted, posting⟩ := postJournalInTx_ok ran
  have booking := linkedVoucher_ok linked
  have same := booking.rest fun id => Option.some_ne_none _
  generalize kept : booked.cash = after at same
  rw [same]
  rw [← kept]
  exact .intro charged (methodAccount_ok chosen) accepted posting booking

/-- A refund is filed under a new id, and no settlement is touched yet. -/
structure Filing (db : SettlementDb) (dto : CreateRefundDto) (refund : RefundOperationEntity) (after : SettlementDb) : Prop where
  order : refund.orderId = dto.orderId
  method : refund.method = dto.method
  waiting : refund.status = .approved ∨ refund.status = .requested
  fresh : ∀ other ∈ db.refunds, other.id ≠ refund.id
  refunds : after.refunds = db.refunds ++ [refund]
  settlements : after.settlements = db.settlements

theorem fileRefund_ok {db after dto key amount}
    (ran : fileRefund db draws dto key amount = .ok (after, refund)) : Filing db dto refund after := by
  simp only [fileRefund, eq_ok, mk.injEq] at ran
  obtain ⟨settlements, _, _, _, _, _, _, _, _, _, rfl, rfl⟩ := ran
  refine ⟨rfl, rfl, ?_, fun other member => Fresh.ne_pick _ draws.document member, rfl, rfl⟩
  unfold CreateRefundDto.refund
  simp only
  split
  · exact .inl rfl
  · exact .inr rfl

/-- The row of a refund changes its state and notes without being completed. -/
structure Revising (old new : RefundOperationEntity) : Prop where
  id : new.id = old.id
  order : new.orderId = old.orderId
  amount : new.amount = old.amount
  method : new.method = old.method
  open_ : new.status ≠ .completed

def RefundRequest.Revokes (refundId : Uuid) : RefundRequest → Prop
  | .confirm _ id dto => id = refundId ∧ dto.outcome ≠ .completed
  | _ => False

instance (refundId : Uuid) : ∀ request : RefundRequest, Decidable (request.Revokes refundId)
  | .confirm _ _ _ => inferInstanceAs (Decidable (_ ∧ _))
  | .create _ _ _ => isFalse id
  | .approve _ => isFalse id
  | .execute _ _ _ => isFalse id

/-- What a request may do to the books: only completing charges settlements. -/
inductive RefundChange (db : FinanceDb) (request : RefundRequest) : FinanceDb → Prop
  | kept : RefundChange db request db
  | filed {dto refund rows}
      (filing : Filing db.settlement dto refund rows) : RefundChange db request { db with settlement := rows }
  | revised {old new reconciliation}
      (found : db.settlement.refund old.id = some old) (revising : Revising old new)
      (given : old.status = .completed → request.Revokes old.id) :
      RefundChange db request { db with settlement := db.settlement.saveRefund new, reconciliation }
  | completed {refund done options after}
      (found : db.settlement.refund refund.id = some refund) (open_ : refund.status ≠ .completed)
      (finalizing : Finalizing db refund options after done) : RefundChange db request after
  | executed {dto refund done rows options after} (filing : Filing db.settlement dto refund rows)
      (finalizing : Finalizing { db with settlement := rows } refund options after done) : RefundChange db request after

theorem SettlementDb.refund_some {db : SettlementDb} {id}
    (found : db.refund id = some refund) : refund ∈ db.refunds ∧ refund.id = id :=
  ⟨mem_of_find?_eq_some found, by simpa using find?_some found⟩

theorem lockRefund_ok {db id}
    (ran : lockRefund db id = .ok refund) : db.refund refund.id = some refund ∧ refund.id = id := by
  rw [lockRefund, required_eq_ok] at ran
  have same := (SettlementDb.refund_some ran).2
  refine ⟨?_, same⟩
  rw [same]
  exact ran

theorem payOutRefund_ok {db after dto} (executed : payOutRefund db draws refund dto = .ok (after, done)) :
    dto.simulateProviderTimeout = true ∧ (after, done) = timeOutRefund db draws refund dto ∨
      Finalizing db refund ⟨dto.cashAccountId, dto.externalRefundRef⟩ after done := by
  simp only [payOutRefund, eq_ok] at executed
  obtain ⟨_, _, ran⟩ := executed
  split at ran
  · next timeout =>
    rw [pure_eq_ok] at ran
    exact .inl ⟨timeout, ran.symm⟩
  · exact .inr (finalizeRefundCompletionInTx_ok ran)

theorem Filing.locks {db rows : SettlementDb} {dto filed locked} (filing : Filing db dto filed rows)
    (found : lockRefund rows filed.id = .ok locked) : locked = filed := by
  have there : rows.refund filed.id = some filed := by
    have none : db.refunds.find? (·.id = filed.id) = none := by
      rw [find?_eq_none]
      intro other member
      rw [decide_eq_true_eq]
      exact filing.fresh other member
    rw [SettlementDb.refund, filing.refunds, find?_append, none]
    simp
  obtain ⟨stored, same⟩ := lockRefund_ok found
  rw [same, there] at stored
  exact (Option.some.inj stored).symm

section Changes

variable {db after : FinanceDb} {request : RefundRequest}

theorem autoExecuteRefund_change {dto filed rows} (filing : Filing db.settlement dto filed rows)
    (ran : autoExecuteRefund { db with settlement := rows } draws dto filed = .ok (after, refund)) :
    RefundChange db request after := by
  unfold autoExecuteRefund at ran
  split at ran
  · simp only [executeRefundInTx, eq_ok] at ran
    obtain ⟨locked, found, ran⟩ := ran
    rw [filing.locks found] at ran
    split at ran
    · next status =>
      rcases filing.waiting with waiting | waiting
      · rw [waiting] at status
        cases status
      · rw [waiting] at status
        cases status
    · rcases payOutRefund_ok ran with ⟨timeout, _⟩ | finalizing
      · cases timeout
      · exact .executed filing finalizing
  · cases ran
    exact .filed filing

theorem createRefundInTx_change {header dto response}
    (ran : createRefundInTx db draws header dto = .ok (after, response)) : RefundChange db request after := by
  simp only [createRefundInTx, eq_ok] at ran
  obtain ⟨amount, _, ran⟩ := ran
  split at ran
  · simp only [eq_ok, mk.injEq] at ran
    obtain ⟨_, _, rfl, _⟩ := ran
    exact .kept
  · simp only [eq_ok, mk.injEq] at ran
    obtain ⟨⟨rows, filed⟩, filing, ⟨executed, refund⟩, ran, rfl, _⟩ := ran
    exact autoExecuteRefund_change (fileRefund_ok filing) ran

theorem approveRefund_change {refundId rows}
    (ran : approveRefund db.settlement refundId = .ok (rows, refund)) : RefundChange db request { db with settlement := rows } := by
  simp only [approveRefund, eq_ok] at ran
  obtain ⟨locked, found, ran⟩ := ran
  split at ran
  · rw [pure_eq_ok, mk.injEq] at ran
    obtain ⟨rfl, _⟩ := ran
    exact .kept
  · simp only [eq_ok, mk.injEq] at ran
    obtain ⟨_, status, rfl, _⟩ := ran
    refine .revised (lockRefund_ok found).1 ⟨rfl, rfl, rfl, rfl, by rintro ⟨⟩⟩ ?_
    rw [status]
    rintro ⟨⟩

theorem executeRefundInTx_change {refundId dto}
    (ran : executeRefundInTx db draws refundId dto = .ok (after, refund)) : RefundChange db request after := by
  simp only [executeRefundInTx, eq_ok] at ran
  obtain ⟨locked, found, ran⟩ := ran
  have found := (lockRefund_ok found).1
  split at ran
  · rw [pure_eq_ok, mk.injEq] at ran
    obtain ⟨rfl, _⟩ := ran
    exact .kept
  · next open_ =>
    rcases payOutRefund_ok ran with ⟨_, same⟩ | finalizing
    · cases same
      refine .revised found ⟨rfl, rfl, rfl, rfl, ?_⟩ fun status => absurd status open_
      simp only
      split <;> rintro ⟨⟩
    · exact .completed found open_ finalizing

/-- A confirmed outcome is the one request that may take the state of a completed refund back. -/
theorem confirmRefundOutcome_change {refundId dto}
    (ran : confirmRefundOutcome db draws refundId dto = .ok (after, refund)) :
    RefundChange db (.confirm draws refundId dto) after := by
  simp only [confirmRefundOutcome, eq_ok] at ran
  obtain ⟨locked, found, ran⟩ := ran
  have found := lockRefund_ok found
  split at ran
  · rw [pure_eq_ok, mk.injEq] at ran
    obtain ⟨rfl, _⟩ := ran
    exact .kept
  · next open_ =>
    unfold settleOutcome at ran
    cases outcome : dto.outcome with
    | failed | reconciliationRequired =>
      rw [outcome] at ran
      cases ran
      exact .revised found.1 ⟨rfl, rfl, rfl, rfl, by rintro ⟨⟩⟩ fun _ => ⟨found.2.symm, by rw [outcome]; rintro ⟨⟩⟩
    | completed =>
      rw [outcome] at ran
      have unfinished : locked.status ≠ .completed := fun status => open_ ⟨status, outcome⟩
      exact .completed found.1 unfinished (finalizeRefundCompletionInTx_ok ran)

theorem refundStep_change (db : FinanceDb) (request : RefundRequest) : RefundChange db request (refundStep db request) := by
  apply commit_preserves (RefundChange db request) .kept
  intro after executed
  cases request with
  | create draws header dto =>
    simp only [perform, eq_ok] at executed
    obtain ⟨⟨_, response⟩, ran, rfl⟩ := executed
    exact createRefundInTx_change ran
  | approve refundId =>
    simp only [perform, eq_ok] at executed
    obtain ⟨⟨rows, refund⟩, ran, rfl⟩ := executed
    exact approveRefund_change ran
  | execute draws refundId dto =>
    simp only [perform, eq_ok] at executed
    obtain ⟨⟨_, refund⟩, ran, rfl⟩ := executed
    exact executeRefundInTx_change ran
  | confirm draws refundId dto =>
    simp only [perform, eq_ok] at executed
    obtain ⟨⟨_, refund⟩, ran, rfl⟩ := executed
    exact confirmRefundOutcome_change ran

end Changes

end Finance
