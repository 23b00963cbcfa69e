import RetailApi.Base.Run
import RetailApi.Proofs.RefundOperations

/-! Refunds over whole runs: what the settlements of an order say is refunded is what its completed refunds
come to, as long as no completed refund is reported to have ended otherwise. -/

namespace Finance

open Transaction SettlementDb Keyed Run List Rows

def RefundOperationEntity.paidOut (refund : RefundOperationEntity) : Int :=
  if refund.status = .completed then refund.amount else 0

def SettlementDb.paidOut (db : SettlementDb) (orderId : Uuid) : Int :=
  total (·.orderId) (·.paidOut) orderId db.refunds

/-- What the settlements of an order count as refunded is what its completed refunds paid out. -/
structure RefundBooks (db : SettlementDb) : Prop where
  settlementIds : (db.settlements.map (·.id)).Nodup
  refundIds : (db.refunds.map (·.id)).Nodup
  covered : db.Covered
  counted : ∀ orderId, db.refundedOf orderId = db.paidOut orderId

namespace RefundBooks

variable {db after : SettlementDb}

theorem file {dto refund} (books : RefundBooks db) (filing : Filing db dto refund after) : RefundBooks after := by
  have waiting : refund.paidOut = 0 := by
    apply if_neg
    rcases filing.waiting with waiting | waiting
    · rw [waiting]
      nofun
    · rw [waiting]
      nofun
  refine ⟨?_, ?_, ?_, ?_⟩
  · rw [filing.settlements]
    exact books.settlementIds
  · rw [filing.refunds]
    exact nodup_append books.refundIds filing.fresh
  · rw [Covered, filing.settlements]
    exact books.covered
  · intro orderId
    rw [refundedOf, paidOut, filing.settlements, filing.refunds, total_append,
      total_cons, total_nil, waiting, ite_self, Int.add_zero, Int.add_zero]
    exact books.counted orderId

theorem revise {old new} (books : RefundBooks db) (member : old ∈ db.refunds)
    (revising : Revising old new) (open_ : old.status ≠ .completed) : RefundBooks (db.saveRefund new) := by
  have before : old.paidOut = 0 := if_neg open_
  have later : new.paidOut = 0 := if_neg revising.open_
  refine ⟨books.settlementIds, ?_, books.covered, ?_⟩
  · rw [saveRefund, keys_save]
    exact books.refundIds
  · intro orderId
    have counted := books.counted orderId
    have totals := total_save books.refundIds member revising.id (·.orderId) (·.paidOut) orderId
    show db.refundedOf orderId = total _ _ _ (save _ _ _)
    rw [totals, before, later, ite_self, ite_self, counted]
    exact (Int.add_zero _).symm.trans (congrArg (· + 0) (Int.sub_zero _).symm)

theorem complete {rows} {refund done} (books : RefundBooks db)
    (member : refund ∈ db.refunds) (open_ : refund.status ≠ .completed)
    (charged : Charged db refund.orderId refund.amount rows) (id : done.id = refund.id)
    (order : done.orderId = refund.orderId) (amount : done.amount = refund.amount) (status : done.status = .completed) :
    RefundBooks (rows.saveRefund done) := by
  have before : refund.paidOut = 0 := if_neg open_
  have later : done.paidOut = refund.amount := by
    rw [RefundOperationEntity.paidOut, if_pos status]
    exact amount
  refine ⟨?_, ?_, charged.covered, ?_⟩
  · show (rows.settlements.map (·.id)).Nodup
    rw [charged.ids]
    exact books.settlementIds
  · rw [saveRefund, keys_save, charged.refunds]
    exact books.refundIds
  · intro orderId
    have counted := books.counted orderId
    have totals := total_save books.refundIds member id (·.orderId) (·.paidOut) orderId
    show rows.refundedOf orderId = total _ _ _ (save _ _ rows.refunds)
    rw [charged.refunded, charged.refunds, totals, before, later, order, ite_self, counted]
    show db.paidOut orderId + _ = db.paidOut orderId - 0 + _
    by_cases same : orderId = refund.orderId
    · simp [same]
    · simp [same, Ne.symm same]

end RefundBooks

def Unrevoked (db : FinanceDb) (request : RefundRequest) : Prop :=
  ∀ refund ∈ db.settlement.refunds, refund.status = .completed → ¬request.Revokes refund.id

instance (db : FinanceDb) (request : RefundRequest) : Decidable (Unrevoked db request) :=
  inferInstanceAs (Decidable (∀ _ ∈ _, _))

def StayCompleted (before after : SettlementDb) : Prop :=
  ∀ refund ∈ before.refunds, refund.status = .completed →
    ∃ same ∈ after.refunds, same.id = refund.id ∧ same.status = .completed

namespace StayCompleted

theorem refl (db : SettlementDb) : StayCompleted db db := fun refund member status => ⟨refund, member, rfl, status⟩

theorem trans {first second third} (before : StayCompleted first second) (after : StayCompleted second third) :
    StayCompleted first third := by
  intro refund member status
  obtain ⟨middle, inside, same, middleStatus⟩ := before refund member status
  obtain ⟨last, final, id, lastStatus⟩ := after middle inside middleStatus
  exact ⟨last, final, id.trans same, lastStatus⟩

theorem save {db rows : SettlementDb} {old new} (distinct : (db.refunds.map (·.id)).Nodup)
    (member : old ∈ db.refunds) (open_ : old.status ≠ .completed) (id : new.id = old.id) (same : rows.refunds = db.refunds) :
    StayCompleted db (rows.saveRefund new) := by
  intro refund inside status
  rw [saveRefund, same]
  refine ⟨refund, kept_mem inside ?_, rfl, status⟩
  intro same
  rw [eq_of_key distinct inside member (same.trans id)] at status
  exact open_ status

end StayCompleted

theorem Finalizing.books {db after refund done options}
    (finalizing : Finalizing db refund options after done) (books : RefundBooks db.settlement)
    (member : refund ∈ db.settlement.refunds) (open_ : refund.status ≠ .completed) :
    RefundBooks after.settlement ∧ StayCompleted db.settlement after.settlement := by
  cases finalizing with
  | intro charged =>
    obtain ⟨charged, _⟩ := chargeSettlements_ok charged books.settlementIds books.covered
    exact ⟨books.complete member open_ charged rfl rfl rfl rfl, .save books.refundIds member open_ rfl charged.refunds⟩

theorem RefundBooks.step {db request} (unrevoked : Unrevoked db request) (books : RefundBooks db.settlement) :
    RefundBooks (refundStep db request).settlement ∧ StayCompleted db.settlement (refundStep db request).settlement := by
  have change := refundStep_change db request
  generalize refundStep db request = after at change ⊢
  cases change with
  | kept => exact ⟨books, .refl _⟩
  | filed filing =>
    refine ⟨books.file filing, ?_⟩
    intro refund member status
    refine ⟨refund, ?_, rfl, status⟩
    rw [filing.refunds]
    exact mem_append_left _ member
  | @revised old _ _ found revising given =>
    have member := (refund_some found).1
    have open_ : old.status ≠ .completed := fun status => unrevoked old member status (given status)
    exact ⟨books.revise member revising open_, .save books.refundIds member open_ revising.id rfl⟩
  | completed found open_ finalizing => exact finalizing.books books (refund_some found).1 open_
  | @executed dto refund _ rows _ _ filing finalizing =>
    have member : refund ∈ rows.refunds := by simp [filing.refunds]
    have open_ : refund.status ≠ .completed := by
      rcases filing.waiting with waiting | waiting
      · rw [waiting]
        nofun
      · rw [waiting]
        nofun
    obtain ⟨kept, stay⟩ := finalizing.books (books.file filing) member open_
    refine ⟨kept, .trans ?_ stay⟩
    intro other inside status
    refine ⟨other, ?_, rfl, status⟩
    rw [filing.refunds]
    exact mem_append_left _ inside

theorem refunds_run {db} {requests} (books : RefundBooks db.settlement)
    (unrevoked : Meets refundStep Unrevoked db requests) : RefundBooks (after refundStep db requests).settlement ∧
      StayCompleted db.settlement (after refundStep db requests).settlement := by
  induction requests generalizing db with
  | nil => exact ⟨books, .refl _⟩
  | cons request requests inner =>
    obtain ⟨kept, stay⟩ := books.step unrevoked.1
    obtain ⟨final, later⟩ := inner kept unrevoked.2
    exact ⟨final, stay.trans later⟩

def settlementsOf (db : SettlementDb) (orderId : Uuid) : List PaymentSettlementEntity :=
  db.settlements.filter (·.orderId = orderId)

def completedRefundsOf (db : SettlementDb) (orderId : Uuid) : List RefundOperationEntity :=
  db.refunds.filter fun refund => refund.orderId = orderId ∧ refund.status = .completed

structure RefundsAgree (db : SettlementDb) (orderId : Uuid) : Prop where
  counted : ((settlementsOf db orderId).map (·.refundedAmount)).sum = ((completedRefundsOf db orderId).map (·.amount)).sum
  bounded : ((settlementsOf db orderId).map (·.refundedAmount)).sum ≤ ((settlementsOf db orderId).map (·.settledAmount)).sum
  each : ∀ settlement ∈ settlementsOf db orderId, settlement.refundedAmount ≤ settlement.settledAmount

theorem total_eq_sum_filter {α : Type} (key : α → Uuid) (amount counted : α → Int) (wanted : Uuid) (chosen : α → Bool)
    (lines : List α) (pick : ∀ line ∈ lines, (if key line = wanted then amount line else 0) =
      if chosen line = true then counted line else 0) :
    total key amount wanted lines = ((lines.filter chosen).map counted).sum := by
  induction lines with
  | nil => rfl
  | cons line lines inner =>
    rw [total_cons, inner fun other member => pick other (.tail _ member), pick line (.head _), filter_cons]
    by_cases taken : chosen line = true
    · rw [if_pos taken, if_pos taken, map_cons, sum_cons]
    · rw [if_neg taken, if_neg taken, Int.zero_add]

theorem RefundBooks.agree {db} (books : RefundBooks db) (orderId : Uuid) : RefundsAgree db orderId := by
  have each : ∀ settlement ∈ settlementsOf db orderId, settlement.refundedAmount ≤ settlement.settledAmount :=
    fun settlement member => (books.covered settlement (mem_filter.mp member).1).2
  refine ⟨?_, sum_le_sum each, each⟩
  have counted := books.counted orderId
  rw [refundedOf, paidOut,
    total_eq_sum_filter _ _ (·.refundedAmount) _ (fun settlement => settlement.orderId = orderId) _
      (fun settlement _ => by simp),
    total_eq_sum_filter _ _ (·.amount) _ (fun refund => refund.orderId = orderId ∧ refund.status = .completed) _ ?_] at counted
  · exact counted
  · intro refund _
    unfold RefundOperationEntity.paidOut
    by_cases own : refund.orderId = orderId <;> by_cases status : refund.status = .completed <;> simp [own, status]

structure Unrefunded (db : SettlementDb) : Prop where
  ids : (db.settlements.map (·.id)).Nodup
  settled : ∀ settlement ∈ db.settlements, 0 ≤ settlement.settledAmount ∧ settlement.refundedAmount = 0
  refunds : db.refunds = []

theorem Unrefunded.books {db} (unrefunded : Unrefunded db) : RefundBooks db := by
  refine ⟨unrefunded.ids, ?_, ?_, ?_⟩
  · rw [unrefunded.refunds]
    exact nodup_nil
  · intro settlement member
    have settled := unrefunded.settled settlement member
    omega
  · intro orderId
    have none : db.paidOut orderId = 0 := by
      rw [paidOut, unrefunded.refunds]
      rfl
    rw [none, refundedOf, total]
    refine sum_eq_zero (forall_mem_map.mpr fun settlement member => ?_)
    rw [(unrefunded.settled settlement member).2, ite_self]

/-- Along every run that takes no completion back the refunds of every order agree with its settlements, and a
refund that is completed stays so. -/
theorem refunds_agree_unrevoked {db : FinanceDb} (start : Unrefunded db.settlement) {requests : List RefundRequest}
    (unrevoked : Meets refundStep Unrevoked db requests) :
    (∀ orderId, RefundsAgree (after refundStep db requests).settlement orderId) ∧
      ∀ earlier later, requests = earlier ++ later →
        StayCompleted (after refundStep db earlier).settlement (after refundStep db requests).settlement := by
  refine ⟨(refunds_run start.books unrevoked).1.agree, ?_⟩
  rintro earlier later rfl
  obtain ⟨first, second⟩ := meets_append.mp unrevoked
  rw [after_append]
  exact (refunds_run (refunds_run start.books first).1 second).2

private def settledOrder : FinanceDb :=
  { settlement := { settlements := [{
      id := 1, code := "STL000001", orderId := 1, branchId := none, shiftId := none, tenderRef := "tender:1:CARD"
      paymentMethod := .card, provider := "INTERNAL_POS", externalTxId := none, requestedAmount := 100000
      confirmedAmount := 100000, settledAmount := 100000, refundedAmount := 0, providerStatus := "CONFIRMED"
      settlementStatus := .settled, cashbookEntryId := none, journalId := none, idempotencyKey := "stl:1" }] } }

private theorem settledOrder_unrefunded : Unrefunded settledOrder.settlement :=
  ⟨by decide, by decide, rfl⟩

private def refundNow (amount : Int) : RefundRequest :=
  .create { journal := 1, document := 1 } (some "rf") { orderId := 1, method := .customerCredit, amount, autoExecute := true }

theorem executed_refund_agrees :
    (∀ orderId, RefundsAgree (after refundStep settledOrder [refundNow 40000, .approve 1]).settlement orderId) ∧
      (after refundStep settledOrder [refundNow 40000, .approve 1]).settlement.paidOut 1 = 40000 := by
  refine ⟨(refunds_agree_unrevoked settledOrder_unrefunded ?_).1, ?_⟩
  · decide +kernel
  · decide +kernel

/-- A completed refund that is reported to have failed stays charged to the settlement. -/
theorem failed_after_completion :
    ¬RefundsAgree (after refundStep settledOrder [refundNow 40000, .confirm {} 1 { outcome := .failed }]).settlement 1 := by
  intro agree
  have apart : ((settlementsOf (after refundStep settledOrder
        [refundNow 40000, .confirm {} 1 { outcome := .failed }]).settlement 1).map (·.refundedAmount)).sum ≠
      ((completedRefundsOf (after refundStep settledOrder
        [refundNow 40000, .confirm {} 1 { outcome := .failed }]).settlement 1).map (·.amount)).sum := by
    decide +kernel
  exact apart agree.counted

end Finance
