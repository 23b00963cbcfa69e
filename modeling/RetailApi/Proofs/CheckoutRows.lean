import RetailApi.Proofs.CashSession
import RetailApi.Sales.CheckoutSystem

/-! What the transactions of a checkout do to its rows: to the one workflow row, and to what a
finished checkout leaves behind. -/

namespace Sales

open Transaction SalesDb CheckoutWorkflow

/-- What a finished checkout leaves: its order, tenders, cash-sale entries and completed events. -/
structure Footprint where
  orders : List Order
  tenders : List OrderTender
  saleEntries : List CashEntry
  completions : List SalesEvent

def CashEntry.isSaleOf (ids : CheckoutIds) (entry : CashEntry) : Bool :=
  entry.kind = .cashSale && entry.orderId = some ids.orderId

def SalesEvent.isCompletionOf (ids : CheckoutIds) : SalesEvent → Bool
  | .orderCompleted orderId .. => orderId = ids.orderId
  | _ => false

def SalesDb.footprint (ids : CheckoutIds) (db : SalesDb) : Footprint where
  orders := db.orders
  tenders := db.tenders
  saleEntries := db.cash.entries.filter (CashEntry.isSaleOf ids)
  completions := db.outbox.filter (SalesEvent.isCompletionOf ids)

section Rows

variable {ids : CheckoutIds} {db after : SalesDb} {row : CheckoutWorkflow}

theorem findWorkflow_id (found : db.findWorkflow ids.checkoutId = some row) : row.id = ids.checkoutId := by
  have holds := List.find?_some found
  simpa using holds

def SalesDb.Single (ids : CheckoutIds) (db : SalesDb) : Prop :=
  db.workflows = (db.findWorkflow ids.checkoutId).toList

theorem SalesDb.Single.of_rows {rows} (stored : db.workflows = rows.toList)
    (own : ∀ row, rows = some row → row.id = ids.checkoutId) :
    db.Single ids ∧ db.findWorkflow ids.checkoutId = rows := by
  have found : db.findWorkflow ids.checkoutId = rows := by
    rw [findWorkflow, stored]
    cases rows with
    | none => rfl
    | some row => simp [own row rfl]
  exact ⟨by rw [Single, found, stored], found⟩

theorem updateWorkflow_row (single : db.Single ids) (change : CheckoutWorkflow → CheckoutWorkflow)
    (own : ∀ row, (change row).id = row.id) :
    (db.updateWorkflow ids.checkoutId change).Single ids ∧
    (db.updateWorkflow ids.checkoutId change).findWorkflow ids.checkoutId =
      (db.findWorkflow ids.checkoutId).map change := by
  refine Single.of_rows ?_ ?_
  · simp only [updateWorkflow]
    rw [single]
    cases found : db.findWorkflow ids.checkoutId with
    | none => rfl
    | some row => simp [findWorkflow_id found]
  · intro changed found
    obtain ⟨row, stored, rfl⟩ := Option.map_eq_some_iff.mp found
    rw [own, findWorkflow_id stored]

theorem saveWorkflow_row (saved : db.saveWorkflow row = .ok after) (single : db.Single ids)
    (own : row.id = ids.checkoutId) :
    after.Single ids ∧ after.findWorkflow ids.checkoutId = some row ∧ after.footprint ids = db.footprint ids := by
  have stored : after.workflows = (some row).toList ∧ after.footprint ids = db.footprint ids := by
    unfold saveWorkflow at saved
    split at saved
    · next known =>
      cases saved
      refine ⟨?_, rfl⟩
      obtain ⟨other, member, same⟩ := known
      rw [single] at member ⊢
      cases found : db.findWorkflow ids.checkoutId with
      | none => simp [found] at member
      | some old => simp [findWorkflow_id found, own]
    split at saved
    · cases saved
    · next unknown _ =>
      cases saved
      refine ⟨?_, rfl⟩
      cases found : db.findWorkflow ids.checkoutId with
      | none => simp [single.trans (congrArg Option.toList found)]
      | some old =>
        have member : old ∈ db.workflows := List.mem_of_find?_eq_some found
        exact absurd ⟨old, member, (findWorkflow_id found).trans own.symm⟩ unknown
  obtain ⟨isSingle, found⟩ := Single.of_rows stored.1 (by rintro _ ⟨⟩; exact own)
  exact ⟨isSingle, found, stored.2⟩

theorem saveWorkflow_tables (saved : db.saveWorkflow row = .ok after) :
    after.orders = db.orders ∧ after.tenders = db.tenders ∧ after.cash = db.cash ∧ after.outbox = db.outbox := by
  unfold saveWorkflow at saved
  split at saved
  · cases saved
    exact ⟨rfl, rfl, rfl, rfl⟩
  split at saved
  · cases saved
  · cases saved
    exact ⟨rfl, rfl, rfl, rfl⟩

variable {accepted : Bool}

theorem redeemCoupon_ok {coupon orderId} (redeemed : db.redeemCoupon coupon orderId accepted = .ok after) :
    after.workflows = db.workflows ∧ after.orders = db.orders ∧ after.tenders = db.tenders ∧ after.cash = db.cash ∧
      after.outbox = db.outbox := by
  unfold redeemCoupon at redeemed
  split at redeemed
  · cases redeemed
    exact ⟨rfl, rfl, rfl, rfl, rfl⟩
  · simp only [eq_ok] at redeemed
    obtain ⟨_, _, rfl⟩ := redeemed
    exact ⟨rfl, rfl, rfl, rfl, rfl⟩

theorem SalesDb.Single.congr (single : db.Single ids) (same : after.workflows = db.workflows) :
    after.Single ids ∧ after.findWorkflow ids.checkoutId = db.findWorkflow ids.checkoutId := by
  have found : after.findWorkflow ids.checkoutId = db.findWorkflow ids.checkoutId := by
    rw [findWorkflow, same, findWorkflow]
  exact ⟨by rw [Single, found, same, single], found⟩

theorem claimCoupon_ok {coupon orderId} (claimed : db.claimCoupon coupon orderId accepted = .ok after) :
    after.workflows = db.workflows ∧ after.orders = db.orders ∧ after.tenders = db.tenders ∧ after.cash = db.cash ∧
      after.outbox = db.outbox := by
  cases coupon with
  | none =>
    cases claimed
    exact ⟨rfl, rfl, rfl, rfl, rfl⟩
  | some code => exact redeemCoupon_ok claimed

theorem footprint_congr (orders : after.orders = db.orders) (tenders : after.tenders = db.tenders)
    (cash : after.cash = db.cash) (outbox : after.outbox = db.outbox) : after.footprint ids = db.footprint ids := by
  unfold footprint
  rw [orders, tenders, cash, outbox]

theorem createWorkflow_row (single : db.Single ids) (own : row.id = ids.checkoutId)
    (created : createWorkflow ids db row accepted = .ok after) :
    after.Single ids ∧ after.findWorkflow ids.checkoutId = some row ∧ after.footprint ids = db.footprint ids := by
  simp only [createWorkflow, eq_ok] at created
  obtain ⟨claimed, coupon, saved, wrote, _, _, rfl⟩ := created
  obtain ⟨workflows, orders, tenders, cash, outbox⟩ := claimCoupon_ok coupon
  obtain ⟨isSingle, found, footprint⟩ := saveWorkflow_row wrote (single.congr workflows).1 own
  exact ⟨isSingle, found, footprint.trans (footprint_congr orders tenders cash outbox)⟩

theorem createUnlessRaced_row {choice result} (single : db.Single ids)
    (own : row.id = ids.checkoutId) (created : createUnlessRaced ids db row choice = .ok result) :
    result.1.Single ids ∧ result.1.findWorkflow ids.checkoutId = some row ∧ result.1.footprint ids = db.footprint ids := by
  unfold createUnlessRaced at created
  split at created
  · cases created
  · obtain ⟨stored, wrote, rfl⟩ := map_eq_ok.mp created
    exact createWorkflow_row single own wrote

theorem updateWorkflowState_row (patch : WorkflowPatch) (single : db.Single ids) :
    (updateWorkflowState ids db patch).Single ids ∧
    (updateWorkflowState ids db patch).findWorkflow ids.checkoutId =
      (db.findWorkflow ids.checkoutId).map patch.applyUnlessClosed :=
  updateWorkflow_row single patch.applyUnlessClosed fun row => by
    unfold WorkflowPatch.applyUnlessClosed
    split <;> rfl

theorem abortWorkflow_row (ending : Ending) (lastError : String) (single : db.Single ids) :
    (abortWorkflow ids db ending lastError).Single ids ∧
    (abortWorkflow ids db ending lastError).findWorkflow ids.checkoutId =
      (db.findWorkflow ids.checkoutId).map (CheckoutWorkflow.abort ending lastError) := by
  have same : (db.releaseCouponClaim ids.orderId).workflows = db.workflows := rfl
  obtain ⟨released, found⟩ := single.congr same
  rw [← found]
  exact updateWorkflow_row released _ fun _ => rfl

theorem escalateWorkflow_row (retryCount : Nat) (reason : String) (single : db.Single ids) :
    (escalateWorkflow ids db retryCount reason).Single ids ∧
    (escalateWorkflow ids db retryCount reason).findWorkflow ids.checkoutId =
      (db.findWorkflow ids.checkoutId).map (escalate retryCount reason) ∧
    (escalateWorkflow ids db retryCount reason).footprint ids = db.footprint ids := by
  have updated := updateWorkflow_row single (escalate retryCount reason) fun _ => rfl
  have same : (escalateWorkflow ids db retryCount reason).workflows =
    (db.updateWorkflow ids.checkoutId (escalate retryCount reason)).workflows := rfl
  obtain ⟨escalated, found⟩ := updated.1.congr same
  refine ⟨escalated, found.trans updated.2, ?_⟩
  simp [escalateWorkflow, footprint, updateWorkflow, SalesEvent.isCompletionOf]

end Rows

theorem recordCashEntry_appends {store entryId input} {closing}
    {result} (ran : recordCashEntry store entryId input closing = .ok result) :
    ∃ entries, result.1.entries = store.entries ++ entries ∧ entries.length ≤ 1 ∧
      ∀ entry ∈ entries, entry.kind = input.kind ∧ entry.orderId = input.orderId := by
  rcases recordCashEntry_ok ran with ⟨same, _⟩ | ⟨entry, shift, written, _⟩
  · exact ⟨[], by simp [same], by simp, by simp⟩
  · refine ⟨[entry], written.entries, by simp, ?_⟩
    intro other member
    rw [List.mem_singleton.mp member]
    exact ⟨written.kind, written.order⟩

section Surroundings

variable {ids : CheckoutIds} {store after : CashStore}

def SalesKept (ids : CheckoutIds) (store after : CashStore) : Prop :=
  after.entries.filter (CashEntry.isSaleOf ids) = store.entries.filter (CashEntry.isSaleOf ids)

variable {shiftId entryId : Uuid} {operation : ShiftOperation}

theorem salesKept_of_write {shift} (wrote : store.writeShift shiftId shift = .ok after) : SalesKept ids store after := by
  rw [SalesKept, (writeShift_ok wrote).2.1]

theorem salesKept_of_record {input} {closing}
    {result} (ran : recordCashEntry store entryId input closing = .ok result)
    (foreign : input.kind ≠ .cashSale ∨ input.orderId ≠ some ids.orderId) : SalesKept ids store result.1 := by
  obtain ⟨entries, appended, _, shape⟩ := recordCashEntry_appends ran
  have none : entries.filter (CashEntry.isSaleOf ids) = [] := by
    refine List.filter_eq_nil_iff.mpr ?_
    intro entry member sale
    simp only [CashEntry.isSaleOf, shape entry member, Bool.and_eq_true, decide_eq_true_eq] at sale
    rcases foreign with other | other
    · exact other sale.1
    · exact other sale.2
  rw [SalesKept, appended, List.filter_append, none, List.append_nil]

theorem salesKept_of_finalizeClose {shift closing}
    (ran : finalizeClose store shiftId entryId shift closing = .ok after) : SalesKept ids store after := by
  simp only [finalizeClose, eq_ok] at ran
  obtain ⟨recorded, entered, closed, wrote, rfl⟩ := ran
  have first : SalesKept ids store recorded.1 := by
    unfold recordVariance at entered
    split at entered
    · cases entered
      rfl
    · simp only [eq_ok] at entered
      obtain ⟨_, _, result, written, rfl⟩ := entered
      refine salesKept_of_record written (.inl ?_)
      split <;> simp
  exact (salesKept_of_write wrote).trans first

theorem executeShift_salesKept (foreign : operation.concerns ids = false)
    (ran : executeShift store operation = .ok after) : SalesKept ids store after := by
  cases operation with
  | setBranch | setRegister | setPendingWork =>
    cases ran
    rfl
  | updateCashSettings =>
    simp only [executeShift, updateCashSettings, eq_ok] at ran
    obtain ⟨_, _, rfl⟩ := ran
    rfl
  | openShift =>
    simp only [executeShift, openShift, eq_ok] at ran
    obtain ⟨_, _, _, _, _, _, _, _, _, _, _, _, ran⟩ := ran
    obtain ⟨_, _, _, _, _, _, written, wrote, rfl⟩ := ran
    have kept : SalesKept ids store written := salesKept_of_write wrote
    exact kept
  | record shiftId entryId staffId movement =>
    simp only [executeShift, eq_ok] at ran
    obtain ⟨result, recorded, rfl⟩ := ran
    have other : movement.orderId ≠ ids.orderId := by simpa [ShiftOperation.concerns] using foreign
    refine salesKept_of_record recorded (.inr ?_)
    cases movement <;> simpa [CashMovement.entry, CashMovement.orderId] using other
  | addCashEntry shiftId entryId actorId scope key dto =>
    simp only [executeShift, addCashEntry, eq_ok] at ran
    obtain ⟨_, _, result, recorded, rfl⟩ := ran
    refine salesKept_of_record recorded (.inl ?_)
    cases dto.kind <;> simp
  | countShift =>
    simp only [executeShift, countShift, eq_ok] at ran
    obtain ⟨_, _, _, _, _, _, _, _, _, _, _, _, _, _, wrote⟩ := ran
    exact salesKept_of_write wrote
  | closeShift =>
    simp only [executeShift, closeShift, eq_ok] at ran
    obtain ⟨_, _, _, _, _, _, _, _, _, _, _, _, _, _, _, _, ran⟩ := ran
    split at ran
    · exact salesKept_of_write ran
    · exact salesKept_of_finalizeClose ran
  | approveClose =>
    simp only [executeShift, approveClose, eq_ok] at ran
    obtain ⟨_, _, _, _, _, _, _, _, _, _, _, _, ran⟩ := ran
    exact salesKept_of_finalizeClose ran
  | rejectClose =>
    simp only [executeShift, rejectClose, eq_ok] at ran
    obtain ⟨_, _, _, _, _, _, wrote⟩ := ran
    exact salesKept_of_write wrote
  | patchPlannedEnd =>
    simp only [executeShift, patchPlannedEnd, eq_ok] at ran
    obtain ⟨_, _, _, _, wrote⟩ := ran
    exact salesKept_of_write wrote

theorem performShift_salesKept (store : CashStore)
    (foreign : operation.concerns ids = false) : SalesKept ids store (performShift store operation) :=
  commit_preserves (SalesKept ids store) rfl fun _ ran => executeShift_salesKept foreign ran

theorem surroundCheckout_rows (ids : CheckoutIds) (world : CheckoutWorld) (event : CheckoutEvent) :
    (surroundCheckout ids world event).db.workflows = world.db.workflows ∧
      (surroundCheckout ids world event).db.footprint ids = world.db.footprint ids := by
  cases event with
  | expireReservation | expireLoyaltyHold | expireCreditAuthorization => exact ⟨rfl, rfl⟩
  | shift operation =>
    cases foreign : operation.concerns ids with
    | true =>
      simp [surroundCheckout, foreign]
    | false =>
      simp only [surroundCheckout, foreign, Bool.false_eq_true, if_false]
      refine ⟨trivial, ?_⟩
      unfold footprint
      congr 1
      exact performShift_salesKept _ foreign

end Surroundings

inductive Finalization (ids : CheckoutIds) (db : SalesDb) (input : FinalizeInput) (after : SalesDb) : Prop where
  | replayed (row : CheckoutWorkflow) (found : db.findWorkflow ids.checkoutId = some row)
    (finished : row.state.isFinished = true) (same : after = db)
  | adopted (row : CheckoutWorkflow) (order : Order) (found : db.findWorkflow ids.checkoutId = some row)
    (known : db.findOrder (row.orderId.getD input.orderId) = some order) (single : after.Single ids)
    (confirmed : after.findWorkflow ids.checkoutId = some { row with state := .confirmed, orderId := some order.id })
    (footprint : after.footprint ids = db.footprint ids)
  | created (row confirmed : CheckoutWorkflow) (code : Nat) (entries : List CashEntry)
    (found : db.findWorkflow ids.checkoutId = some row)
    (unknown : db.findOrder (row.orderId.getD input.orderId) = none) (single : after.Single ids)
    (stored : after.findWorkflow ids.checkoutId = some confirmed) (state : confirmed.state = .confirmed)
    (order : confirmed.orderId = some input.orderId)
    (orders : after.orders = db.orders ++ [input.order row code])
    (tenders : after.tenders = db.tenders ++ input.tenders row)
    (drawer : after.cash.entries = db.cash.entries ++ entries) (one : entries.length ≤ 1)
    (sale : ∀ entry ∈ entries, entry.kind = .cashSale ∧ entry.orderId = some input.orderId)
    (outbox : ∃ wf order, after.outbox = db.outbox ++ input.events wf order)

theorem recordSaleCash_ok {cash after wf input entryId} (recorded : recordSaleCash cash wf input entryId = .ok after) :
    ∃ entries, after.entries = cash.entries ++ entries ∧ entries.length ≤ 1 ∧
      ∀ entry ∈ entries, entry.kind = .cashSale ∧ entry.orderId = some input.orderId := by
  simp only [recordSaleCash, eq_ok] at recorded
  obtain ⟨drawerCash, _, recorded⟩ := recorded
  split at recorded
  · split at recorded
    · simp only [eq_ok] at recorded
      obtain ⟨result, wrote, rfl⟩ := recorded
      exact recordCashEntry_appends wrote
    · rw [pure_eq_ok] at recorded
      exact ⟨[], by simp [recorded], by simp, by simp⟩
  · rw [pure_eq_ok] at recorded
    exact ⟨[], by simp [recorded], by simp, by simp⟩

def FinalizeInput.confirmed (input : FinalizeInput) (row : CheckoutWorkflow) : CheckoutWorkflow :=
  { row with
    state := .confirmed, orderId := some input.orderId, reservationId := some input.reservationId
    commitConfirmed := true, quoteJson := input.quote, lastError := none }

section Finalizing

variable {ids : CheckoutIds} {db : SalesDb} {input : FinalizeInput} {accepted : Bool} {entryId : Uuid}
  {result : SalesDb × Finalized}

theorem finalizeCheckout_cases (ran : finalizeCheckout ids db input accepted entryId = .ok result) :
    ∃ row, db.findWorkflow ids.checkoutId = some row ∧
      (row.state.isFinished = true ∧ result.1 = db ∨
      (∃ order, db.findOrder (row.orderId.getD input.orderId) = some order ∧
        db.saveWorkflow { row with state := .confirmed, orderId := some order.id } = .ok result.1) ∨
      db.findOrder (row.orderId.getD input.orderId) = none ∧
        ∃ claimed cash, ({ db with lastOrderCode := db.lastOrderCode + 1 } : SalesDb).claimCoupon input.quote.couponCode
            input.orderId accepted = .ok claimed ∧
          recordSaleCash claimed.cash row input entryId = .ok cash ∧
          saveWorkflow { claimed with
            cash, orders := claimed.orders ++ [input.order row (db.lastOrderCode + 1)]
            tenders := claimed.tenders ++ input.tenders (input.confirmed row)
            convertedDrafts := claimed.convertedDrafts ++ row.draftId.toList
            outbox := claimed.outbox ++ input.events (input.confirmed row) (input.order row (db.lastOrderCode + 1)) }
            (input.confirmed row) = .ok result.1) := by
  simp only [finalizeCheckout, eq_ok] at ran
  obtain ⟨row, found, ran⟩ := ran
  refine ⟨row, found, ?_⟩
  split at ran
  · next known =>
    split at ran
    · next finished =>
      rw [pure_eq_ok] at ran
      subst ran
      exact .inl ⟨finished, rfl⟩
    · next unfinished =>
      simp only [eq_ok] at ran
      obtain ⟨saved, wrote, rfl⟩ := ran
      obtain ⟨order, foundOrder⟩ : ∃ order, db.findOrder (row.orderId.getD input.orderId) = some order := by
        simpa [unfinished, Option.isSome_iff_exists] using known
      rw [foundOrder] at wrote
      exact .inr (.inl ⟨order, foundOrder, wrote⟩)
  · next unknown =>
    simp only [eq_ok] at ran
    obtain ⟨claimed, coupon, _, _, _, _, cash, drawer, saved, wrote, rfl⟩ := ran
    simp only [Bool.or_eq_true, not_or] at unknown
    exact .inr (.inr ⟨by simpa using unknown.1, claimed, cash, coupon, drawer, wrote⟩)

theorem finalizeCheckout_ok (single : db.Single ids) (ran : finalizeCheckout ids db input accepted entryId = .ok result) :
    Finalization ids db input result.1 := by
  obtain ⟨row, found, cases⟩ := finalizeCheckout_cases ran
  have own := findWorkflow_id found
  rcases cases with ⟨finished, same⟩ | ⟨order, known, wrote⟩ | ⟨unknown, claimed, cash, coupon, drawer, wrote⟩
  · exact .replayed row found finished same
  · obtain ⟨isSingle, stored, footprint⟩ := saveWorkflow_row wrote single own
    exact .adopted row order found known isSingle stored footprint
  · obtain ⟨workflows, orders, tenders, sameCash, outbox⟩ := claimCoupon_ok coupon
    obtain ⟨entries, appended, one, sale⟩ := recordSaleCash_ok drawer
    rw [sameCash] at appended
    have isSingle := (single.congr workflows).1
    obtain ⟨savedSingle, stored, _⟩ := saveWorkflow_row wrote (isSingle.congr rfl).1 own
    obtain ⟨sameOrders, sameTenders, sameEntries, sameOutbox⟩ := saveWorkflow_tables wrote
    refine .created row _ (db.lastOrderCode + 1) entries found unknown savedSingle stored ?_ ?_ ?_ ?_ ?_ one sale ?_
    · rfl
    · rfl
    · rw [sameOrders, orders]
    · rw [sameTenders, tenders]
      rfl
    · rw [sameEntries, appended]
    · exact ⟨_, _, sameOutbox.trans (by rw [outbox])⟩

end Finalizing

end Sales
