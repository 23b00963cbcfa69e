import RetailApi.Proofs.ReturnedOrders
import RetailApi.Sales.OrderRefunds

/-! What is paid back of an order, by tenders and by refund requests. A request leaves the paid amount as it is, so a tender
that refunds does not see it; a tender takes itself off the paid amount, and a request counts it once more. -/

namespace Sales

open Transaction RefundsDb Keyed Option JsNumber

namespace RefundsDb

def tendered (db : RefundsDb) (kind : OrderTenderKind) (orderId : Uuid) : Int :=
  Keyed.total Prod.fst (·.2.amount) orderId (db.tenders.filter fun row => row.2.kind = kind)

def requested (db : RefundsDb) (orderId : Uuid) : Int :=
  Keyed.total RefundRequestEntity.orderId RefundRequestEntity.amount orderId db.refundRequests

def refunded (db : RefundsDb) (orderId : Uuid) : Int := db.tendered .refund orderId + db.requested orderId

/-- All that was received for an order; `before` is what came in without a tender. -/
def received (before : Int) (db : RefundsDb) (orderId : Uuid) : Int := before + db.tendered .payment orderId

end RefundsDb

variable {db after : RefundsDb} {orderId : Uuid} {before : Int}

structure OrderMoney where
  totalAmount : Int
  grandTotal : Int
  paymentStatus : OrderPaymentStatus
  paidAmount : Int
  refundedAmount : Int

def OrderEntity.money (order : OrderEntity) : OrderMoney where
  totalAmount := order.totalAmount
  grandTotal := order.grandTotal
  paymentStatus := order.paymentStatus
  paidAmount := order.paidAmount
  refundedAmount := order.refundedAmount

structure OrderBooks (before : Int) (db : RefundsDb) (orderId : Uuid) (order : OrderEntity) : Prop where
  paid : order.paidAmount ≤ order.effectivePaid
  received : order.effectivePaid ≤ db.received before orderId - db.tendered .refund orderId
  refunded : order.refundedAmount = db.refunded orderId
  tendered : 0 ≤ db.tendered .refund orderId
  bounded : db.refunded orderId ≤ db.received before orderId
  whole : 0 ≤ order.totalAmount ∧ order.totalAmount ≤ JsNumber.maxSafeInteger
  paidWhole : 0 ≤ order.effectivePaid ∧ order.effectivePaid ≤ JsNumber.maxSafeInteger

variable {order : OrderEntity} {returns : ReturnsDb} {actorId returnId : Uuid} {scope : BranchScope}

theorem OrderBooks.of_same (books : OrderBooks before db orderId order)
    (tenders : ∀ kind, after.tendered kind orderId = db.tendered kind orderId)
    (requests : after.requested orderId = db.requested orderId) : OrderBooks before after orderId order := by
  have ⟨_, received, refunded, tendered, bounded, _, _⟩ := books
  refine { books with received := ?_, refunded := ?_, tendered := ?_, bounded := ?_ }
  · rw [RefundsDb.received, tenders, tenders]
    exact received
  · rw [RefundsDb.refunded, tenders, requests]
    exact refunded
  · rw [tenders]
    exact tendered
  · rw [RefundsDb.refunded, RefundsDb.received, tenders, tenders, requests]
    exact bounded

def RefundsDb.Reconciled (before : Int) (orderId : Uuid) (db : RefundsDb) : Prop :=
  ∀ order, db.orders.lookup orderId = some order → OrderBooks before db orderId order

theorem OrderEntity.effectivePaid_money {other : OrderEntity} (same : order.money = other.money) :
    order.effectivePaid = other.effectivePaid := by
  simp only [OrderEntity.money, OrderMoney.mk.injEq] at same
  obtain ⟨total, grand, status, paid, _⟩ := same
  rw [OrderEntity.effectivePaid, OrderEntity.effectivePaid, total, grand, status, paid]

structure KeepsMoney (db after : ReturnsDb) : Prop where
  refundRequests : after.refundRequests = db.refundRequests
  orders : ∀ orderId, (after.orders.lookup orderId).map (·.money) = (db.orders.lookup orderId).map (·.money)

theorem KeepsMoney.refl (db : ReturnsDb) : KeepsMoney db db := ⟨rfl, fun _ => rfl⟩

theorem KeepsMoney.trans {first second third} (earlier : KeepsMoney first second) (later : KeepsMoney second third) :
    KeepsMoney first third :=
  ⟨later.refundRequests.trans earlier.refundRequests, fun orderId => (later.orders orderId).trans (earlier.orders orderId)⟩

section ReturnCalls

variable {db after : ReturnsDb} {returnId actorId : Uuid} {scope : BranchScope}

variable {dto : CreateReturnDto} {answer : RestockAnswer}

theorem createReturnRow_money {code}
    (ran : createReturnRow db returnId code actorId scope dto = .ok after) : KeepsMoney db after := by
  obtain ⟨_, _, _, _, _, _, _, _, _, _, rfl⟩ := createReturnRow_ok ran
  exact ⟨rfl, fun _ => rfl⟩

theorem approveReturn_money (ran : approveReturn db returnId actorId scope = .ok after) : KeepsMoney db after :=
  ⟨(approveReturn_rewrites ran).2.2.1, fun _ => by rw [(approveReturn_undone ran).orders]⟩

theorem rejectReturn_money {reason} (ran : rejectReturn db returnId scope reason = .ok after) : KeepsMoney db after := by
  obtain rfl | ⟨_, _, _, _, _, _, _, _, _, rfl⟩ := rejectReturn_ok ran
  · exact .refl _
  · exact ⟨rfl, fun _ => rfl⟩

theorem receiveReturn_money (ran : receiveReturn db returnId actorId scope answer = .ok after) : KeepsMoney db after := by
  obtain rfl | ⟨_, _, _, _, _, _, _, _, _, _, _, _, looked, rfl⟩ := receiveReturn_cases ran
  · exact .refl _
  · refine ⟨rfl, fun other => ?_⟩
    rw [looked]
    split
    · rw [map_map]
      rfl
    · rfl

theorem createReturn_money {code} : KeepsMoney db (createReturn db returnId code actorId scope dto answer).1 := by
  unfold createReturn
  split
  · exact ⟨rfl, fun _ => rfl⟩
  · next made row =>
    have created := createReturnRow_money row
    split
    · split
      · next received => exact created.trans (receiveReturn_money received)
      · exact created
    · exact created

end ReturnCalls

theorem RefundsDb.Reconciled.of_money (books : db.Reconciled before orderId)
    (kept : KeepsMoney db.toReturnsDb returns) : ({ db with toReturnsDb := returns } : RefundsDb).Reconciled before orderId := by
  intro order found
  have same := kept.orders orderId
  rw [show returns.orders.lookup orderId = some order from found, map_some] at same
  obtain ⟨earlier, was, money⟩ := map_eq_some_iff.mp same.symm
  obtain ⟨paid, received, refunded, tendered, bounded, whole, paidWhole⟩ := books earlier was
  have effective := OrderEntity.effectivePaid_money money
  have columns := money
  simp only [OrderEntity.money, OrderMoney.mk.injEq] at columns
  obtain ⟨sameTotal, _, _, samePaid, sameRefunded⟩ := columns
  have requests : ({ db with toReturnsDb := returns } : RefundsDb).requested orderId = db.requested orderId :=
    congrArg (Keyed.total _ _ orderId) kept.refundRequests
  constructor
  · rw [← samePaid, ← effective]
    exact paid
  · rw [← effective]
    exact received
  · rw [← sameRefunded, refunded, RefundsDb.refunded, RefundsDb.refunded, requests]
    rfl
  · exact tendered
  · rw [RefundsDb.refunded, requests]
    exact bounded
  · exact sameTotal ▸ whole
  · exact effective ▸ paidWhole

def RecordPaymentDto.kind (dto : RecordPaymentDto) : OrderTenderKind := if dto.refund then .refund else .payment

/-- What recording a payment does: nothing when it was recorded before, else one tender and the row of its order. -/
inductive PaymentRecorded (db : RefundsDb) (orderId : Uuid) (dto : RecordPaymentDto) (after : RefundsDb) : Prop where
  | replayed (orders : ∀ other, after.orders.lookup other = db.orders.lookup other)
      (requests : after.refundRequests = db.refundRequests) (tenders : after.tenders = db.tenders)
  | recorded (order : OrderEntity) (tender : OrderTenderEntity) (found : db.orders.lookup orderId = some order)
      (payable : if dto.refund then dto.value ≤ order.effectivePaid else dto.value ≤ sub order.totalAmount order.effectivePaid)
      (orders : ∀ other, after.orders.lookup other = if other = orderId then some (order.withPayment dto) else db.orders.lookup other)
      (requests : after.refundRequests = db.refundRequests)
      (tenders : after.tenders = db.tenders ++ [(orderId, tender)]) (amount : tender.amount = dto.value)
      (kind : tender.kind = dto.kind)

theorem recordOrderPayment_recorded {ids key dto}
    (ran : recordOrderPayment db orderId ids actorId scope key dto = .ok after) : PaymentRecorded db orderId dto after := by
  simp only [recordOrderPayment, eq_ok] at ran
  obtain ⟨⟨made, recorded⟩, payment, rfl⟩ := ran
  simp only [recordPayment, eq_ok] at payment
  obtain ⟨order, visible, rest⟩ := payment
  have found : db.orders.lookup orderId = some order := (filter_eq_some_iff.mp visible).1
  split at rest
  · obtain ⟨rfl, _⟩ := Prod.mk.inj (Except.ok.inj rest)
    refine .replayed (fun other => ?_) rfl ?_
    · simp only [withLifecycle, lifecycle, found]
      rw [Table.lookup_insert_if]
      split
      · next same => rw [same, found]
      · rfl
    · simp [withLifecycle, lifecycle]
  · simp only [eq_ok] at rest
    obtain ⟨_, payable, shiftId, _, cash, _, stored⟩ := rest
    obtain ⟨rfl, _⟩ := Prod.mk.inj stored
    refine .recorded order (dto.tender ids actorId (tenderKey orderId key) shiftId) found ?_ (fun other => ?_) rfl ?_ rfl rfl
    · simp only [OrderEntity.assertPayable, eq_ok] at payable
      obtain ⟨_, _, due⟩ := payable
      split at due
      · next refund =>
        rw [if_pos refund]
        exact ensure_eq_ok.mp due
      · next payment =>
        rw [if_neg payment]
        exact ensure_eq_ok.mp due
    · exact Table.lookup_insert_if ..
    · simp [withLifecycle, lifecycle]

/-- The amounts of an order are whole, so what is paid of it is counted exactly. -/
theorem OrderBooks.paidAmount_next {dto : RecordPaymentDto} (books : OrderBooks before db orderId order)
    (payable : if dto.refund then dto.value ≤ order.effectivePaid else dto.value ≤ sub order.totalAmount order.effectivePaid) :
    (order.withPayment dto).paidAmount =
        (if dto.refund then order.effectivePaid - dto.value else order.effectivePaid + dto.value) ∧
      (dto.refund = false → dto.value ≤ order.totalAmount - order.effectivePaid) := by
  obtain ⟨least, most⟩ := books.whole
  obtain ⟨nonneg, small⟩ := books.paidWhole
  have positive : 0 ≤ dto.value := abs_nonneg _
  have due : sub order.totalAmount order.effectivePaid = order.totalAmount - order.effectivePaid :=
    sub_of_safe ⟨by omega, by omega⟩
  by_cases refund : dto.refund = true
  · rw [if_pos refund] at payable
    have exact_ : sub order.effectivePaid dto.value = order.effectivePaid - dto.value := sub_of_safe ⟨by omega, by omega⟩
    simp [OrderEntity.withPayment, refund, exact_]
  · rw [if_neg refund, due] at payable
    have exact_ : add order.effectivePaid dto.value = order.effectivePaid + dto.value := add_of_safe ⟨by omega, by omega⟩
    simp [OrderEntity.withPayment, refund, exact_, payable]

theorem withPayment_effectivePaid {dto : RecordPaymentDto} (books : OrderBooks before db orderId order)
    (payable : if dto.refund then dto.value ≤ order.effectivePaid else dto.value ≤ sub order.totalAmount order.effectivePaid) :
    (order.withPayment dto).effectivePaid = (order.withPayment dto).paidAmount := by
  obtain ⟨next, due⟩ := books.paidAmount_next payable
  rw [OrderEntity.effectivePaid]
  by_cases legacy : (order.withPayment dto).grandTotal = 0 ∧ 0 < (order.withPayment dto).totalAmount ∧
      (order.withPayment dto).paymentStatus = .paid
  · rw [if_pos legacy]
    have paid := legacy.2.2
    by_cases refund : dto.refund = true
    · simp only [OrderEntity.withPayment, refund, ↓reduceIte] at paid
      split at paid <;> cases paid
    · have room := due (Bool.eq_false_iff.mpr refund)
      have total : (order.withPayment dto).totalAmount = order.totalAmount := rfl
      have reached : order.totalAmount ≤ (order.withPayment dto).paidAmount := by
        simp only [OrderEntity.withPayment, refund, Bool.false_eq_true, ↓reduceIte] at paid ⊢
        split at paid
        · assumption
        · cases paid
      rw [if_neg refund] at next
      omega
  · rw [if_neg legacy]

theorem RefundsDb.tendered_append {tender} (kind : OrderTenderKind) (other : Uuid)
    (tenders : after.tenders = db.tenders ++ [(orderId, tender)]) : after.tendered kind other = db.tendered kind other +
      if orderId = other ∧ tender.kind = kind then tender.amount else 0 := by
  rw [tendered, tendered, tenders, List.filter_append, Keyed.total_append]
  by_cases same : tender.kind = kind
  · rw [List.filter_cons_of_pos (by exact decide_eq_true same), List.filter_nil, Keyed.total_cons, Keyed.total_nil, add_zero]
    simp only [same, and_true]
  · rw [List.filter_cons_of_neg (by simpa using same), List.filter_nil, Keyed.total_nil, if_neg fun both => same both.2]

/-- What a refund takes is still there once the requests of its order are counted off, and the refunded amount stays whole. -/
def RefundsDb.Leaves (db : RefundsDb) (orderId : Uuid) (dto : RecordPaymentDto) : Prop :=
  dto.refund = true → ∀ order ∈ db.orders.lookup orderId,
    dto.value + db.requested orderId ≤ order.effectivePaid ∧ IsSafe (order.refundedAmount + dto.value)

theorem PaymentRecorded.books {dto other} (recorded : PaymentRecorded db other dto after)
    (books : db.Reconciled before orderId) (leaves : other = orderId → db.Leaves orderId dto) : after.Reconciled before orderId := by
  cases recorded with
  | replayed orders requests tenders =>
    intro order found
    have same : ∀ kind, after.tendered kind orderId = db.tendered kind orderId := fun kind => by
      rw [RefundsDb.tendered, RefundsDb.tendered, tenders]
    have asked : after.requested orderId = db.requested orderId := by rw [RefundsDb.requested, RefundsDb.requested, requests]
    exact (books order (orders orderId ▸ found)).of_same same asked
  | recorded order tender found payable orders requests tenders amount kind =>
    have asked : after.requested orderId = db.requested orderId := by rw [RefundsDb.requested, RefundsDb.requested, requests]
    have moved := fun kind => RefundsDb.tendered_append kind orderId tenders
    intro current present
    rw [orders] at present
    by_cases mine : orderId = other
    · subst mine
      rw [if_pos rfl, some.injEq] at present
      subst present
      have effective := withPayment_effectivePaid (books order found) payable
      obtain ⟨next, due⟩ := (books order found).paidAmount_next payable
      obtain ⟨paid, received, refunded, tendered, bounded, whole, paidWhole⟩ := books order found
      have positive : 0 ≤ dto.value := abs_nonneg _
      simp only [RefundsDb.refunded, RefundsDb.received] at received refunded bounded
      by_cases refund : dto.refund = true
      · obtain ⟨room, exact_⟩ := leaves rfl refund order found
        have out : after.tendered .refund orderId = db.tendered .refund orderId + dto.value := by
          rw [moved, kind, RecordPaymentDto.kind, if_pos refund, if_pos ⟨rfl, rfl⟩, amount]
        have in_ : after.tendered .payment orderId = db.tendered .payment orderId := by
          rw [moved, kind, RecordPaymentDto.kind, if_pos refund, if_neg (by simp), add_zero]
        have counted : (order.withPayment dto).refundedAmount = order.refundedAmount + dto.value :=
          (if_pos refund).trans (add_of_safe exact_)
        rw [if_pos refund] at next payable
        constructor
        case paid => exact effective.ge
        case whole => exact whole
        case paidWhole => omega
        all_goals simp only [RefundsDb.refunded, RefundsDb.received, out, in_, asked]
        all_goals omega
      · have out : after.tendered .refund orderId = db.tendered .refund orderId := by
          rw [moved, kind, RecordPaymentDto.kind, if_neg refund, if_neg (by simp), add_zero]
        have in_ : after.tendered .payment orderId = db.tendered .payment orderId + dto.value := by
          rw [moved, kind, RecordPaymentDto.kind, if_neg refund, if_pos ⟨rfl, rfl⟩, amount]
        have counted : (order.withPayment dto).refundedAmount = order.refundedAmount := if_neg refund
        have room := due (Bool.eq_false_iff.mpr refund)
        rw [if_neg refund] at next
        constructor
        case paid => exact effective.ge
        case whole => exact whole
        case paidWhole => omega
        all_goals simp only [RefundsDb.refunded, RefundsDb.received, out, in_, asked]
        all_goals omega
    · rw [if_neg mine] at present
      have same : ∀ kind, after.tendered kind orderId = db.tendered kind orderId := fun kind => by
        rw [moved, if_neg fun both => mine both.1.symm, add_zero]
      exact (books current present).of_same same asked

section Requests

variable {db after : ReturnsDb} {returnId actorId requestId entryId latestShift : Uuid} {scope : BranchScope}
  {key : Option String} {dto : CreateRefundRequestDto}

/-- What a refund request does: nothing when it was made before, else one row and the refunded amount of its order. -/
inductive RefundAsked (db : ReturnsDb) (returnId : Uuid) (after : ReturnsDb) : Prop where
  | replayed (same : after = db)
  | asked (ret : SalesReturnEntity) (order changed : OrderEntity) (request : RefundRequestEntity)
      (found : db.returns.lookup returnId = some ret) (sold : db.orders.lookup ret.orderId = some order)
      (nonneg : 0 ≤ request.amount) (within : order.refundedAmount + request.amount ≤ order.paidAmount)
      (own : request.orderId = ret.orderId) (requests : after.refundRequests = db.refundRequests ++ [request])
      (orders : after.orders = db.orders.insert ret.orderId changed)
      (refunded : changed.refundedAmount = order.refundedAmount + request.amount) (paid : changed.paidAmount = order.paidAmount)
      (least : 0 ≤ order.paidAmount) (total : changed.totalAmount = order.totalAmount)
      (open_ : changed.paymentStatus ≠ .paid)

theorem refundAmountOf_nonneg {most requested} (nonneg : 0 ≤ most) (read : refundAmountOf dto most = .ok requested) :
    0 ≤ requested := by
  unfold refundAmountOf at read
  split at read
  · obtain ⟨rfl, least⟩ := parseVndAmount_ok read
    exact least
  · rw [← Except.ok.inj read]
    exact nonneg

theorem unpaid_after_refund {pending whole} [Decidable pending] [Decidable whole] :
    (if pending then .refundPending else if whole then .refunded else .partiallyRefunded : OrderPaymentStatus) ≠ .paid := by
  split
  · simp
  · split <;> simp

theorem createRefundRequest_asked
    (ran : createRefundRequest db requestId entryId returnId actorId scope key dto latestShift = .ok after) :
    RefundAsked db returnId after := by
  rw [createRefundRequest, bind_eq_ok] at ran
  obtain ⟨ret, locked, ran⟩ := ran
  split at ran
  · simp only [eq_ok] at ran
    obtain ⟨_, _, rfl⟩ := ran
    exact .replayed rfl
  · simp only [assertRefundable, eq_ok] at ran
    obtain ⟨_, status, order, sold, most, parsedMost, requested, read, _,
      ⟨amounts, parsed, _, within, _, first, paid, parsedPaid, refunded, parsedRefunded, total⟩, shiftId, _, amount, exact_,
      refundedAmount, exactRefunded, _, _, cash, _, rfl⟩ := ran
    have sameAmount := vndNumber_ok exact_
    have sameRefunded := vndNumber_ok exactRefunded
    obtain ⟨rfl, least⟩ := parseVndAmount_ok parsedMost
    obtain ⟨samePaid, leastPaid⟩ := parseVndAmount_ok parsedPaid
    have sameBack := (parseVndAmount_ok parsedRefunded).1
    have nonneg := refundAmountOf_nonneg least read
    refine .asked ret order _ _ (lockReturn_ok locked) sold ?_ ?_ rfl rfl rfl ?_ rfl leastPaid rfl ?_
    · exact sameAmount ▸ nonneg
    · dsimp only
      omega
    · dsimp only
      omega
    · exact unpaid_after_refund

end Requests

theorem RefundAsked.books (asked : RefundAsked db.toReturnsDb returnId returns)
    (books : db.Reconciled before orderId) : ({ db with toReturnsDb := returns } : RefundsDb).Reconciled before orderId := by
  cases asked with
  | replayed same =>
    subst same
    exact books
  | asked ret order changed request _ sold nonneg within own requests orders refunded paid least sameTotal open_ =>
    intro current present
    have total : ({ db with toReturnsDb := returns } : RefundsDb).requested orderId =
        db.requested orderId + if ret.orderId = orderId then request.amount else 0 := by
      rw [RefundsDb.requested, RefundsDb.requested, requests, Keyed.total_append, Keyed.total_cons, Keyed.total_nil, add_zero, own]
    rw [orders, Table.lookup_insert_if] at present
    by_cases mine : orderId = ret.orderId
    · subst mine
      rw [if_pos rfl, some.injEq] at present
      subst present
      obtain ⟨low, received, counted, tendered, bounded, whole, paidWhole⟩ := books order sold
      rw [if_pos rfl] at total
      -- a row whose payment status is not PAID reads its own column
      have effective : changed.effectivePaid = changed.paidAmount := if_neg fun legacy => open_ legacy.2.2
      simp only [RefundsDb.refunded, RefundsDb.received] at received counted bounded
      constructor
      · exact effective.ge
      · change _ ≤ before + db.tendered .payment _ - db.tendered .refund _
        omega
      · rw [RefundsDb.refunded, total]
        change _ = db.tendered .refund _ + _
        omega
      · exact tendered
      · rw [RefundsDb.refunded, total]
        change db.tendered .refund _ + _ ≤ before + db.tendered .payment _
        omega
      · exact sameTotal ▸ whole
      · omega
    · rw [if_neg mine] at present
      rw [if_neg (Ne.symm mine), add_zero] at total
      exact (books current present).of_same (fun _ => rfl) total

def RefusedForAmount {α : Type} (outcome : Except Failure α) : Prop :=
  ∃ message, outcome = .error (.domain .refundAmountExceeded message 409)

section Refusals

variable {α β : Type}

@[simp] theorem refusedForAmount_ok {value} : ¬RefusedForAmount (.ok value : Except Failure α) := nofun

@[simp] theorem refusedForAmount_pure {value} : ¬RefusedForAmount (pure value : Except Failure α) := nofun

variable {first : Except Failure α} {failure : Failure} {store cash : CashStore} {entryId actorId : Uuid}

@[simp] theorem refusedForAmount_bind {next : α → Except Failure β} :
    RefusedForAmount (first >>= next) ↔ RefusedForAmount first ∨ ∃ value, first = .ok value ∧ RefusedForAmount (next value) := by
  cases first with
  | error failure => simp [RefusedForAmount, bind, Except.bind]
  | ok value => simp [RefusedForAmount, bind, Except.bind]

@[simp] theorem refusedForAmount_map {change : α → β} : RefusedForAmount (change <$> first) ↔ RefusedForAmount first := by
  cases first <;> simp [RefusedForAmount, Functor.map, Except.map]

@[simp] theorem refusedForAmount_ensure {condition} [Decidable condition] :
    RefusedForAmount (ensure condition failure) ↔ ¬condition ∧ ∃ message, failure = .domain .refundAmountExceeded message 409 := by
  by_cases holds : condition <;> simp [RefusedForAmount, ensure, holds]

@[simp] theorem refusedForAmount_required {row : Option α} :
    RefusedForAmount (required row failure) ↔ row = none ∧ ∃ message, failure = .domain .refundAmountExceeded message 409 := by
  cases row <;> simp [RefusedForAmount, required]

@[simp] theorem refusedForAmount_parseVndAmount {value} {allowZero : Bool} :
    ¬RefusedForAmount (parseVndAmount value allowZero) := by
  simp [parseVndAmount]

@[simp] theorem refusedForAmount_vndNumber {value} : ¬RefusedForAmount (vndNumber value) := by
  simp [vndNumber]

theorem refusedForAmount_mapM {read : α → Except Failure β} (never : ∀ row, ¬RefusedForAmount (read row)) (rows : List α) :
    ¬RefusedForAmount (rows.mapM read) := by
  induction rows with
  | nil => simp
  | cons row rows inner => simp [never, inner]

@[simp] theorem refusedForAmount_writeShift {shiftId shift} : ¬RefusedForAmount (store.writeShift shiftId shift) := by
  unfold CashStore.writeShift
  split <;> simp [RefusedForAmount]

@[simp] theorem refusedForAmount_refundAmountOf {dto most} : ¬RefusedForAmount (refundAmountOf dto most) := by
  unfold refundAmountOf
  split <;> simp

theorem refusedForAmount_recordCashEntry {input} {closing : Bool} :
    ¬RefusedForAmount (recordCashEntry store entryId input closing) := by
  rw [recordCashEntry, refusedForAmount_bind]
  rintro (missing | ⟨shift, _, refused⟩)
  · simp at missing
  · split at refused
    · exact refusedForAmount_pure refused
    · simp only [refusedForAmount_bind, refusedForAmount_ensure, Failure.domain.injEq, reduceCtorEq, false_and, exists_false,
        and_false, false_or] at refused
      obtain ⟨_, _, _, _, _, _, _, _, refused⟩ := refused
      split at refused
      · exact refusedForAmount_pure refused
      · simp at refused

theorem refusedForAmount_recordRefund {request} : ¬RefusedForAmount (recordRefund cash entryId actorId request) := by
  unfold recordRefund
  split
  · split
    · simp [refusedForAmount_recordCashEntry]
    · simp
  · simp

theorem refusedForAmount_refundShift {method} {branchId latest : Uuid} :
    ¬RefusedForAmount (refundShift cash method actorId branchId latest) := by
  unfold refundShift
  split
  · simp [findCallersOpenShift]
  · simp

end Refusals

/-- The amount of a request is within what its return still refunds and within what was received and not paid back. -/
def RefundsDb.Fits (before : Int) (db : RefundsDb) (orderId returnId : Uuid) (ret : SalesReturnEntity)
    (dto : CreateRefundRequestDto) : Prop :=
  ∀ requested, refundAmountOf dto ret.totalRefundAmount = .ok requested →
    ((db.refundRequests.filter (·.returnId = returnId)).map (·.amount)).sum + requested ≤ ret.totalRefundAmount ∧
      requested ≤ db.received before orderId - db.refunded orderId

theorem mapM_parseVndAmount {requests : List RefundRequestEntity} {amounts}
    (parsed : requests.mapM (fun request => parseVndAmount request.amount) = .ok amounts) : amounts = requests.map (·.amount) := by
  have each := mapM_map_eq (fun (request : RefundRequestEntity) amount read => (parseVndAmount_ok read).1) parsed
  rwa [List.map_id'] at each

theorem createRefundRequest_fits (books : db.Reconciled before orderId) {ret}
    (found : db.returns.lookup returnId = some ret) (own : ret.orderId = orderId) {dto : CreateRefundRequestDto}
    (fits : db.Fits before orderId returnId ret dto)
    (whole : ∀ order ∈ db.orders.lookup orderId, order.paidAmount = db.received before orderId)
    {requestId entryId latestShift} {key : Option String} :
    ¬RefusedForAmount (createRefundRequest db.toReturnsDb requestId entryId returnId actorId scope key dto latestShift) := by
  rw [createRefundRequest, refusedForAmount_bind]
  rintro (hidden | ⟨locked, lock, refused⟩)
  · simp [ReturnsDb.lockReturn] at hidden
  cases (lockReturn_ok lock).symm.trans found
  split at refused
  · simp at refused
  · simp only [refusedForAmount_bind, refusedForAmount_ensure, refusedForAmount_required, Failure.domain.injEq, reduceCtorEq,
      false_and, exists_false, and_false, false_or, required_eq_ok, refusedForAmount_parseVndAmount,
      refusedForAmount_refundAmountOf] at refused
    obtain ⟨_, _, order, sold, most, parsedMost, requested, read, refused⟩ := refused
    obtain ⟨rfl, _⟩ := parseVndAmount_ok parsedMost
    obtain ⟨left, room⟩ := fits requested read
    rw [own] at sold
    have counted := (books order sold).refunded
    have paid := whole order sold
    rcases refused with amount | ⟨_, _, refused⟩
    · simp only [assertRefundable, refusedForAmount_bind, refusedForAmount_ensure, Failure.domain.injEq, reduceCtorEq, false_and,
        exists_false, and_false, false_or, refusedForAmount_parseVndAmount,
        refusedForAmount_mapM fun request : RefundRequestEntity => refusedForAmount_parseVndAmount] at amount
      obtain ⟨amounts, parsed, beyond | ⟨_, _, _, _, paidRead, readPaid, backRead, readBack, beyond, _⟩⟩ := amount
      · rw [mapM_parseVndAmount parsed] at beyond
        exact beyond.1 left
      · have samePaid := (parseVndAmount_ok readPaid).1
        have sameBack := (parseVndAmount_ok readBack).1
        apply beyond
        omega
    · simp [refusedForAmount_refundShift, refusedForAmount_recordRefund] at refused

def RefundOperation.isRefundCall : RefundOperation → Bool
  | .returns (.placeOrder ..) | .returns (.changeOrder ..) => false
  | _ => true

/-- The paid amount of an order says all that was received for it: no tender refunded it yet. -/
def RefundsDb.PaidWhole (before : Int) (db : RefundsDb) (orderId : Uuid) : Prop :=
  ∀ order ∈ db.orders.lookup orderId, order.paidAmount = db.received before orderId

def LeavesRequested (orderId : Uuid) (db : RefundsDb) : RefundOperation → Prop
  | .recordPayment other _ _ _ _ dto => other = orderId → db.Leaves orderId dto
  | .returns _ => True

instance (db : RefundsDb) (orderId : Uuid) (dto : RecordPaymentDto) : Decidable (db.Leaves orderId dto) :=
  inferInstanceAs (Decidable (dto.refund = true → ∀ order ∈ db.orders.lookup orderId, _ ≤ order.effectivePaid ∧ IsSafe _))

instance (orderId : Uuid) (db : RefundsDb) : ∀ operation, Decidable (LeavesRequested orderId db operation)
  | .recordPayment other _ _ _ _ dto => inferInstanceAs (Decidable (other = orderId → db.Leaves orderId dto))
  | .returns _ => isTrue trivial

theorem performReturn_reconciled (books : db.Reconciled before orderId) {operation}
    (call : (RefundOperation.returns operation).isRefundCall = true) :
    (performRefund db (.returns operation)).Reconciled before orderId := by
  cases operation with
  | placeOrder | changeOrder => cases call
  | shift operation => exact books.of_money ⟨rfl, fun _ => rfl⟩
  | createReturn => exact books.of_money createReturn_money
  | approveReturn =>
    exact books.of_money (commit_preserves (KeepsMoney db.toReturnsDb) (.refl _) fun _ ran => approveReturn_money ran)
  | rejectReturn =>
    exact books.of_money (commit_preserves (KeepsMoney db.toReturnsDb) (.refl _) fun _ ran => rejectReturn_money ran)
  | receiveReturn =>
    exact books.of_money (commit_preserves (KeepsMoney db.toReturnsDb) (.refl _) fun _ ran => receiveReturn_money ran)
  | createRefundRequest requestId entryId returnId actorId scope key dto latestShift =>
    exact (commit_preserves (RefundAsked db.toReturnsDb returnId) (.replayed rfl) fun _ ran =>
      createRefundRequest_asked ran).books books

theorem performRefund_reconciled (books : db.Reconciled before orderId) {operation}
    (call : operation.isRefundCall = true) (leaves : LeavesRequested orderId db operation) :
    (performRefund db operation).Reconciled before orderId := by
  cases operation with
  | returns operation => exact performReturn_reconciled books call
  | recordPayment other ids actorId scope key dto =>
    exact commit_preserves (RefundsDb.Reconciled before orderId) books fun _ ran =>
      (recordOrderPayment_recorded ran).books books leaves

/-- An order of which nothing was paid back, with what it reads as paid received; its amounts are whole numbers of a double. -/
structure RefundsDb.Opened (before : Int) (db : RefundsDb) (orderId : Uuid) : Prop where
  order : ∀ order ∈ db.orders.lookup orderId, order.refundedAmount = 0 ∧ order.paidAmount ≤ order.effectivePaid ∧
    0 ≤ order.effectivePaid ∧ order.effectivePaid = db.received before orderId ∧ order.effectivePaid ≤ JsNumber.maxSafeInteger ∧
    0 ≤ order.totalAmount ∧ order.totalAmount ≤ JsNumber.maxSafeInteger
  tenders : ∀ row ∈ db.tenders, row.1 = orderId → row.2.kind ≠ .refund
  requests : ∀ request ∈ db.refundRequests, request.orderId ≠ orderId

theorem RefundsDb.Opened.books (opened : db.Opened before orderId) : db.Reconciled before orderId := by
  intro order found
  obtain ⟨untouched, low, nonneg, same, small, whole⟩ := opened.order order found
  have tendered : db.tendered .refund orderId = 0 := by
    refine total_of_absent fun row member own => ?_
    obtain ⟨inside, kind⟩ := List.mem_filter.mp member
    exact opened.tenders row inside own (of_decide_eq_true kind)
  have requested : db.requested orderId = 0 := total_of_absent opened.requests
  constructor
  · exact low
  · omega
  · rw [refunded]
    omega
  · exact tendered.ge
  · rw [refunded]
    omega
  · exact whole
  · exact ⟨nonneg, small⟩

/-- From an order of which nothing was paid back, along any calls of which each refunding tender leaves what was requested: no
more is paid back than was received, and the row counts all of it. A request that fits is not refused for its amount while the
paid amount says all that was received. -/
theorem refunds_within_paid (start : RefundsDb) (orderId : Uuid) (before : Int) (opened : start.Opened before orderId)
    (calls : List RefundOperation) (each : ∀ call ∈ calls, call.isRefundCall = true)
    (leaves : Run.Meets performRefund (LeavesRequested orderId) start calls) :
    (∀ order, (Run.after performRefund start calls).orders.lookup orderId = some order →
      (Run.after performRefund start calls).refunded orderId ≤ (Run.after performRefund start calls).received before orderId ∧
      order.refundedAmount = (Run.after performRefund start calls).refunded orderId) ∧
    ∀ returnId ret, (Run.after performRefund start calls).returns.lookup returnId = some ret → ret.orderId = orderId →
      (Run.after performRefund start calls).PaidWhole before orderId →
      ∀ dto, (Run.after performRefund start calls).Fits before orderId returnId ret dto →
      ∀ requestId entryId actorId scope key latestShift, ¬RefusedForAmount (createRefundRequest
        (Run.after performRefund start calls).toReturnsDb requestId entryId returnId actorId scope key dto latestShift) := by
  have books : (Run.after performRefund start calls).Reconciled before orderId :=
    Run.invariant_of_meets (RefundsDb.Reconciled before orderId)
      (fun _ _ condition books => performRefund_reconciled books condition.2 condition.1)
      (leaves.and (Run.meets_of_inputs each)) opened.books
  constructor
  · intro order found
    exact ⟨(books order found).bounded, (books order found).refunded⟩
  · intro returnId ret found own whole dto fits requestId entryId actorId scope key latestShift
    exact createRefundRequest_fits books found own fits whole

private def paidRice : RefundsDb where
  toReturnsDb := returnsAfter [riceSale]
  tenders := [(1, { id := 40, shiftId := none, idempotencyKey := "checkout", method := .bankTransfer, amount := 200
                    tenderedCash := 0, confirmedBy := 3, kind := .payment, note := none })]

private theorem paidRice_opened : paidRice.Opened 0 1 := by
  constructor
  · decide +kernel
  · decide +kernel
  · decide +kernel

private def returnBags : RefundOperation :=
  .returns (.createReturn 20 "TH000001" 3 none
    { orderId := 1, items := [{ orderItemId := 7, returnQty := "1" }, { orderItemId := 8, returnQty := "1" }]
      autoApprove := true } fun _ => .ok 0)

private def requestRefund (amount : Option Int) : RefundOperation :=
  .returns (.createRefundRequest 30 0 20 3 none none { amount, method := some .bankTransfer } 0)

private def refundByTransfer (amount : Int) : RefundOperation :=
  .recordPayment 1 ⟨41, 0, 0⟩ 3 none "back" { method := .bankTransfer, amount := -amount }

/-- The order once most of its return is refunded by request, and what is left by a tender. -/
private def riceRefunded : RefundsDb :=
  Run.after performRefund paidRice [returnBags, requestRefund (some 150), refundByTransfer 50]

private def riceReturned : RefundsDb := Run.after performRefund paidRice [returnBags]

/-- Most of the return is refunded by request, and what is left by a tender; and a request of most of it is not refused. -/
theorem rice_refunded_within :
    (∃ order, riceRefunded.orders.lookup 1 = some order ∧
      riceRefunded.refunded 1 ≤ riceRefunded.received 0 1 ∧ order.refundedAmount = riceRefunded.refunded 1) ∧
    ¬RefusedForAmount (createRefundRequest riceReturned.toReturnsDb 30 0 20 3 none none
      { amount := some 150, method := some .bankTransfer } 0) := by
  constructor
  · have stored : (riceRefunded.orders.lookup 1).isSome = true := by decide +kernel
    obtain ⟨order, found⟩ := isSome_iff_exists.mp stored
    have within := (refunds_within_paid paidRice 1 0 paidRice_opened
      [returnBags, requestRefund (some 150), refundByTransfer 50] (by decide) (by decide +kernel)).1
    exact ⟨order, found, within order found⟩
  · have columns : (riceReturned.returns.lookup 20).map (fun ret => (ret.orderId, ret.totalRefundAmount)) = some (1, 200) := by
      decide +kernel
    obtain ⟨ret, found, same⟩ := map_eq_some_iff.mp columns
    obtain ⟨own, total⟩ := Prod.mk.inj same
    have asks := (refunds_within_paid paidRice 1 0 paidRice_opened [returnBags] (by decide) (by decide +kernel)).2
    apply asks 20 ret found own (by unfold PaidWhole; decide +kernel)
    intro requested read
    rw [total] at read ⊢
    cases read
    decide +kernel

/-- The whole order is refunded by request, and then once more by a tender. -/
theorem rice_refunded_twice : ¬∀ start orderId before, Opened before start orderId →
    ∀ calls : List RefundOperation, (∀ call ∈ calls, call.isRefundCall = true) →
    (Run.after performRefund start calls).refunded orderId ≤ (Run.after performRefund start calls).received before orderId := by
  intro claim
  have bounded := claim paidRice 1 0 paidRice_opened [returnBags, requestRefund none, refundByTransfer 200] (by decide)
  exact absurd bounded (by decide +kernel)

end Sales
