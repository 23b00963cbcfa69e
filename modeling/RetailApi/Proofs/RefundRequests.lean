import RetailApi.Proofs.ReturnCounters

/-! What refund requests pay for an order line. A return is paid out once, so the requests of a line
stay within its total as long as no return that was paid out is taken back. -/

namespace Sales

open Transaction SalesReturnItemEntity

/-- How the amounts of the refund requests fall on order lines: each request is split over the lines of its
return, a line getting no more than the return refunds on it. -/
structure ReturnsDb.Attribution (db : ReturnsDb) (share : RefundRequestEntity → Uuid → Int) : Prop where
  within : ∀ request ∈ db.refundRequests, ∀ orderItemId, 0 ≤ share request orderItemId ∧
    share request orderItemId ≤ db.lineSum request.returnId refundAmount orderItemId
  whole : ∀ request ∈ db.refundRequests,
    (((db.linesOf request.returnId).map (·.orderItemId)).dedup.map (share request)).sum = request.amount

def ReturnsDb.paidOn (db : ReturnsDb) (share : RefundRequestEntity → Uuid → Int) (orderItemId : Uuid) : Int :=
  (db.refundRequests.map fun request => share request orderItemId).sum

/-- A return that `rejectReturn` takes back. -/
def SalesReturnEntity.rejectable (ret : SalesReturnEntity) : Bool :=
  ret.status ≠ .rejected ∧ ret.status ≠ .completed ∧ ret.status ≠ .received

def sparesRefunded (db : ReturnsDb) : ReturnOperation → Prop
  | .rejectReturn returnId _ _ =>
    (db.returns.lookup returnId).any (·.rejectable) = true → ∀ request ∈ db.refundRequests, request.returnId ≠ returnId
  | _ => True

instance (db : ReturnsDb) (operation : ReturnOperation) : Decidable (sparesRefunded db operation) := by
  unfold sparesRefunded
  split <;> infer_instance

structure ReturnsDb.PaidOnce (db : ReturnsDb) : Prop where
  sums : db.AddsUp
  first : (db.refundRequests.map (·.returnId)).Nodup
  standing : ∀ request ∈ db.refundRequests, stands db.returns request.returnId = true

variable {db : ReturnsDb}

theorem ReturnsDb.PaidOnce.paidOn_le (paid : db.PaidOnce) {share}
    (attributed : db.Attribution share) (orderItemId : Uuid) :
    db.paidOn share orderItemId ≤ db.standing SalesReturnItemEntity.refundAmount orderItemId := by
  calc db.paidOn share orderItemId
      ≤ (db.refundRequests.map fun request =>
          db.lineSum request.returnId SalesReturnItemEntity.refundAmount orderItemId).sum :=
        List.sum_le_sum fun request member => (attributed.within request member orderItemId).2
    _ = Keyed.total SalesReturnItemEntity.orderItemId SalesReturnItemEntity.refundAmount orderItemId
          (db.returnItems.filter fun line => line.returnId ∈ db.refundRequests.map (·.returnId)) := by
        rw [← Keyed.total_filter_mem SalesReturnItemEntity.returnId paid.first db.returnItems, List.map_map]
        rfl
    _ ≤ db.standing SalesReturnItemEntity.refundAmount orderItemId := by
        refine Keyed.total_filter_le (fun line member => (paid.sums.positive line member).2) fun line _ chosen => ?_
        obtain ⟨request, member, same⟩ := List.mem_map.mp (of_decide_eq_true chosen)
        exact same ▸ paid.standing request member

variable {after : ReturnsDb} {returnId actorId : Uuid} {scope : BranchScope}

theorem ReturnsDb.PaidOnce.of_requests (paid : db.PaidOnce) (sums : after.AddsUp)
    (requests : after.refundRequests = db.refundRequests)
    (standing : ∀ request ∈ db.refundRequests, stands after.returns request.returnId = true) : after.PaidOnce := by
  refine ⟨sums, ?_, ?_⟩
  · rw [requests]
    exact paid.first
  · rw [requests]
    exact standing

theorem ReturnsDb.PaidOnce.of_rewrites (paid : db.PaidOnce) (rewrites : db.Rewrites after) : after.PaidOnce := by
  have sums := rewrites.addsUp paid.sums
  obtain ⟨_, _, requests, same | ⟨returnId, old, new, found, returns, _, standing⟩⟩ := rewrites
  · apply paid.of_requests sums requests
    rw [same]
    exact paid.standing
  · apply paid.of_requests sums requests
    intro request member
    rw [returns, stands_insert]
    split
    · exact decide_eq_true standing
    · exact paid.standing request member

theorem placeOrder_frame {orderId order lines} (placed : placeOrder db orderId order lines = .ok after) :
    after.returns = db.returns ∧ after.refundRequests = db.refundRequests := by
  simp only [placeOrder, eq_ok] at placed
  obtain ⟨_, _, inserted⟩ := placed
  refine foldlM_preserves (fun current => current.returns = db.returns ∧ current.refundRequests = db.refundRequests) ?_
    ⟨rfl, rfl⟩ inserted
  intro entry _ before next kept stepped
  simp only [ReturnsDb.insertLine, eq_ok] at stepped
  obtain ⟨_, _, rfl⟩ := stepped
  exact kept

theorem createReturnRow_frame {code dto} (created : createReturnRow db returnId code actorId scope dto = .ok after) :
    after.refundRequests = db.refundRequests ∧
      ∃ ret : SalesReturnEntity, after.returns = db.returns.insert returnId ret ∧ ret.status ≠ .rejected := by
  obtain ⟨_, _, _, _, _, _, _, _, _, _, rfl⟩ := createReturnRow_ok created
  exact ⟨rfl, _, rfl, newReturn_status _ _ _ _ _⟩

theorem rejectReturn_frame {reason} (ran : rejectReturn db returnId scope reason = .ok after) : after = db ∨
      after.refundRequests = db.refundRequests ∧ ∃ ret new, db.returns.lookup returnId = some ret ∧ ret.rejectable = true ∧
        after.returns = db.returns.insert returnId new := by
  refine (rejectReturn_ok ran).imp_right ?_
  rintro ⟨ret, new, _, found, undecided, running, _, _, _, rfl⟩
  exact ⟨rfl, ret, new, found, by simp [SalesReturnEntity.rejectable, undecided, running], rfl⟩

theorem stands_of_insert {returns other} {ret}
    (accepted : ret.status ≠ .rejected) (standing : stands returns other = true) :
    stands (returns.insert returnId ret) other = true := by
  rw [stands_insert]
  split
  · exact decide_eq_true accepted
  · exact standing

theorem createReturnRow_paidOnce {code dto} (paid : db.PaidOnce)
    (created : createReturnRow db returnId code actorId scope dto = .ok after) : after.PaidOnce := by
  obtain ⟨requests, ret, returns, accepted⟩ := createReturnRow_frame created
  apply paid.of_requests (createReturnRow_addsUp paid.sums created) requests
  rw [returns]
  exact fun request member => stands_of_insert accepted (paid.standing request member)

theorem createRefundRequest_paidOnce {requestId entryId key dto latestShift} (paid : db.PaidOnce)
    (ran : createRefundRequest db requestId entryId returnId actorId scope key dto latestShift = .ok after) :
    after.PaidOnce := by
  obtain ⟨items, returns, lines, effect⟩ := createRefundRequest_ok ran
  have sums : after.AddsUp :=
    paid.sums.moved items lines (fun _ => by rw [returns]) fun _ present => by rwa [returns]
  obtain same | ⟨ret, request, requests, found, standing, own, _, first⟩ := effect
  · apply paid.of_requests sums same
    rw [returns]
    exact paid.standing
  · refine ⟨sums, ?_, ?_⟩
    · rw [requests]
      apply Keyed.nodup_append paid.first
      intro other inside
      rw [own]
      exact first other inside
    · rw [requests, returns]
      refine forall_concat paid.standing ?_
      rw [own]
      simp [stands, found, standing]

theorem performReturn_paidOnce (paid : db.PaidOnce) {operation} (spares : sparesRefunded db operation) :
    (performReturn db operation).PaidOnce := by
  have sums := performReturn_addsUp paid.sums operation
  cases operation with
  | placeOrder orderId order lines =>
    refine commit_preserves _ paid fun after placed => ?_
    obtain ⟨returns, requests⟩ := placeOrder_frame placed
    apply paid.of_requests (placeOrder_addsUp paid.sums placed) requests
    rw [returns]
    exact paid.standing
  | changeOrder orderId order => exact ⟨sums, paid.first, paid.standing⟩
  | shift operation => exact ⟨sums, paid.first, paid.standing⟩
  | createReturn returnId code actorId scope dto answer =>
    simp only [performReturn, createReturn]
    split
    · exact paid
    · next created row =>
      have made := createReturnRow_paidOnce paid row
      split
      · split
        · next received => exact made.of_rewrites (receiveReturn_rewrites received)
        · exact made
      · exact made
  | approveReturn returnId actorId scope =>
    exact commit_preserves _ paid fun _ ran => paid.of_rewrites (approveReturn_rewrites ran)
  | rejectReturn returnId scope reason =>
    refine commit_preserves _ paid fun after ran => ?_
    obtain rfl | ⟨requests, ret, new, found, rejectable, returns⟩ := rejectReturn_frame ran
    · exact paid
    · have others := spares (by simp [found, rejectable])
      apply paid.of_requests (rejectReturn_addsUp paid.sums ran) requests
      intro request member
      rw [returns, stands_insert, if_neg (others request member)]
      exact paid.standing request member
  | receiveReturn returnId actorId scope answer =>
    exact commit_preserves _ paid fun _ ran => paid.of_rewrites (receiveReturn_rewrites ran)
  | createRefundRequest requestId entryId returnId actorId scope key dto latestShift =>
    exact commit_preserves _ paid fun _ ran => createRefundRequest_paidOnce paid ran

theorem paidOnce_empty : ({} : ReturnsDb).PaidOnce :=
  ⟨addsUp_empty, List.nodup_nil, by simp⟩

/-- As long as no return is taken back that already has a refund request, the requests attributed to an order line
never add up to more than the line was sold for. -/
theorem refund_requests_within_total {operations : List ReturnOperation}
    (spared : Run.Meets performReturn sparesRefunded {} operations) {share : RefundRequestEntity → Uuid → Int}
    (attributed : (returnsAfter operations).Attribution share) {orderItemId : Uuid} {item : OrderItemEntity}
    (found : (returnsAfter operations).orderItems.lookup orderItemId = some item) :
    (returnsAfter operations).paidOn share orderItemId ≤ item.lineTotal := by
  have paid : (returnsAfter operations).PaidOnce := Run.invariant_of_meets ReturnsDb.PaidOnce
    (fun _ _ spares paid => performReturn_paidOnce paid spares) spared paidOnce_empty
  calc (returnsAfter operations).paidOn share orderItemId
      ≤ (returnsAfter operations).standing refundAmount orderItemId :=
        paid.paidOn_le attributed orderItemId
    _ = item.refundedAmount := (paid.sums.refunded orderItemId item found).symm
    _ ≤ item.lineTotal := (paid.sums.sound orderItemId item found).balanced.refunded_le

def returnBag (returnId : Uuid) : ReturnOperation :=
  .createReturn returnId "TH000001" 3 none
    { orderId := 1, items := [{ orderItemId := 7, returnQty := "1" }], autoApprove := true } fun _ => .ok 0

def refundBag (requestId returnId : Uuid) : ReturnOperation :=
  .createRefundRequest requestId 0 returnId 3 none none { method := some .bankTransfer } 0

def onBag (request : RefundRequestEntity) (orderItemId : Uuid) : Int :=
  if orderItemId = 7 then request.amount else 0

theorem attribution_onBag {operations} (each : ∀ request ∈ (returnsAfter operations).refundRequests, 0 ≤ request.amount ∧
      request.amount ≤ (returnsAfter operations).lineSum request.returnId refundAmount 7 ∧
      ((((returnsAfter operations).linesOf request.returnId).map (·.orderItemId)).dedup.map (onBag request)).sum =
        request.amount) : (returnsAfter operations).Attribution onBag := by
  refine ⟨fun request member orderItemId => ?_, fun request member => (each request member).2.2⟩
  unfold onBag
  by_cases bag : orderItemId = 7
  · rw [if_pos bag, bag]
    exact ⟨(each request member).1, (each request member).2.1⟩
  · rw [if_neg bag]
    refine ⟨le_rfl, Keyed.total_nonneg fun line inside => ?_⟩
    exact ((returnsAfter_addsUp operations).positive line (List.mem_of_mem_filter inside)).2

theorem refund_requests_within_total_bag :
    (∃ item, (returnsAfter [riceSale, returnBag 20, .rejectReturn 20 none none, returnBag 21, refundBag 30 21]).orderItems.lookup
      7 = some item) ∧
    ∀ item, (returnsAfter [riceSale, returnBag 20, .rejectReturn 20 none none, returnBag 21, refundBag 30 21]).orderItems.lookup
      7 = some item →
      (returnsAfter [riceSale, returnBag 20, .rejectReturn 20 none none, returnBag 21, refundBag 30 21]).paidOn onBag 7 ≤
        item.lineTotal := by
  constructor
  · exact Option.ne_none_iff_exists'.mp (by decide +kernel)
  · intro item found
    exact refund_requests_within_total (by decide +kernel) (attribution_onBag (by decide +kernel)) found

/-- The first bag is returned and paid, the return is rejected, and the bag is returned and paid again. -/
theorem bag_refunded_twice : ¬∀ operations share orderItemId item, (returnsAfter operations).Attribution share →
    (returnsAfter operations).orderItems.lookup orderItemId = some item →
      (returnsAfter operations).paidOn share orderItemId ≤ item.lineTotal := by
  intro claim
  have twice : ((returnsAfter [riceSale, returnBag 20, refundBag 30 20, .rejectReturn 20 none none, returnBag 21,
      refundBag 31 21]).orderItems.lookup 7).any (fun item => item.lineTotal < (returnsAfter [riceSale, returnBag 20,
      refundBag 30 20, .rejectReturn 20 none none, returnBag 21, refundBag 31 21]).paidOn onBag 7) = true := by
    decide +kernel
  obtain ⟨item, found, exceeded⟩ := (Option.any_eq_true _ _).mp twice
  have bound := claim _ onBag 7 item (attribution_onBag (by decide +kernel)) found
  exact absurd (of_decide_eq_true exceeded) (not_lt.mpr bound)

end Sales
