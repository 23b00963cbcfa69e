import RetailApi.Insight.Reconciliation

/-! What the processors leave: the facts and the active summaries after each of them. -/

namespace Insight

open Table InsightDb

def SalesOrderFactEntity.dimensions (fact : SalesOrderFactEntity) : OrderDimensions :=
  ⟨fact.channelType, fact.sellerStaffId, fact.customerGroupId⟩

def SalesReturnFactEntity.dimensions (fact : SalesReturnFactEntity) : OrderDimensions :=
  ⟨fact.channelType, fact.sellerStaffId, fact.customerGroupId⟩

variable {db : InsightDb} {day : DayBranch} {dimensions : OrderDimensions}

theorem summariesOf_updateGeneration (change : Summaries → Summaries) (generation other : GenerationId) :
    (db.updateGeneration change generation).summariesOf other =
      if other = generation then change (db.summariesOf generation) else db.summariesOf other := by
  rw [summariesOf, updateGeneration, lookup_upsert]
  split
  · rfl
  · rfl

/-- Only summaries differ. -/
structure SameFacts (db after : InsightDb) : Prop where
  orderFacts : after.orderFacts = db.orderFacts
  lineFacts : after.lineFacts = db.lineFacts
  returnFacts : after.returnFacts = db.returnFacts
  activeGenerationId : after.activeGenerationId = db.activeGenerationId

theorem sameFacts_foldl (change : Summaries → Summaries) (generations : List GenerationId) :
    SameFacts db (generations.foldl (fun db generation => db.updateGeneration change generation) db) := by
  induction generations generalizing db with
  | nil => exact ⟨rfl, rfl, rfl, rfl⟩
  | cons generation generations inner =>
    have rest : SameFacts (db.updateGeneration change generation) _ := inner
    exact ⟨rest.orderFacts, rest.lineFacts, rest.returnFacts, rest.activeGenerationId⟩

theorem sameFacts_updateTargets (db : InsightDb) (change : Summaries → Summaries) : SameFacts db (db.updateTargets change) :=
  sameFacts_foldl change _

theorem foldl_other (change : Summaries → Summaries) {generations : List GenerationId} {other}
    (outside : other ∉ generations) :
    (generations.foldl (fun db generation => db.updateGeneration change generation) db).summariesOf other =
      db.summariesOf other := by
  induction generations generalizing db with
  | nil => rfl
  | cons generation generations inner =>
    rw [List.foldl_cons, inner fun member => outside (.tail _ member), summariesOf_updateGeneration, if_neg]
    rintro rfl
    exact outside (.head _)

/-- The active generation is among the targets, and the building ones are other generations. -/
theorem active_updateTargets (db : InsightDb) (change : Summaries → Summaries) :
    (db.updateTargets change).active = change db.active := by
  rw [active, (sameFacts_updateTargets db change).activeGenerationId, updateTargets, targetGenerations, List.foldl_cons,
    foldl_other, summariesOf_updateGeneration, if_pos rfl]
  · rfl
  · intro member
    exact absurd rfl (of_decide_eq_true (List.mem_filter.mp member).2)

theorem daily_applyOrder (summaries : Summaries) (delta : OrderContributionVector) (pending : Int) :
    (summaries.applyOrderDeltaToSummaries day dimensions delta (delta.netRevenue - delta.cogs) pending).daily =
      upsert summaries.daily day {} (·.addOrder delta pending) := by
  rw [Summaries.applyOrderDeltaToSummaries]
  split <;> rfl

theorem daily_applyReturn (summaries : Summaries) (refund cogs : Int) (units : Scaled) :
    (summaries.applyReturnDeltaToSummaries day dimensions refund cogs units).daily =
      upsert summaries.daily day {} (·.addReturn refund cogs units) := rfl

/-- What writing the lines of an order leaves: product summaries may move, daily ones do not. -/
structure WritesLines (db after : InsightDb) (lineFacts : Table (Uuid × String) SalesOrderLineFactEntity) : Prop where
  orderFacts : after.orderFacts = db.orderFacts
  lineFacts : after.lineFacts = lineFacts
  returnFacts : after.returnFacts = db.returnFacts
  daily : after.active.daily = db.active.daily

theorem writeLine_writes (db : InsightDb) (orderId : Uuid) (status : OrderStatus) (completedCount : Int) (line : ResolvedLine) :
    WritesLines db (writeLine orderId day dimensions status completedCount db line)
      (writtenLines orderId day dimensions status db.lineFacts [line]) := by
  rw [writeLine]
  split
  · have same := sameFacts_updateTargets { db with
      lineFacts := writtenLines orderId day dimensions status db.lineFacts [line] }
      (·.applyProductSummaryDelta day (line.productDelta status completedCount))
    refine ⟨same.orderFacts, same.lineFacts, same.returnFacts, ?_⟩
    rw [active_updateTargets]
    rfl
  · exact ⟨rfl, rfl, rfl, rfl⟩

theorem writeLines_writes (orderId : Uuid) (status : OrderStatus) (completedCount : Int) (lines : List ResolvedLine) :
    WritesLines db (lines.foldl (writeLine orderId day dimensions status completedCount) db)
      (writtenLines orderId day dimensions status db.lineFacts lines) := by
  induction lines generalizing db with
  | nil => exact ⟨rfl, rfl, rfl, rfl⟩
  | cons line lines inner =>
    have first : WritesLines db (writeLine orderId day dimensions status completedCount db line) _ :=
      writeLine_writes db orderId status completedCount line
    have rest : WritesLines (writeLine orderId day dimensions status completedCount db line) _ _ := inner
    rw [first.lineFacts] at rest
    exact ⟨rest.orderFacts.trans first.orderFacts, rest.lineFacts, rest.returnFacts.trans first.returnFacts,
      rest.daily.trans first.daily⟩

/-- What an order event leaves. A day whose figures do not move keeps its row as it is. -/
structure AppliesOrder (db : InsightDb) (event : OrderEvent) (existing : Option SalesOrderFactEntity) (day : DayBranch)
    (fact : SalesOrderFactEntity) (lines : List ResolvedLine) (after : InsightDb) : Prop where
  orderFacts : after.orderFacts = db.orderFacts.insert event.orderId fact
  lineFacts : after.lineFacts = writtenLines event.orderId day (event.dimensions existing) event.status db.lineFacts lines
  returnFacts : after.returnFacts = db.returnFacts
  daily : after.active.daily = db.active.daily ∧
      computeOrderContributionDelta fact.contributed (existing.map (·.contributed)) = {} ∧
      (lines.map (·.pendingDelta event.status)).sum = 0 ∨
    after.active.daily = upsert db.active.daily day {} (·.addOrder
      (computeOrderContributionDelta fact.contributed (existing.map (·.contributed)))
      (lines.map (·.pendingDelta event.status)).sum)

def eventLines (db : InsightDb) (event : OrderEvent) (existing : Option SalesOrderFactEntity) : List ResolvedLine :=
  discountedLines (resolveLines db event) (orderTotals event existing (resolveLines db event)).discountTotal

def eventFact (db : InsightDb) (event : OrderEvent) (existing : Option SalesOrderFactEntity) (day : DayBranch) :
    SalesOrderFactEntity :=
  orderFact event existing day (orderTotals event existing (resolveLines db event))

theorem applyOrderEvent_applies (db : InsightDb) (event : OrderEvent) (existing : Option SalesOrderFactEntity) (day : DayBranch) :
    AppliesOrder db event existing day (eventFact db event existing day) (eventLines db event existing)
      (applyOrderEvent db event existing day) := by
  have written := @writeLines_writes { db with orderFacts := db.orderFacts.insert event.orderId (eventFact db event existing day) }
    day (event.dimensions existing) event.orderId event.status
    (computeOrderContributionDelta (eventFact db event existing day).contributed (existing.map (·.contributed))).completedCount
    (eventLines db event existing)
  rw [applyOrderEvent]
  split
  · refine ⟨(sameFacts_updateTargets _ _).orderFacts.trans written.orderFacts,
      (sameFacts_updateTargets _ _).lineFacts.trans written.lineFacts,
      (sameFacts_updateTargets _ _).returnFacts.trans written.returnFacts, .inr ?_⟩
    rw [active_updateTargets, daily_applyOrder]
    exact congrArg (upsert · day {} _) written.daily
  · next unchanged =>
    rw [not_or, Bool.not_eq_false, not_not] at unchanged
    exact ⟨written.orderFacts, written.lineFacts, written.returnFacts,
      .inl ⟨written.daily, of_decide_eq_true unchanged.1, unchanged.2⟩⟩

/-- What resolving the cost of a line leaves. Only a line that counts as sold moves its day. -/
structure ResolvesCost (db : InsightDb) (key : Uuid × String) (line : SalesOrderLineFactEntity) (newCogs : Int)
    (fact : SalesOrderFactEntity) (after : InsightDb) : Prop where
  orderFacts : ∃ costed : SalesOrderFactEntity, after.orderFacts = db.orderFacts.insert key.1 costed ∧
    costed.day = fact.day ∧ costed.orderStatus = fact.orderStatus ∧ costed.dimensions = fact.dimensions ∧
    costed.contributed = { fact.contributed with
      cogs := fact.contributed.cogs + if 0 < line.contributed.unitsSold then newCogs else 0 }
  lineFacts : ∃ resolved : SalesOrderLineFactEntity, after.lineFacts = db.lineFacts.insert key resolved ∧
    resolved.costStatus = .verified ∧ resolved.day = line.day ∧ resolved.skuCode = line.skuCode ∧
    resolved.contributed = { line.contributed with cogs := if 0 < line.contributed.unitsSold then newCogs else 0 } ∧
    resolved.lineNetRevenue = line.lineNetRevenue ∧ resolved.lineSubtotal = line.lineSubtotal ∧
    resolved.lineDiscount = line.lineDiscount
  returnFacts : after.returnFacts = db.returnFacts
  daily : after.active.daily = if 0 < line.contributed.unitsSold then
    upsert db.active.daily line.day {} (·.addOrder { cogs := newCogs } (-1)) else db.active.daily

theorem resolveLineCost_resolves (unitCost : Int) {key} (line : SalesOrderLineFactEntity)
    {fact} (found : db.orderFacts.lookup key.1 = some fact) :
    ResolvesCost db key line (mulWhole line.quantity unitCost) fact (resolveLineCost unitCost db (key, line)) := by
  rw [resolveLineCost]
  rw [found]
  by_cases completed : 0 < line.contributed.unitsSold
  · simp only [completed, decide_true, ↓reduceIte]
    refine ⟨⟨_, (sameFacts_updateTargets _ _).orderFacts, rfl, rfl, rfl, ?_⟩,
      ⟨_, (sameFacts_updateTargets _ _).lineFacts, rfl, rfl, rfl, ?_, rfl, rfl, rfl⟩,
      (sameFacts_updateTargets _ _).returnFacts, ?_⟩
    · rw [if_pos completed]
    · rw [if_pos completed]
    · rw [active_updateTargets, if_pos completed]
      exact daily_applyOrder _ { cogs := mulWhole line.quantity unitCost } (-1)
  · simp only [completed, decide_false, Bool.false_eq_true, ↓reduceIte]
    refine ⟨⟨_, rfl, rfl, rfl, rfl, ?_⟩, ⟨_, rfl, rfl, rfl, rfl, ?_, rfl, rfl, rfl⟩, rfl, ?_⟩
    · rw [if_neg completed]
    · rw [if_neg completed]
    · rw [if_neg completed]
      rfl

def returnedProducts (day : DayBranch) (summaries : Summaries) (lines : List ReturnedLine) : Summaries :=
  lines.foldl (fun summaries line => summaries.applyProductSummaryDelta day line.productDelta) summaries

theorem active_returnLines (lines : List ReturnedLine) :
    (lines.foldl (fun db line => db.updateTargets (·.applyProductSummaryDelta day line.productDelta)) db).active =
      returnedProducts day db.active lines := by
  induction lines generalizing db with
  | nil => rfl
  | cons line lines inner =>
    rw [List.foldl_cons, inner, active_updateTargets]
    rfl

/-- What a completed return leaves, which is counted on the day it took place. -/
structure AppliesReturn (db : InsightDb) (event : ReturnEvent) (fact : SalesReturnFactEntity) (after : InsightDb) : Prop where
  orderFacts : after.orderFacts = db.orderFacts
  lineFacts : after.lineFacts = db.lineFacts
  returnFacts : after.returnFacts = db.returnFacts.insert event.returnId fact
  daily : after.active.daily = upsert db.active.daily fact.day {}
    (·.addReturn fact.refundAmount fact.returnedCogsAmount fact.returnedUnits)
  refundAmount : fact.refundAmount = wholeMoney event.totalRefundAmount
  active : after.active = (returnedProducts fact.day db.active (returnedLines db event fact.refundAmount)).applyReturnDeltaToSummaries
    fact.day fact.dimensions fact.refundAmount fact.returnedCogsAmount fact.returnedUnits

theorem products_foldl (lines : List ReturnedLine) :
    let after := lines.foldl (fun db line => db.updateTargets (·.applyProductSummaryDelta day line.productDelta)) db
    SameFacts db after ∧ after.active.daily = db.active.daily := by
  induction lines generalizing db with
  | nil => exact ⟨⟨rfl, rfl, rfl, rfl⟩, rfl⟩
  | cons line lines inner =>
    have first := sameFacts_updateTargets db (·.applyProductSummaryDelta day line.productDelta)
    obtain ⟨same, daily⟩ := @inner (db.updateTargets (·.applyProductSummaryDelta day line.productDelta))
    rw [active_updateTargets] at daily
    exact ⟨⟨same.orderFacts.trans first.orderFacts, same.lineFacts.trans first.lineFacts,
      same.returnFacts.trans first.returnFacts, same.activeGenerationId.trans first.activeGenerationId⟩, daily⟩

/-- A return whose fact is there already changes nothing. -/
theorem processSalesReturnCompleted_applies (event : ReturnEvent) : processSalesReturnCompleted db event = db ∨
    db.returnFacts.lookup event.returnId = none ∧
      ∃ fact, AppliesReturn db event fact (processSalesReturnCompleted db event) := by
  rw [processSalesReturnCompleted]
  split
  · next branchId new _ =>
    obtain ⟨same, daily⟩ := @products_foldl db ⟨toReportingDateBucket event.occurredAt, branchId⟩
      (returnedLines db event (wholeMoney event.totalRefundAmount))
    refine .inr ⟨new, returnFact event ⟨toReportingDateBucket event.occurredAt, branchId⟩
      (event.dimensions (db.orderFacts.lookup event.orderId)) (wholeMoney event.totalRefundAmount)
      (returnedLines db event (wholeMoney event.totalRefundAmount)),
      (sameFacts_updateTargets _ _).orderFacts.trans same.orderFacts,
      (sameFacts_updateTargets _ _).lineFacts.trans same.lineFacts, ?_, ?_, rfl, ?_⟩
    · rw [(sameFacts_updateTargets _ _).returnFacts, same.returnFacts]
    · rw [active_updateTargets, daily_applyReturn]
      exact congrArg (upsert · _ {} _) daily
    · rw [active_updateTargets]
      exact congrArg (fun summaries : Summaries => summaries.applyReturnDeltaToSummaries _ _ _ _ _) (active_returnLines _)
  · exact .inl rfl

end Insight
