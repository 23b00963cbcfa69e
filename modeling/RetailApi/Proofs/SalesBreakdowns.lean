import RetailApi.Proofs.BreakdownFigures

/-! The breakdowns of sales by channel, employee, customer group and SKU agree with the facts while an order stays under the
dimensions it was booked under and the lines of an event add up to its totals. -/

namespace Insight

open ProductFigure InsightDb Table Option

variable {db after : InsightDb} {day : DayBranch} {ρ : Type}

/-- Whether an order event, if it is not skipped, leaves the order under its channel, and under its employee and customer group
once it has sold; names its lines once, each under its own key and SKU, those that have contributed among them; has lines that
add up to its subtotal and its discount; and changes no discount alone. -/
def InsightDb.booksOrder (db : InsightDb) (event : OrderEvent) : Bool :=
  let existing := db.orderFacts.lookup event.orderId
  let lines := eventLines db event existing
  let before : OrderContributionVector := (existing.map (·.contributed)).getD {}
  (existing.bind event.skipped).isSome || (event.items.isEmpty || db.namesOwnLines event)
    && lines.all (fun line => (db.lineFacts.lookup (event.orderId, line.lineKey)).all (·.skuCode = line.skuCode))
    && existing.all (fun old => old.channelType = (event.dimensions existing).channelType
      && (old.contributed.unsold || old.sellerStaffId = (event.dimensions existing).employeeId
        && old.customerGroupId = (event.dimensions existing).customerGroupId))
    && (event.day existing).all fun day =>
      let fact := eventFact db event existing day
      let delta := eventDelta db event existing day
      delta.missed = false && lines.all (fun line => line.missed event.status delta.completedCount = false)
        && (lines.map (·.target event.status |>.grossRevenue)).sum = fact.contributed.grossRevenue
        && (lines.map (·.target event.status |>.discount)).sum = fact.contributed.discount
        && (lines.map (·.prev.grossRevenue)).sum = before.grossRevenue
        && (lines.map (·.prev.discount)).sum = before.discount

/-- Whether the lines that a late cost reaches are counted under the dimensions of their orders, and the refunds of the lines
of a return add up to its refund. -/
def InsightDb.booksEvent (db : InsightDb) : SalesEvent → Bool
  | .order event => db.booksOrder event
  | .cost skuCode _ _ => db.lineFacts.entries.all fun entry =>
    !(entry.2.skuCode = skuCode && entry.2.costStatus = .pending && 0 < entry.2.contributed.unitsSold)
      || (db.orderFacts.lookup entry.1.1).all fun fact => fact.channelType = entry.2.channelType
        && fact.sellerStaffId = entry.2.sellerStaffId && fact.customerGroupId = entry.2.customerGroupId
  | .returned event => (db.returnFacts.lookup event.returnId).isSome ||
    ((returnedLines db event (wholeMoney event.totalRefundAmount)).map (·.refund)).sum = wholeMoney event.totalRefundAmount

def InsightDb.productReturns (db : InsightDb) (days : DayBranch → Bool) : Int :=
  sumBy (fun cell row => if days cell.1 then row.returnsAmount else 0) db.active.products

/-- Every breakdown is the sum over the facts, and the lines of some days amount to their orders. -/
structure InsightDb.BrokenDown (db : InsightDb) : Prop where
  recorded : db.Recorded
  sound : db.LinesSound
  dimensions : ∀ {ρ : Type} (breakdown : Breakdown ρ) cells, breakdown.Matches db cells
  products : ∀ (figure : ProductFigure) cells, figure.Matches db cells
  gross : ∀ days, lineSum (·.grossRevenue) db.lineFacts (fun cell => days cell.1) =
    db.sumOrders days (·.grossRevenue)
  discount : ∀ days, lineSum (·.discount) db.lineFacts (fun cell => days cell.1) = db.sumOrders days (·.discount)
  returns : ∀ days, db.productReturns days = db.sumReturns days (·.refundAmount)

theorem products_applyOrder (summaries : Summaries) (dimensions : OrderDimensions) (delta : OrderContributionVector)
    (profit pending : Int) :
    (summaries.applyOrderDeltaToSummaries day dimensions delta profit pending).products = summaries.products := by
  rw [Summaries.applyOrderDeltaToSummaries]
  split <;> rfl

theorem products_applyOrderEvent (event : OrderEvent) (existing : Option SalesOrderFactEntity) :
    (applyOrderEvent db event existing day).active.products = (writtenProducts day event.status
      (eventDelta db event existing day).completedCount db.active (eventLines db event existing)).products := by
  rcases @active_applyOrderEvent db day event existing with ⟨active, _⟩ | ⟨pending, active⟩
  · rw [active]
  · rw [active, products_applyOrder]

theorem returnsBooks (summaries : Summaries) (delta : Summaries.ProductDelta) :
    Books (·.returnsAmount) summaries.products (summaries.applyProductSummaryDelta day delta).products (day, delta.skuCode)
      delta.returnsAmount :=
  .inr ⟨{}, (·.add delta), rfl, rfl, fun _ => rfl⟩

theorem productReturns_written (status : OrderStatus) (completedCount : Int) (summaries : Summaries) (lines : List ResolvedLine)
    (days : DayBranch → Bool) :
    sumBy (fun cell row => if days cell.1 then row.returnsAmount else 0)
        (writtenProducts day status completedCount summaries lines).products =
      sumBy (fun cell row => if days cell.1 then row.returnsAmount else 0) summaries.products := by
  induction lines generalizing summaries with
  | nil => rfl
  | cons line lines inner =>
    rw [writtenProducts, List.foldl_cons, ← writtenProducts, inner]
    dsimp only
    split
    · have booked := (@returnsBooks day summaries (line.productDelta status completedCount)).sum fun cell => days cell.1
      exact booked.trans (by simp [ResolvedLine.productDelta])
    · rfl

theorem productReturns_returned (summaries : Summaries) (lines : List ReturnedLine) (days : DayBranch → Bool) :
    sumBy (fun cell row => if days cell.1 then row.returnsAmount else 0) (returnedProducts day summaries lines).products =
      sumBy (fun cell row => if days cell.1 then row.returnsAmount else 0) summaries.products +
        if days day then (lines.map (·.refund)).sum else 0 := by
  induction lines generalizing summaries with
  | nil => simp [returnedProducts]
  | cons line lines inner =>
    have booked := (@returnsBooks day summaries line.productDelta).sum fun cell => days cell.1
    rw [returnedProducts, List.foldl_cons, ← returnedProducts, inner, booked, List.map_cons, List.sum_cons]
    have refund : line.productDelta.returnsAmount = line.refund := rfl
    rw [refund]
    split <;> omega

theorem share_order {event} {contributed} {amount}
    (emptyLine : contributed {} = 0) (emptyOrder : amount {} = 0)
    (lines : ContinuesLines db event.orderId (eventLines db event (db.orderFacts.lookup event.orderId)))
    (skus : ∀ line ∈ eventLines db event (db.orderFacts.lookup event.orderId), ∀ old,
      db.lineFacts.lookup (event.orderId, line.lineKey) = some old → old.day = day ∧ old.skuCode = line.skuCode)
    (same : ∀ old, db.orderFacts.lookup event.orderId = some old → old.day = day)
    (now : ((eventLines db event (db.orderFacts.lookup event.orderId)).map fun line =>
      contributed (line.target event.status)).sum = amount (eventFact db event (db.orderFacts.lookup event.orderId) day).contributed)
    (before : ((eventLines db event (db.orderFacts.lookup event.orderId)).map fun line => contributed line.prev).sum =
      amount (((db.orderFacts.lookup event.orderId).map (·.contributed)).getD {}))
    (shared : ∀ days, lineSum contributed db.lineFacts (fun cell => days cell.1) = db.sumOrders days amount)
    (days : DayBranch → Bool) :
    let after := applyOrderEvent db event (db.orderFacts.lookup event.orderId) day
    lineSum contributed after.lineFacts (fun cell => days cell.1) = after.sumOrders days amount := by
  have applies := applyOrderEvent_applies db event (db.orderFacts.lookup event.orderId) day
  dsimp only
  rw [sumOrders_insert days amount emptyOrder applies.orderFacts same, applies.lineFacts,
    lineSum_written contributed emptyLine lines.once fun line member => ⟨(lines.stored line member).2, skus line member⟩,
    shared]
  congr 1
  have dated : (eventFact db event (db.orderFacts.lookup event.orderId) day).day = day := rfl
  rw [dated, ← now, ← before, ← Transaction.sum_map_sub]
  by_cases covered : days day = true <;> simp [covered]

namespace InsightDb.BrokenDown

theorem applyOrder (broken : db.BrokenDown) {event} (steady : db.steady (.order event) = true)
    (taken : (db.orderFacts.lookup event.orderId).bind event.skipped = none)
    (given : event.day (db.orderFacts.lookup event.orderId) = some day) (booked : db.booksOrder event = true) :
    (applyOrderEvent db event (db.orderFacts.lookup event.orderId) day).BrokenDown := by
  rw [booksOrder, taken, given] at booked
  simp only [isSome_none, Bool.false_or, Bool.and_eq_true, Bool.or_eq_true, List.all_eq_true, all_some,
    decide_eq_true_eq] at booked
  obtain ⟨⟨⟨named, skus⟩, kept⟩, ⟨⟨⟨⟨seen, lineSeen⟩, grossNow⟩, discountNow⟩, grossBefore⟩, discountBefore⟩ := booked
  have lines := (continuesLines event named).of_cost (eventLines_cost db event (db.orderFacts.lookup event.orderId))
  have applies := applyOrderEvent_applies db event (db.orderFacts.lookup event.orderId) day
  have same : ∀ old, db.orderFacts.lookup event.orderId = some old → old.day = day :=
    fun _ stored => OrderEvent.day_steady steady given stored
  have cells : ∀ line ∈ eventLines db event (db.orderFacts.lookup event.orderId), ∀ old,
      db.lineFacts.lookup (event.orderId, line.lineKey) = some old → old.day = day ∧ old.skuCode = line.skuCode := by
    intro line member old looked
    obtain ⟨fact, stored, dated⟩ := broken.recorded.lines event.orderId line.lineKey old looked
    have sku := skus line member
    rw [looked, all_some] at sku
    exact ⟨dated.symm.trans (same fact stored), of_decide_eq_true sku⟩
  refine ⟨broken.recorded.applyOrder steady given, broken.sound.applyOrder event, fun breakdown cells => ?_,
    fun figure among => ?_, ?_, ?_, fun days => ?_⟩
  · refine (broken.dimensions breakdown cells).applyOrder steady given seen fun old stored => ?_
    rw [stored, all_some] at kept
    simpa using kept
  · rw [Matches, products_applyOrderEvent, figure.rowSum_written _ _ _ lineSeen, applies.lineFacts,
      lineSum_written figure.contributed figure.contributed_empty lines.once
        fun line member => ⟨(lines.stored line member).2, cells line member⟩, broken.products figure among]
  · exact share_order rfl rfl lines cells same grossNow grossBefore broken.gross
  · exact share_order rfl rfl lines cells same discountNow discountBefore broken.discount
  · rw [productReturns, products_applyOrderEvent, productReturns_written, ← productReturns,
      broken.returns days, sumReturns, sumReturns, applies.returnFacts]

variable {key : Uuid × String} {line : SalesOrderLineFactEntity}

theorem productCost (broken : db.BrokenDown) (unitCost : Int)
    {fact} (found : db.lineFacts.lookup key = some line) (late : line.costStatus = .pending)
    (stored : db.orderFacts.lookup key.1 = some fact) (figure : ProductFigure) (cells : DayBranch × String → Bool) :
    figure.Matches (resolveLineCost unitCost db (key, line)) cells := by
  obtain ⟨resolved, lines, _, dated, sku, contributed, _⟩ := (resolveLineCost_resolves unitCost line stored).lineFacts
  have free := ((broken.sound key line found).pending late).2
  have matched := broken.products figure cells
  have empty : figure.contributed { cogs := 0 } = 0 := figure.contributed_empty
  have changed : figure.contributed resolved.contributed = figure.contributed line.contributed +
      figure.contributed { cogs := if 0 < line.contributed.unitsSold then mulWhole line.quantity unitCost else 0 } := by
    rw [contributed]
    exact figure.contributed_cogs line.contributed free _
  rw [Matches] at matched ⊢
  rw [lines, lineSum, sumBy_insert, amountAt, ← lineSum, found, elim_some, dated,
    sku, changed, active_resolveLineCost, ← matched]
  by_cases counted : 0 < line.contributed.unitsSold
  · simp only [counted, ↓reduceIte]
    rw [products_applyOrder, rowSum_apply, figure.change_cost]
    split <;> omega
  · simp only [counted, ↓reduceIte, empty, add_zero]
    omega

theorem lineSum_cost (unitCost : Int) {fact}
    (found : db.lineFacts.lookup key = some line) (stored : db.orderFacts.lookup key.1 = some fact)
    (contributed : LineContribution → Int)
    (free : ∀ (contribution : LineContribution) cogs, contributed { contribution with cogs } = contributed contribution)
    (cells : DayBranch × String → Bool) :
    lineSum contributed (resolveLineCost unitCost db (key, line)).lineFacts cells =
      lineSum contributed db.lineFacts cells := by
  obtain ⟨resolved, lines, _, dated, sku, changed, _⟩ := (resolveLineCost_resolves unitCost line stored).lineFacts
  have same : contributed resolved.contributed = contributed line.contributed := by
    rw [changed]
    exact free line.contributed _
  rw [lines, lineSum, sumBy_insert, amountAt, ← lineSum, found, elim_some, dated,
    sku, same]
  omega

theorem sumOrders_cost (unitCost : Int) (line : SalesOrderLineFactEntity) {fact}
    (stored : db.orderFacts.lookup key.1 = some fact) (amount : OrderContributionVector → Int) (empty : amount {} = 0)
    (free : ∀ (contribution : OrderContributionVector) cogs, amount { contribution with cogs } = amount contribution)
    (days : DayBranch → Bool) : (resolveLineCost unitCost db (key, line)).sumOrders days amount = db.sumOrders days amount := by
  obtain ⟨costed, orders, sameDay, _, _, contributed⟩ := (resolveLineCost_resolves unitCost line stored).orderFacts
  rw [sumOrders_insert days amount empty orders, stored, contributed, free, map_some, getD_some, sub_self, ite_self,
    add_zero]
  intro old looked
  rw [sameDay, some.inj (stored.symm.trans looked)]

theorem resolveLine (broken : db.BrokenDown) (unitCost : Int)
    {fact} (found : db.lineFacts.lookup key = some line) (late : line.costStatus = .pending)
    (stored : db.orderFacts.lookup key.1 = some fact) (same : fact.day = line.day)
    (kept : 0 < line.contributed.unitsSold → fact.dimensions = line.dimensions) :
    (resolveLineCost unitCost db (key, line)).BrokenDown := by
  refine ⟨broken.recorded.resolveLine unitCost stored same, broken.sound.resolveLine unitCost found stored,
    fun breakdown cells => (broken.dimensions breakdown cells).resolveLine unitCost stored same kept,
    broken.productCost unitCost found late stored, fun days => ?_, fun days => ?_, fun days => ?_⟩
  · rw [lineSum_cost unitCost found stored _ fun _ _ => rfl, broken.gross days,
      sumOrders_cost unitCost line stored _ rfl fun _ _ => rfl]
  · rw [lineSum_cost unitCost found stored _ fun _ _ => rfl, broken.discount days,
      sumOrders_cost unitCost line stored _ rfl fun _ _ => rfl]
  · have facts := (resolveLineCost_resolves unitCost line stored).returnFacts
    have shown : (resolveLineCost unitCost db (key, line)).productReturns days = db.productReturns days := by
      rw [productReturns, productReturns, active_resolveLineCost]
      split
      · rw [products_applyOrder]
        have booked := (@returnsBooks line.day db.active
          { skuCode := line.skuCode, cogs := mulWhole line.quantity unitCost
            grossProfit := 0 - mulWhole line.quantity unitCost, pendingCostLines := -1 }).sum
          fun cell => days cell.1
        rw [ite_self, add_zero] at booked
        exact booked
      · rfl
    rw [shown, broken.returns days, sumReturns, sumReturns, facts]

theorem returned (broken : db.BrokenDown) {event} {fact}
    (new : db.returnFacts.lookup event.returnId = none) (applies : AppliesReturn db event fact after)
    (spread : ((returnedLines db event fact.refundAmount).map (·.refund)).sum = fact.refundAmount)
    (recorded : after.Recorded) : after.BrokenDown := by
  have products : after.active.products =
      (returnedProducts fact.day db.active (returnedLines db event fact.refundAmount)).products := by
    rw [applies.active]
    rfl
  refine ⟨recorded, ?_, fun breakdown cells => (broken.dimensions breakdown cells).returned new applies, fun figure cells => ?_,
    fun days => ?_, fun days => ?_, fun days => ?_⟩
  · intro key line found
    rw [applies.lineFacts] at found
    exact broken.sound key line found
  · rw [Matches, products, figure.rowSum_returned, applies.lineFacts]
    exact broken.products figure cells
  · rw [applies.lineFacts, broken.gross days, sumOrders, sumOrders, applies.orderFacts]
  · rw [applies.lineFacts, broken.discount days, sumOrders, sumOrders, applies.orderFacts]
  · rw [productReturns, products, productReturns_returned, ← productReturns, broken.returns days, spread,
      sumReturns, sumReturns, applies.returnFacts, sumBy_insert_fresh new]

theorem step (broken : db.BrokenDown) {event} (steady : db.steady event = true)
    (booked : db.booksEvent event = true) : (processSalesEvent db event).BrokenDown := by
  cases event with
  | order event =>
    rw [processSalesEvent, processSalesOrderEvent]
    split
    · exact broken
    · next taken =>
      split
      · exact broken
      · next given => exact broken.applyOrder steady (not_isSome_iff_eq_none.mp taken) given booked
  | cost skuCode unitCost orderId =>
    refine @Recorded.resolvePending db BrokenDown (fun line day dimensions => day = line.day ∧
      (0 < line.contributed.unitsSold → dimensions = line.dimensions)) skuCode _ _ (fun broken found late stored kept =>
      broken.resolveLine _ found late stored kept.1 kept.2) broken fun key line found sku pending => ?_
    obtain ⟨fact, known, dated⟩ := broken.recorded.lines _ _ _ found
    refine ⟨fact, known, dated, fun counted => ?_⟩
    have kept := List.all_eq_true.mp booked ⟨key, line⟩ (AList.mem_lookup_iff.mp found)
    simp only [sku, pending, counted, decide_true, Bool.and_self, Bool.not_true, Bool.false_or, known, all_some,
      Bool.and_eq_true, decide_eq_true_eq] at kept
    obtain ⟨⟨channel, employee⟩, group⟩ := kept
    rw [SalesOrderFactEntity.dimensions, SalesOrderLineFactEntity.dimensions, channel, employee, group]
  | returned event =>
    have recorded := broken.recorded.step steady
    rw [processSalesEvent] at recorded ⊢
    rcases processSalesReturnCompleted_applies event with same | ⟨new, fact, applies⟩
    · rw [same]
      exact broken
    · refine broken.returned new applies ?_ recorded
      simp only [booksEvent, new, isSome_none, Bool.false_or, decide_eq_true_eq] at booked
      rw [applies.refundAmount]
      exact booked

theorem empty (activeGenerationId : GenerationId) (buildingGenerationIds : List GenerationId) :
    BrokenDown { activeGenerationId, buildingGenerationIds } := by
  refine ⟨.empty activeGenerationId buildingGenerationIds, fun key line found => ?_, fun breakdown cells => ?_, fun _ _ => rfl,
    fun _ => rfl, fun _ => rfl, fun _ => rfl⟩
  · cases found
  · rw [Breakdown.Matches, Breakdown.rowSum]
    have none : breakdown.table (active { activeGenerationId, buildingGenerationIds }) = ∅ := breakdown.table_empty
    rw [none]
    rfl

end InsightDb.BrokenDown

namespace InsightDb

def ordersOf (db : InsightDb) (among : SalesOrderFactEntity → Bool) (amount : OrderContributionVector → Int) : Int :=
  sumBy (fun _ fact => if among fact then amount fact.contributed else 0) db.orderFacts

def returnsOf (db : InsightDb) (among : SalesReturnFactEntity → Bool) (amount : SalesReturnFactEntity → Int) : Int :=
  sumBy (fun _ fact => if among fact then amount fact else 0) db.returnFacts

def linesOn (db : InsightDb) (cell : DayBranch × String) (amount : LineContribution → Int) : Int :=
  sumBy (fun _ line => if (line.day, line.skuCode) = cell then amount line.contributed else 0) db.lineFacts

def channelRow (db : InsightDb) (cell : DayBranch × String) : ChannelSalesSummaryEntity := (db.active.channels.lookup cell).getD {}

def employeeRow (db : InsightDb) (cell : DayBranch × String) : EmployeeSalesSummaryEntity :=
  (db.active.employees.lookup cell).getD {}

def customerGroupRow (db : InsightDb) (cell : DayBranch × String) : CustomerGroupSalesSummaryEntity :=
  (db.active.customerGroups.lookup cell).getD {}

def productRow (db : InsightDb) (cell : DayBranch × String) : ProductSalesSummaryEntity := (db.active.products.lookup cell).getD {}

/-- The row of a channel on a day is the sum over the facts under that channel. -/
structure ChannelAgrees (db : InsightDb) (cell : DayBranch × String) : Prop where
  gmv : (db.channelRow cell).gmv = db.ordersOf (fun fact => (fact.day, fact.channelType) = cell) (·.gmv)
  grossSalesRevenue : (db.channelRow cell).grossSalesRevenue =
    db.ordersOf (fun fact => (fact.day, fact.channelType) = cell) (·.grossRevenue)
  discountTotal : (db.channelRow cell).discountTotal =
    db.ordersOf (fun fact => (fact.day, fact.channelType) = cell) (·.discount)
  returnsAmount : (db.channelRow cell).returnsAmount =
    db.returnsOf (fun fact => (fact.day, fact.channelType) = cell) (·.refundAmount)
  netSalesRevenue : (db.channelRow cell).netSalesRevenue =
    db.ordersOf (fun fact => (fact.day, fact.channelType) = cell) (·.netRevenue) +
      db.returnsOf (fun fact => (fact.day, fact.channelType) = cell) fun fact => 0 - fact.refundAmount
  grossProfit : (db.channelRow cell).grossProfit =
    db.ordersOf (fun fact => (fact.day, fact.channelType) = cell) (fun contributed => contributed.netRevenue - contributed.cogs) +
      db.returnsOf (fun fact => (fact.day, fact.channelType) = cell) fun fact => fact.returnedCogsAmount - fact.refundAmount
  orderCount : (db.channelRow cell).orderCount = db.ordersOf (fun fact => (fact.day, fact.channelType) = cell) (·.orderCount)
  completedOrderCount : (db.channelRow cell).completedOrderCount =
    db.ordersOf (fun fact => (fact.day, fact.channelType) = cell) (·.completedCount)
  cancelledOrderCount : (db.channelRow cell).cancelledOrderCount =
    db.ordersOf (fun fact => (fact.day, fact.channelType) = cell) (·.cancelledCount)
  unitsSold : (db.channelRow cell).unitsSold = db.ordersOf (fun fact => (fact.day, fact.channelType) = cell) (·.unitsSold)

/-- The row of an employee on a day is the sum over the facts under that employee. -/
structure EmployeeAgrees (db : InsightDb) (cell : DayBranch × String) : Prop where
  grossSalesRevenue : (db.employeeRow cell).grossSalesRevenue =
    db.ordersOf (fun fact => (fact.day, fact.sellerStaffId) = cell) (·.grossRevenue)
  discountTotal : (db.employeeRow cell).discountTotal =
    db.ordersOf (fun fact => (fact.day, fact.sellerStaffId) = cell) (·.discount)
  returnsAmount : (db.employeeRow cell).returnsAmount =
    db.returnsOf (fun fact => (fact.day, fact.sellerStaffId) = cell) (·.refundAmount)
  netSalesRevenue : (db.employeeRow cell).netSalesRevenue =
    db.ordersOf (fun fact => (fact.day, fact.sellerStaffId) = cell) (·.netRevenue) +
      db.returnsOf (fun fact => (fact.day, fact.sellerStaffId) = cell) fun fact => 0 - fact.refundAmount
  grossProfit : (db.employeeRow cell).grossProfit =
    db.ordersOf (fun fact => (fact.day, fact.sellerStaffId) = cell) (fun contributed => contributed.netRevenue - contributed.cogs) +
      db.returnsOf (fun fact => (fact.day, fact.sellerStaffId) = cell) fun fact => fact.returnedCogsAmount - fact.refundAmount
  completedOrderCount : (db.employeeRow cell).completedOrderCount =
    db.ordersOf (fun fact => (fact.day, fact.sellerStaffId) = cell) (·.completedCount)
  unitsSold : (db.employeeRow cell).unitsSold = db.ordersOf (fun fact => (fact.day, fact.sellerStaffId) = cell) (·.unitsSold)

/-- The row of a customer group on a day is the sum over the facts under that group. -/
structure CustomerGroupAgrees (db : InsightDb) (cell : DayBranch × String) : Prop where
  grossSalesRevenue : (db.customerGroupRow cell).grossSalesRevenue =
    db.ordersOf (fun fact => (fact.day, fact.customerGroupId) = cell) (·.grossRevenue)
  discountTotal : (db.customerGroupRow cell).discountTotal =
    db.ordersOf (fun fact => (fact.day, fact.customerGroupId) = cell) (·.discount)
  returnsAmount : (db.customerGroupRow cell).returnsAmount =
    db.returnsOf (fun fact => (fact.day, fact.customerGroupId) = cell) (·.refundAmount)
  netSalesRevenue : (db.customerGroupRow cell).netSalesRevenue =
    db.ordersOf (fun fact => (fact.day, fact.customerGroupId) = cell) (·.netRevenue) +
      db.returnsOf (fun fact => (fact.day, fact.customerGroupId) = cell) fun fact => 0 - fact.refundAmount
  grossProfit : (db.customerGroupRow cell).grossProfit =
    db.ordersOf (fun fact => (fact.day, fact.customerGroupId) = cell) (fun contributed => contributed.netRevenue - contributed.cogs) +
      db.returnsOf (fun fact => (fact.day, fact.customerGroupId) = cell) fun fact => fact.returnedCogsAmount - fact.refundAmount
  completedOrderCount : (db.customerGroupRow cell).completedOrderCount =
    db.ordersOf (fun fact => (fact.day, fact.customerGroupId) = cell) (·.completedCount)
  unitsSold : (db.customerGroupRow cell).unitsSold =
    db.ordersOf (fun fact => (fact.day, fact.customerGroupId) = cell) (·.unitsSold)

/-- The row of a SKU on a day is the sum over its line facts; its returns are taken from its net revenue. -/
structure ProductAgrees (db : InsightDb) (cell : DayBranch × String) : Prop where
  unitsSold : (db.productRow cell).unitsSold = db.linesOn cell (·.unitsSold)
  grossSalesRevenue : (db.productRow cell).grossSalesRevenue = db.linesOn cell (·.grossRevenue)
  discountTotal : (db.productRow cell).discountTotal = db.linesOn cell (·.discount)
  netSalesRevenue : (db.productRow cell).netSalesRevenue + (db.productRow cell).returnsAmount = db.linesOn cell (·.netRevenue)
  cogsAmount : (db.productRow cell).cogsAmount = db.linesOn cell (·.cogs)

def employeesOn (db : InsightDb) (day : DayBranch) (column : EmployeeSalesSummaryEntity → Int) : Int :=
  sumBy (fun cell row => if cell.1 = day then column row else 0) db.active.employees

def customerGroupsOn (db : InsightDb) (day : DayBranch) (column : CustomerGroupSalesSummaryEntity → Int) : Int :=
  sumBy (fun cell row => if cell.1 = day then column row else 0) db.active.customerGroups

def productsOn (db : InsightDb) (day : DayBranch) (column : ProductSalesSummaryEntity → Int) : Int :=
  sumBy (fun cell row => if cell.1 = day then column row else 0) db.active.products

/-- The rows by employee, by customer group and by SKU of a day each add up to the row of the day. -/
structure AddsUp (db : InsightDb) (day : DayBranch) : Prop where
  employeesGross : db.employeesOn day (·.grossSalesRevenue) = (db.dailyRow day).grossSalesRevenue
  employeesDiscount : db.employeesOn day (·.discountTotal) = (db.dailyRow day).discountTotal
  employeesNet : db.employeesOn day (·.netSalesRevenue) = (db.dailyRow day).netSalesRevenue
  groupsGross : db.customerGroupsOn day (·.grossSalesRevenue) = (db.dailyRow day).grossSalesRevenue
  groupsDiscount : db.customerGroupsOn day (·.discountTotal) = (db.dailyRow day).discountTotal
  groupsNet : db.customerGroupsOn day (·.netSalesRevenue) = (db.dailyRow day).netSalesRevenue
  productsGross : db.productsOn day (·.grossSalesRevenue) = (db.dailyRow day).grossSalesRevenue
  productsDiscount : db.productsOn day (·.discountTotal) = (db.dailyRow day).discountTotal
  productsNet : db.productsOn day (·.netSalesRevenue) = (db.dailyRow day).netSalesRevenue

theorem ordersOf_zero (db : InsightDb) (among : SalesOrderFactEntity → Bool) : db.ordersOf among (fun _ => 0) = 0 :=
  sumBy_eq_zero fun _ _ => ite_self 0

theorem returnsOf_zero (db : InsightDb) (among : SalesReturnFactEntity → Bool) : db.returnsOf among (fun _ => 0) = 0 :=
  sumBy_eq_zero fun _ _ => ite_self 0

namespace BrokenDown

variable {cell : DayBranch × String}

section

variable (broken : db.BrokenDown)

include broken

theorem both (breakdown : Breakdown ρ) (cell : DayBranch × String) : breakdown.column (breakdown.row db cell) =
      db.ordersOf (fun fact => (fact.day, breakdown.label fact.dimensions) = cell) breakdown.ordered +
        db.returnsOf (fun fact => (fact.day, breakdown.label fact.dimensions) = cell)
          fun fact => breakdown.returned fact.refundAmount fact.returnedCogsAmount :=
  breakdown.column_row (broken.dimensions breakdown) cell

theorem sold (breakdown : Breakdown ρ) (none : breakdown.returned = fun _ _ => 0)
    (cell : DayBranch × String) : breakdown.column (breakdown.row db cell) =
      db.ordersOf (fun fact => (fact.day, breakdown.label fact.dimensions) = cell) breakdown.ordered := by
  rw [broken.both, none, returnsOf_zero, add_zero]

theorem taken (breakdown : Breakdown ρ) (none : breakdown.ordered = fun _ => 0)
    (cell : DayBranch × String) : breakdown.column (breakdown.row db cell) =
      db.returnsOf (fun fact => (fact.day, breakdown.label fact.dimensions) = cell)
        fun fact => breakdown.returned fact.refundAmount fact.returnedCogsAmount := by
  rw [broken.both, none, ordersOf_zero, zero_add]

theorem channelAgrees (cell : DayBranch × String) : db.ChannelAgrees cell :=
  ⟨broken.sold .channelGmv rfl cell, broken.sold .channelGross rfl cell, broken.sold .channelDiscount rfl cell,
    broken.taken .channelReturns rfl cell, broken.both .channelNet cell, broken.both .channelProfit cell,
    broken.sold .channelOrders rfl cell, broken.sold .channelCompleted rfl cell, broken.sold .channelCancelled rfl cell,
    broken.sold .channelUnits rfl cell⟩

theorem employeeAgrees (cell : DayBranch × String) : db.EmployeeAgrees cell :=
  ⟨broken.sold .employeeGross rfl cell, broken.sold .employeeDiscount rfl cell, broken.taken .employeeReturns rfl cell,
    broken.both .employeeNet cell, broken.both .employeeProfit cell, broken.sold .employeeCompleted rfl cell,
    broken.sold .employeeUnits rfl cell⟩

theorem customerGroupAgrees (cell : DayBranch × String) : db.CustomerGroupAgrees cell :=
  ⟨broken.sold .groupGross rfl cell, broken.sold .groupDiscount rfl cell, broken.taken .groupReturns rfl cell,
    broken.both .groupNet cell, broken.both .groupProfit cell, broken.sold .groupCompleted rfl cell,
    broken.sold .groupUnits rfl cell⟩

theorem productAgrees (cell : DayBranch × String) : db.ProductAgrees cell := by
  have row : ∀ figure : ProductFigure, figure.column (db.productRow cell) = db.linesOn cell figure.contributed := by
    intro figure
    have sums := figure.column_row (broken.products figure) cell
    simp only [lineSum, decide_eq_true_eq] at sums
    exact sums
  exact ⟨row .units, row .gross, row .discount, row .net, row .cogs⟩

theorem dayRows (breakdown : Breakdown ρ) (figure : Figure) (ordered : breakdown.ordered = figure.ordered)
    (returned : breakdown.returned = figure.returned) (day : DayBranch) :
    sumBy (fun cell row => if cell.1 = day then breakdown.column row else 0) (breakdown.table db.active) =
      figure.column (db.dailyRow day) := by
  have sums := broken.dimensions breakdown fun cell => cell.1 = day
  simp only [Breakdown.Matches, Breakdown.rowSum, decide_eq_true_eq] at sums
  rw [sums, broken.recorded.balanced.dailyRow, Breakdown.factSum, ordered, returned]
  rfl

theorem productsOn_of (figure : ProductFigure) (day : DayBranch) :
    db.productsOn day figure.column = lineSum figure.contributed db.lineFacts fun cell => cell.1 = day := by
  have sums := broken.products figure fun cell => cell.1 = day
  simp only [Matches, rowSum, decide_eq_true_eq] at sums
  exact sums

theorem lineSum_net (cells : DayBranch × String → Bool) : lineSum (·.netRevenue) db.lineFacts cells =
      lineSum (·.grossRevenue) db.lineFacts cells - lineSum (·.discount) db.lineFacts cells := by
  rw [lineSum, lineSum, lineSum, ← sumBy_sub]
  refine sumBy_congr fun entry listed => ?_
  rw [(broken.sound entry.1 entry.2 (AList.mem_lookup_iff.mpr listed)).contributedNet]
  split <;> omega

theorem addsUp (day : DayBranch) : db.AddsUp day := by
  have reconciles := broken.recorded.balanced.reconciles day
  have gross : db.productsOn day (·.grossSalesRevenue) = (db.dailyRow day).grossSalesRevenue := by
    rw [reconciles.grossSalesRevenue, ← broken.gross]
    exact broken.productsOn_of .gross day
  have discount : db.productsOn day (·.discountTotal) = (db.dailyRow day).discountTotal := by
    rw [reconciles.discountTotal, ← broken.discount]
    exact broken.productsOn_of .discount day
  refine ⟨broken.dayRows .employeeGross .grossSalesRevenue rfl rfl day, broken.dayRows .employeeDiscount .discountTotal rfl rfl day,
    broken.dayRows .employeeNet .netSalesRevenue rfl rfl day, broken.dayRows .groupGross .grossSalesRevenue rfl rfl day,
    broken.dayRows .groupDiscount .discountTotal rfl rfl day, broken.dayRows .groupNet .netSalesRevenue rfl rfl day,
    gross, discount, ?_⟩
  have parts : db.productsOn day net.column =
      db.productsOn day (·.netSalesRevenue) + db.productsOn day (·.returnsAmount) := by
    rw [productsOn, productsOn, productsOn, ← sumBy_add]
    refine sumBy_congr fun entry _ => ?_
    split <;> rfl
  have returns : db.productsOn day (·.returnsAmount) = (db.dailyRow day).returnsAmount := by
    rw [reconciles.returnsAmount, ← broken.returns]
    simp only [productReturns, productsOn, decide_eq_true_eq]
  have lines := broken.lineSum_net fun cell => cell.1 = day
  have net : db.productsOn day net.column =
      db.productsOn day (·.grossSalesRevenue) - db.productsOn day (·.discountTotal) :=
    ((broken.productsOn_of .net day).trans lines).trans
      (congrArg₂ (· - ·) (broken.productsOn_of .gross day).symm (broken.productsOn_of .discount day).symm)
  rw [reconciles.netSalesRevenue, ← gross, ← discount, ← returns]
  omega

end

end BrokenDown

end InsightDb

/-- While no order changes its branch and every event books its order where it is booked already, with lines that add up to
it, every row by channel, employee, customer group and SKU is the sum over the facts, and the rows of a day add up to it. -/
theorem breakdowns_agree (activeGenerationId : GenerationId) (buildingGenerationIds : List GenerationId)
    {events : List SalesEvent} (booked : Run.Meets processSalesEvent
      (fun db event => db.steady event = true ∧ db.booksEvent event = true) { activeGenerationId, buildingGenerationIds } events) :
    let after := Run.after processSalesEvent { activeGenerationId, buildingGenerationIds } events
    (∀ cell, after.ChannelAgrees cell ∧ after.EmployeeAgrees cell ∧ after.CustomerGroupAgrees cell ∧ after.ProductAgrees cell) ∧
      ∀ day, after.AddsUp day := by
  have broken := Run.invariant_of_meets BrokenDown (fun _ _ met broken => broken.step met.1 met.2) booked
    (.empty activeGenerationId buildingGenerationIds)
  exact ⟨fun cell => ⟨broken.channelAgrees cell, broken.employeeAgrees cell, broken.customerGroupAgrees cell,
    broken.productAgrees cell⟩, broken.addsUp⟩

private def lamp : OrderItemEventInput :=
  { skuCode := some "LAMP", quantity := 20000, unitPrice := 1500000000, unitCost := some 500000000 }

private def lampOrder (status : OrderStatus) (actorId : String) (items : List OrderItemEventInput) : SalesEvent :=
  .order { status, orderId := 1, branchId := some 1, sentAt := 0, actorId := some actorId, discountTotal := some 300000000, items }

theorem breakdowns_agree_same_actor :
    let after := Run.after processSalesEvent {} [lampOrder .confirmed "an" [], lampOrder .completed "an" [lamp],
      .returned { returnId := 9, orderId := 1, totalRefundAmount := 2700000000, occurredAt := 0 }, lampOrder .cancelled "an" []]
    after.EmployeeAgrees (⟨0, 1⟩, "an") ∧ after.AddsUp ⟨0, 1⟩ := by
  have agreed := @breakdowns_agree 0 [] [lampOrder .confirmed "an" [], lampOrder .completed "an" [lamp],
    .returned { returnId := 9, orderId := 1, totalRefundAmount := 2700000000, occurredAt := 0 }, lampOrder .cancelled "an" []]
    (by decide +kernel)
  exact ⟨(agreed.1 _).2.1, agreed.2 _⟩

/-- An order that one employee completes and another cancels stays with the first and is taken from the second. -/
theorem cancelled_by_another :
    let after := Run.after processSalesEvent {} [lampOrder .completed "an" [lamp], lampOrder .cancelled "binh" []]
    ¬after.EmployeeAgrees (⟨0, 1⟩, "an") ∧ ¬after.EmployeeAgrees (⟨0, 1⟩, "binh") := by
  constructor
  · intro agrees
    exact absurd agrees.grossSalesRevenue (by decide +kernel)
  · intro agrees
    exact absurd agrees.grossSalesRevenue (by decide +kernel)

end Insight
