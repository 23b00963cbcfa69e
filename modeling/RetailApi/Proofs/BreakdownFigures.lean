import RetailApi.Proofs.DailyReconciliation

/-! The columns of the summaries by channel, employee, customer group and SKU: what a processor books in them, and what the
facts amount to. -/

namespace Insight

open ResolvedLine Option Table List Summaries

variable {db after : InsightDb} {day : DayBranch} {ρ : Type}

def writtenProducts (day : DayBranch) (status : OrderStatus) (completedCount : Int) (summaries : Summaries)
    (lines : List ResolvedLine) : Summaries :=
  lines.foldl (fun summaries line =>
    let delta := line.productDelta status completedCount
    if delta.grossRevenue ≠ 0 ∨ delta.unitsSold ≠ 0 ∨ delta.cogs ≠ 0 ∨ completedCount ≠ 0 ∨ delta.pendingCostLines ≠ 0 then
      summaries.applyProductSummaryDelta day delta
    else summaries) summaries

theorem active_writeLines (orderId : Uuid) (dimensions : OrderDimensions) (status : OrderStatus) (completedCount : Int)
    (lines : List ResolvedLine) : (lines.foldl (writeLine orderId day dimensions status completedCount) db).active =
      writtenProducts day status completedCount db.active lines := by
  induction lines generalizing db with
  | nil => rfl
  | cons line lines inner =>
    rw [foldl_cons, inner, writtenProducts, writtenProducts, foldl_cons, writeLine]
    dsimp only
    split
    · rw [active_updateTargets]
      rfl
    · rfl

def eventDelta (db : InsightDb) (event : OrderEvent) (existing : Option SalesOrderFactEntity) (day : DayBranch) :
    OrderContributionVector :=
  computeOrderContributionDelta (eventFact db event existing day).contributed (existing.map (·.contributed))

theorem active_applyOrderEvent (event : OrderEvent) (existing : Option SalesOrderFactEntity) :
    let delta := eventDelta db event existing day
    let lines := eventLines db event existing
    let products := writtenProducts day event.status delta.completedCount db.active lines
    (applyOrderEvent db event existing day).active = products ∧ delta = {} ∨
      ∃ pending, (applyOrderEvent db event existing day).active = products.applyOrderDeltaToSummaries day
        (event.dimensions existing) delta (delta.netRevenue - delta.cogs) pending := by
  have lines := @active_writeLines { db with orderFacts := db.orderFacts.insert event.orderId (eventFact db event existing day) }
    day event.orderId (event.dimensions existing) event.status (eventDelta db event existing day).completedCount
    (eventLines db event existing)
  rw [applyOrderEvent]
  split
  · refine .inr ⟨((eventLines db event existing).map (·.pendingDelta event.status)).sum, ?_⟩
    rw [active_updateTargets]
    exact congrArg (fun summaries : Summaries => summaries.applyOrderDeltaToSummaries day _ _ _ _) lines
  · next unchanged =>
    rw [not_or, Bool.not_eq_false, not_not] at unchanged
    exact .inl ⟨lines, of_decide_eq_true unchanged.1⟩

theorem active_resolveLineCost (unitCost : Int) {key} (line : SalesOrderLineFactEntity) :
    (resolveLineCost unitCost db (key, line)).active = if 0 < line.contributed.unitsSold then
      (db.active.applyProductSummaryDelta line.day
        { skuCode := line.skuCode, cogs := mulWhole line.quantity unitCost
          grossProfit := 0 - mulWhole line.quantity unitCost, pendingCostLines := -1 }).applyOrderDeltaToSummaries
        line.day ⟨line.channelType, line.sellerStaffId, line.customerGroupId⟩ { cogs := mulWhole line.quantity unitCost }
        (0 - mulWhole line.quantity unitCost) (-1) else db.active := by
  rw [resolveLineCost]
  by_cases counted : 0 < line.contributed.unitsSold
  · simp only [counted, decide_true, ↓reduceIte]
    rw [active_updateTargets]
    rfl
  · simp only [counted, decide_false, Bool.false_eq_true, ↓reduceIte]
    rfl

def SalesOrderLineFactEntity.dimensions (line : SalesOrderLineFactEntity) : OrderDimensions :=
  ⟨line.channelType, line.sellerStaffId, line.customerGroupId⟩

def OrderContributionVector.unsold (contributed : OrderContributionVector) : Bool :=
  contributed.grossRevenue = 0 ∧ contributed.discount = 0 ∧ contributed.netRevenue = 0 ∧ contributed.cogs = 0 ∧
    contributed.unitsSold = 0 ∧ contributed.completedCount = 0

/-- A change that the tables by employee and customer group do not take, although it is one of sales. -/
def OrderContributionVector.missed (delta : OrderContributionVector) : Bool :=
  delta.grossRevenue = 0 ∧ delta.netRevenue - delta.cogs = 0 ∧ delta.completedCount = 0 ∧ delta.unsold = false

/-- What an order and a return book in a breakdown, whatever its key. -/
structure Booking where
  ordered : OrderContributionVector → Int
  returned : Int → Int → Int
  ordered_empty : ordered {} = 0
  ordered_delta : ∀ target previous, ordered (computeOrderContributionDelta target previous) =
    ordered target - ordered (previous.getD {})
  ordered_cogs : ∀ contribution cogs, ordered { contribution with cogs := contribution.cogs + cogs } =
    ordered contribution + ordered { cogs }

namespace Booking

def ofFigure (figure : Figure) : Booking :=
  ⟨figure.ordered, figure.returned, figure.ordered_empty, figure.ordered_delta, figure.ordered_cogs⟩

def gmv : Booking := ofFigure .gmv

def gross : Booking := ofFigure .grossSalesRevenue

def discount : Booking := ofFigure .discountTotal

def returns : Booking := ofFigure .returnsAmount

def net : Booking := ofFigure .netSalesRevenue

def profit : Booking := ofFigure .grossProfit

def orders : Booking := ofFigure .orderCount

def completed : Booking := ofFigure .completedOrderCount

def cancelled : Booking := ofFigure .cancelledOrderCount

def units : Booking := ⟨(·.unitsSold), fun _ _ => 0, rfl, fun _ _ => rfl, fun _ _ => (add_zero _).symm⟩

end Booking

/-- A change of a table keyed by cells: the row of one cell changes by an amount, or the amount is zero. -/
def Books {κ : Type} [DecidableEq κ] (column : ρ → Int) (before after : Table κ ρ) (cell : κ) (amount : Int) : Prop :=
  after = before ∧ amount = 0 ∨ ∃ start change, column start = 0 ∧ after = upsert before cell start change ∧
    ∀ row, column (change row) = column row + amount

theorem Books.sum {κ : Type} [DecidableEq κ] {column : ρ → Int} {before after} {cell} {amount}
    (books : Books column before after cell amount) (cells : κ → Bool) :
    sumBy (fun cell row => if cells cell then column row else 0) after =
      sumBy (fun cell row => if cells cell then column row else 0) before + if cells cell then amount else 0 := by
  rcases books with ⟨rfl, none⟩ | ⟨start, change, empty, rfl, changed⟩
  · rw [none, ite_self, add_zero]
  · refine sumBy_upsert ?_ (fun row => ?_) before
    · rw [empty, ite_self]
    · rw [changed]
      split <;> omega

/-- A summary table that breaks the sales of a day down by a label of the order. -/
structure Breakdown (ρ : Type) extends Booking where
  table : Summaries → Table (DayBranch × String) ρ
  label : OrderDimensions → String
  column : ρ → Int
  /-- An order that stays under its channel, and under its employee and customer group once it has sold, takes nothing
  along to another cell. -/
  kept : ∀ (contributed : OrderContributionVector) (old new : OrderDimensions), old.channelType = new.channelType →
    contributed.unsold = true ∨ old.employeeId = new.employeeId ∧ old.customerGroupId = new.customerGroupId →
    ordered contributed = 0 ∨ label old = label new
  blank : ρ
  column_blank : column blank = 0
  table_empty : table {} = ∅
  table_product : ∀ summaries day delta, table (summaries.applyProductSummaryDelta day delta) = table summaries
  table_order : ∀ summaries day dimensions delta pending, delta.missed = false → Books column (table summaries)
    (table (summaries.applyOrderDeltaToSummaries day dimensions delta (delta.netRevenue - delta.cogs) pending))
    (day, label dimensions) (ordered delta)
  table_return : ∀ summaries day dimensions refund cogs units, Books column (table summaries)
    (table (summaries.applyReturnDeltaToSummaries day dimensions refund cogs units)) (day, label dimensions) (returned refund cogs)

namespace Breakdown

def factSum (breakdown : Breakdown ρ) (db : InsightDb) (cells : DayBranch × String → Bool) : Int :=
  sumBy (fun _ fact => if cells (fact.day, breakdown.label fact.dimensions) then breakdown.ordered fact.contributed else 0)
      db.orderFacts +
    sumBy (fun _ fact => if cells (fact.day, breakdown.label fact.dimensions) then
      breakdown.returned fact.refundAmount fact.returnedCogsAmount else 0) db.returnFacts

def rowSum (breakdown : Breakdown ρ) (db : InsightDb) (cells : DayBranch × String → Bool) : Int :=
  sumBy (fun cell row => if cells cell then breakdown.column row else 0) (breakdown.table db.active)

def Matches (breakdown : Breakdown ρ) (db : InsightDb) (cells : DayBranch × String → Bool) : Prop :=
  breakdown.rowSum db cells = breakdown.factSum db cells

end Breakdown

def ChannelSalesSummaryEntity.addOrder (delta : OrderContributionVector) : ChannelSalesSummaryEntity → ChannelSalesSummaryEntity :=
  addOrderDelta delta (delta.netRevenue - delta.cogs)

def EmployeeSalesSummaryEntity.addOrder (delta : OrderContributionVector) : EmployeeSalesSummaryEntity → EmployeeSalesSummaryEntity :=
  addOrderDelta delta (delta.netRevenue - delta.cogs)

def CustomerGroupSalesSummaryEntity.addOrder (delta : OrderContributionVector) : CustomerGroupSalesSummaryEntity → CustomerGroupSalesSummaryEntity :=
  addOrderDelta delta (delta.netRevenue - delta.cogs)

theorem unsold_of_guard {delta : OrderContributionVector} (seen : delta.missed = false)
    (skipped : ¬(delta.grossRevenue ≠ 0 ∨ delta.netRevenue - delta.cogs ≠ 0 ∨ delta.completedCount ≠ 0)) :
    delta.unsold = true := by
  rw [not_or, not_or, not_not, not_not, not_not] at skipped
  by_contra sold
  rw [Bool.not_eq_true] at sold
  have missed : delta.missed = true := decide_eq_true ⟨skipped.1, skipped.2.1, skipped.2.2, sold⟩
  cases seen.symm.trans missed

namespace Breakdown

def ofChannels (booking : Booking) (column : ChannelSalesSummaryEntity → Int) (empty : column {} = 0)
    (addOrder : ∀ delta row, column (row.addOrder delta) = column row + booking.ordered delta)
    (addReturn : ∀ refund cogs row, column (row.addReturn refund cogs) = column row + booking.returned refund cogs) :
    Breakdown ChannelSalesSummaryEntity where
  toBooking := booking
  table := (·.channels)
  label := (·.channelType)
  column := column
  kept := fun _ _ _ same _ => .inr same
  blank := {}
  column_blank := empty
  table_empty := rfl
  table_product := fun _ _ _ => rfl
  table_order := by
    intro summaries day dimensions delta pending _
    refine .inr ⟨{}, (·.addOrder delta), empty, ?_, addOrder delta⟩
    rw [applyOrderDeltaToSummaries]
    split <;> rfl
  table_return := fun _ _ _ refund cogs _ => .inr ⟨{}, (·.addReturn refund cogs), empty, rfl, addReturn refund cogs⟩

/-- A table that takes a change of what is sold only once something is, as those by employee and customer group do. -/
def ofSellers (table : Summaries → Table (DayBranch × String) ρ) (label : OrderDimensions → String) (blank : ρ)
    (addOrder : OrderContributionVector → ρ → ρ) (addReturn : Int → Int → ρ → ρ)
    (kept : ∀ old new : OrderDimensions, old.employeeId = new.employeeId ∧ old.customerGroupId = new.customerGroupId →
      label old = label new)
    (table_empty : table {} = ∅)
    (table_product : ∀ summaries day delta, table (summaries.applyProductSummaryDelta day delta) = table summaries)
    (table_order : ∀ summaries day dimensions delta pending,
      table (summaries.applyOrderDeltaToSummaries day dimensions delta (delta.netRevenue - delta.cogs) pending) =
        if delta.grossRevenue ≠ 0 ∨ delta.netRevenue - delta.cogs ≠ 0 ∨ delta.completedCount ≠ 0 then
          upsert (table summaries) (day, label dimensions) blank (addOrder delta)
        else table summaries)
    (table_return : ∀ summaries day dimensions refund cogs units,
      table (summaries.applyReturnDeltaToSummaries day dimensions refund cogs units) =
        upsert (table summaries) (day, label dimensions) blank (addReturn refund cogs))
    (booking : Booking) (column : ρ → Int) (empty : column blank = 0)
    (ordered : ∀ delta row, column (addOrder delta row) = column row + booking.ordered delta)
    (returned : ∀ refund cogs row, column (addReturn refund cogs row) = column row + booking.returned refund cogs)
    (sold : ∀ contributed : OrderContributionVector, contributed.unsold = true → booking.ordered contributed = 0) :
    Breakdown ρ where
  toBooking := booking
  table := table
  label := label
  column := column
  kept := fun contributed old new _ stays => stays.imp (sold contributed) (kept old new)
  blank := blank
  column_blank := empty
  table_empty := table_empty
  table_product := table_product
  table_order := by
    intro summaries day dimensions delta pending seen
    rw [table_order]
    split
    · exact .inr ⟨blank, addOrder delta, empty, rfl, ordered delta⟩
    · next skipped => exact .inl ⟨rfl, sold delta (unsold_of_guard seen skipped)⟩
  table_return := fun summaries day dimensions refund cogs units =>
    .inr ⟨blank, addReturn refund cogs, empty, table_return summaries day dimensions refund cogs units, returned refund cogs⟩

def ofEmployees :=
  ofSellers (·.employees) (·.employeeId) {} EmployeeSalesSummaryEntity.addOrder EmployeeSalesSummaryEntity.addReturn
    (fun _ _ => And.left) rfl (fun _ _ _ => rfl) (fun _ _ _ _ _ => apply_ite Summaries.employees ..) fun _ _ _ _ _ _ => rfl

def ofCustomerGroups :=
  ofSellers (·.customerGroups) (·.customerGroupId) {} CustomerGroupSalesSummaryEntity.addOrder
    CustomerGroupSalesSummaryEntity.addReturn (fun _ _ => And.right) rfl (fun _ _ _ => rfl)
    (fun _ _ _ _ _ => apply_ite Summaries.customerGroups ..) fun _ _ _ _ _ _ => rfl

end Breakdown

namespace Breakdown

theorem table_writtenProducts (breakdown : Breakdown ρ) (status : OrderStatus) (completedCount : Int) (summaries : Summaries)
    (lines : List ResolvedLine) :
    breakdown.table (writtenProducts day status completedCount summaries lines) = breakdown.table summaries := by
  induction lines generalizing summaries with
  | nil => rfl
  | cons line lines inner =>
    rw [writtenProducts, foldl_cons, ← writtenProducts, inner]
    dsimp only
    split
    · exact breakdown.table_product ..
    · rfl

theorem table_returnedProducts (breakdown : Breakdown ρ) (summaries : Summaries) (lines : List ReturnedLine) :
    breakdown.table (returnedProducts day summaries lines) = breakdown.table summaries := by
  induction lines generalizing summaries with
  | nil => rfl
  | cons line lines inner => exact (inner _).trans (breakdown.table_product ..)

theorem Matches.order {breakdown : Breakdown ρ} {cells} (matched : breakdown.Matches db cells)
    {orderId fact amount}
    (orders : after.orderFacts = db.orderFacts.insert orderId fact) (returns : after.returnFacts = db.returnFacts)
    (books : Books breakdown.column (breakdown.table db.active) (breakdown.table after.active)
      (fact.day, breakdown.label fact.dimensions) amount) (more : amount = breakdown.ordered fact.contributed -
      breakdown.ordered (((db.orderFacts.lookup orderId).map (·.contributed)).getD {}))
    (same : ∀ old, db.orderFacts.lookup orderId = some old → old.day = fact.day ∧
      (breakdown.ordered old.contributed = 0 ∨ breakdown.label old.dimensions = breakdown.label fact.dimensions)) :
    breakdown.Matches after cells := by
  rw [Matches, rowSum, factSum] at *
  rw [books.sum cells, matched, orders, returns, sumBy_insert, amountAt, more]
  cases stored : db.orderFacts.lookup orderId with
  | none =>
    rw [map_none, getD_none, elim_none, breakdown.ordered_empty]
    split <;> omega
  | some old =>
    obtain ⟨sameDay, nothing | sameLabel⟩ := same old stored
    · rw [map_some, getD_some, elim_some, nothing, ite_self]
      split <;> omega
    · rw [map_some, getD_some, elim_some, sameDay, sameLabel]
      split <;> omega

variable {breakdown : Breakdown ρ} {cells : DayBranch × String → Bool}

theorem Matches.applyOrder (matched : breakdown.Matches db cells) {event} (steady : db.steady (.order event) = true)
    (given : event.day (db.orderFacts.lookup event.orderId) = some day)
    (seen : (eventDelta db event (db.orderFacts.lookup event.orderId) day).missed = false)
    (kept : ∀ old, db.orderFacts.lookup event.orderId = some old →
      old.channelType = (event.dimensions (some old)).channelType ∧ (old.contributed.unsold = true ∨
        old.sellerStaffId = (event.dimensions (some old)).employeeId ∧
        old.customerGroupId = (event.dimensions (some old)).customerGroupId)) :
    breakdown.Matches (applyOrderEvent db event (db.orderFacts.lookup event.orderId) day) cells := by
  have applies := applyOrderEvent_applies db event (db.orderFacts.lookup event.orderId) day
  refine matched.order applies.orderFacts applies.returnFacts ?_ (breakdown.ordered_delta _ _) fun old stored =>
    ⟨OrderEvent.day_steady steady given stored, ?_⟩
  · rcases @active_applyOrderEvent db day event (db.orderFacts.lookup event.orderId) with ⟨active, none⟩ | ⟨pending, active⟩
    · rw [active, breakdown.table_writtenProducts]
      refine .inl ⟨rfl, ?_⟩
      rw [← eventDelta, none]
      exact breakdown.ordered_empty
    · rw [active]
      have books := breakdown.table_order (writtenProducts day event.status
        (eventDelta db event (db.orderFacts.lookup event.orderId) day).completedCount db.active
        (eventLines db event (db.orderFacts.lookup event.orderId))) day
        (event.dimensions (db.orderFacts.lookup event.orderId)) _ pending seen
      rw [breakdown.table_writtenProducts] at books
      exact books
  · obtain ⟨channel, stays⟩ := kept old stored
    have same : (eventFact db event (db.orderFacts.lookup event.orderId) day).dimensions = event.dimensions (some old) := by
      rw [stored]
      rfl
    rw [same]
    exact breakdown.kept old.contributed old.dimensions _ channel stays

theorem missed_cogs (cogs : Int) : OrderContributionVector.missed { cogs } = false := by
  refine decide_eq_false ?_
  rintro ⟨_, none, _, sold⟩
  have zero : cogs = 0 := by
    dsimp only at none
    omega
  rw [zero] at sold
  cases sold

theorem Matches.resolveLine (matched : breakdown.Matches db cells)
    (unitCost : Int) {key : Uuid × String} {line} {fact}
    (stored : db.orderFacts.lookup key.1 = some fact) (same : fact.day = line.day)
    (kept : 0 < line.contributed.unitsSold → fact.dimensions = line.dimensions) :
    breakdown.Matches (resolveLineCost unitCost db (key, line)) cells := by
  have resolves := resolveLineCost_resolves unitCost line stored
  obtain ⟨costed, orders, sameDay, _, sameDimensions, contributed⟩ := resolves.orderFacts
  have active := @active_resolveLineCost db unitCost key line
  refine @Matches.order db _ _ breakdown cells matched key.1 costed (if 0 < line.contributed.unitsSold then
    breakdown.ordered { cogs := mulWhole line.quantity unitCost } else 0) orders resolves.returnFacts ?_ ?_ fun old looked => ?_
  · rw [active]
    split
    · next counted =>
      have books := breakdown.table_order (db.active.applyProductSummaryDelta line.day
        { skuCode := line.skuCode, cogs := mulWhole line.quantity unitCost
          grossProfit := 0 - mulWhole line.quantity unitCost, pendingCostLines := -1 })
        line.day line.dimensions { cogs := mulWhole line.quantity unitCost } (-1) (missed_cogs _)
      rw [breakdown.table_product] at books
      rw [sameDay, same, sameDimensions, kept counted]
      exact books
    · exact .inl ⟨rfl, rfl⟩
  · rw [stored, contributed, breakdown.ordered_cogs, map_some, getD_some]
    have empty : breakdown.ordered { cogs := 0 } = 0 := breakdown.ordered_empty
    split
    · omega
    · rw [empty]
      omega
  · rw [← some.inj (stored.symm.trans looked)]
    exact ⟨sameDay.symm, .inr (congrArg breakdown.label sameDimensions.symm)⟩

theorem Matches.returned (matched : breakdown.Matches db cells)
    {event} {fact} (new : db.returnFacts.lookup event.returnId = none)
    (applies : AppliesReturn db event fact after) : breakdown.Matches after cells := by
  have books := breakdown.table_return (returnedProducts fact.day db.active (returnedLines db event fact.refundAmount)) fact.day
    fact.dimensions fact.refundAmount fact.returnedCogsAmount fact.returnedUnits
  rw [breakdown.table_returnedProducts, ← applies.active] at books
  rw [Matches, rowSum, factSum] at *
  rw [books.sum cells, matched, applies.orderFacts, applies.returnFacts, sumBy_insert_fresh new]
  omega

end Breakdown

/-- The change of a line that its product's summary does not take, although its discount or net revenue changes. -/
def ResolvedLine.missed (line : ResolvedLine) (status : OrderStatus) (completedCount : Int) : Bool :=
  let delta := line.productDelta status completedCount
  delta.grossRevenue = 0 ∧ delta.unitsSold = 0 ∧ delta.cogs = 0 ∧ completedCount = 0 ∧ delta.pendingCostLines = 0 ∧
    (delta.discount ≠ 0 ∨ delta.netRevenue ≠ 0)

structure ProductFigure where
  column : ProductSalesSummaryEntity → Int
  contributed : LineContribution → Int
  change : ProductDelta → Int
  column_empty : column {} = 0
  column_add : ∀ delta row, column (row.add delta) = column row + change delta
  contributed_empty : contributed {} = 0
  contributed_cogs : ∀ contribution : LineContribution, contribution.cogs = 0 → ∀ cogs,
    contributed { contribution with cogs } = contributed contribution + contributed { cogs }
  change_line : ∀ (line : ResolvedLine) status completedCount,
    change (line.productDelta status completedCount) = contributed (line.target status) - contributed line.prev
  change_missed : ∀ (line : ResolvedLine) status completedCount, line.missed status completedCount = false →
    ¬((line.productDelta status completedCount).grossRevenue ≠ 0 ∨ (line.productDelta status completedCount).unitsSold ≠ 0 ∨
      (line.productDelta status completedCount).cogs ≠ 0 ∨ completedCount ≠ 0 ∨
      (line.productDelta status completedCount).pendingCostLines ≠ 0) → change (line.productDelta status completedCount) = 0
  change_cost : ∀ skuCode cogs, change { skuCode, cogs, grossProfit := 0 - cogs, pendingCostLines := -1 } = contributed { cogs }
  change_returned : ∀ line : ReturnedLine, change line.productDelta = 0

namespace ProductFigure

variable {figure : ProductFigure} {cells : DayBranch × String → Bool}

def rowSum (figure : ProductFigure) (products : Table (DayBranch × String) ProductSalesSummaryEntity)
    (cells : DayBranch × String → Bool) : Int :=
  sumBy (fun cell row => if cells cell then figure.column row else 0) products

def lineSum (contributed : LineContribution → Int) (lineFacts : Table (Uuid × String) SalesOrderLineFactEntity)
    (cells : DayBranch × String → Bool) : Int :=
  sumBy (fun _ line => if cells (line.day, line.skuCode) then contributed line.contributed else 0) lineFacts

def Matches (figure : ProductFigure) (db : InsightDb) (cells : DayBranch × String → Bool) : Prop :=
  figure.rowSum db.active.products cells = lineSum figure.contributed db.lineFacts cells

theorem rowSum_apply (figure : ProductFigure) (summaries : Summaries) (delta : ProductDelta) :
    figure.rowSum (summaries.applyProductSummaryDelta day delta).products cells =
      figure.rowSum summaries.products cells + if cells (day, delta.skuCode) then figure.change delta else 0 := by
  have books : Books figure.column summaries.products (summaries.applyProductSummaryDelta day delta).products
      (day, delta.skuCode) (figure.change delta) :=
    .inr ⟨{}, (·.add delta), figure.column_empty, rfl, figure.column_add delta⟩
  exact books.sum cells

variable {lines : List ResolvedLine}

theorem rowSum_written (figure : ProductFigure) (status : OrderStatus) (completedCount : Int) (summaries : Summaries)
    (seen : ∀ line ∈ lines, line.missed status completedCount = false) :
    figure.rowSum (writtenProducts day status completedCount summaries lines).products cells =
      figure.rowSum summaries.products cells + (lines.map fun line => if cells (day, line.skuCode) then
        figure.contributed (line.target status) - figure.contributed line.prev else 0).sum := by
  induction lines generalizing summaries with
  | nil => exact (add_zero _).symm
  | cons line lines inner =>
    rw [writtenProducts, foldl_cons, ← writtenProducts, inner _ fun other member => seen other (.tail _ member),
      map_cons, sum_cons, ← figure.change_line line status completedCount]
    dsimp only
    split
    · rw [rowSum_apply]
      exact add_assoc ..
    · next skipped =>
      rw [figure.change_missed line status completedCount (seen line (.head _)) skipped, ite_self, zero_add]

theorem rowSum_returned (figure : ProductFigure) (summaries : Summaries) (lines : List ReturnedLine) :
    figure.rowSum (returnedProducts day summaries lines).products cells = figure.rowSum summaries.products cells := by
  induction lines generalizing summaries with
  | nil => rfl
  | cons line lines inner =>
    refine (inner _).trans ?_
    rw [rowSum_apply, figure.change_returned, ite_self, add_zero]

theorem lineSum_written (contributed : LineContribution → Int) (empty : contributed {} = 0) {orderId dimensions status}
    {lineFacts} (once : (lines.map (·.lineKey)).Nodup)
    (stored : ∀ line ∈ lines, line.prev = ((lineFacts.lookup (orderId, line.lineKey)).map (·.contributed)).getD {} ∧
      ∀ old, lineFacts.lookup (orderId, line.lineKey) = some old → old.day = day ∧ old.skuCode = line.skuCode) :
    lineSum contributed (writtenLines orderId day dimensions status lineFacts lines) cells =
      lineSum contributed lineFacts cells + (lines.map fun line => if cells (day, line.skuCode) then
        contributed (line.target status) - contributed line.prev else 0).sum := by
  induction lines generalizing lineFacts with
  | nil => exact (add_zero _).symm
  | cons first lines inner =>
    obtain ⟨outside, rest⟩ := nodup_cons.mp once
    obtain ⟨prev, same⟩ := stored first (.head _)
    have later := @inner (lineFacts.insert (orderId, first.lineKey)
      (lineFact (lineFacts.lookup (orderId, first.lineKey)) day dimensions status first)) rest fun line member => by
        rw [AList.lookup_insert_ne]
        · exact stored line (.tail _ member)
        · intro here
          exact outside (mem_map.mpr ⟨line, member, (Prod.mk.inj here).2⟩)
    refine later.trans ?_
    rw [map_cons, sum_cons, lineSum, sumBy_insert, amountAt, ← lineSum, prev]
    cases looked : lineFacts.lookup (orderId, first.lineKey) with
    | none =>
      rw [map_none, getD_none, elim_none, empty]
      simp only [lineFact, map_none, getD_none]
      by_cases covered : cells (day, first.skuCode) = true
      · simp only [covered, ↓reduceIte]
        omega
      · simp only [covered, Bool.false_eq_true, ↓reduceIte]
        omega
    | some old =>
      obtain ⟨sameDay, sameSku⟩ := same old looked
      rw [map_some, getD_some, elim_some, sameDay, sameSku]
      simp only [lineFact, map_some, getD_some, sameDay, sameSku]
      split <;> omega

end ProductFigure

/-- What a line is worth net is its subtotal less its discount, in the line and in what it has contributed, and a PENDING line
has cost nothing. -/
structure SalesOrderLineFactEntity.Sound (line : SalesOrderLineFactEntity) : Prop where
  net : line.lineNetRevenue = line.lineSubtotal - line.lineDiscount
  contributedNet : line.contributed.netRevenue = line.contributed.grossRevenue - line.contributed.discount
  pending : line.costStatus = .pending → line.cogsAmount = 0 ∧ line.contributed.cogs = 0

def InsightDb.LinesSound (db : InsightDb) : Prop := ∀ key line, db.lineFacts.lookup key = some line → line.Sound

structure ResolvedLine.Sound (line : ResolvedLine) : Prop where
  net : line.lineNetRevenue = line.lineSubtotal - line.lineDiscount
  pending : line.costStatus = .pending → line.cogsAmount = 0

theorem lineFact_sound (existing : Option SalesOrderLineFactEntity) (dimensions : OrderDimensions) (status : OrderStatus)
    {line} (sound : line.Sound) : (lineFact existing day dimensions status line).Sound := by
  refine ⟨sound.net, ?_, fun late => ⟨sound.pending late, ?_⟩⟩
  · rw [lineFact, target]
    split
    · exact sound.net
    · rfl
  · rw [lineFact, target]
    split
    · exact sound.pending late
    · rfl

theorem allocateDiscount_sound (discountTotal sumLineSubtotals remaining : Int) {lines}
    (sound : ∀ line ∈ lines, line.Sound) : ∀ line ∈ allocateDiscount discountTotal sumLineSubtotals remaining lines, line.Sound := by
  fun_induction allocateDiscount discountTotal sumLineSubtotals remaining lines with
  | case1 => exact sound
  | case2 remaining line =>
    intro other member
    rw [mem_singleton.mp member]
    exact ⟨rfl, (sound line (.head _)).pending⟩
  | case3 remaining line lines _ alloc inner =>
    intro other member
    rcases mem_cons.mp member with rfl | later
    · exact ⟨rfl, (sound line (.head _)).pending⟩
    · exact inner (fun third listed => sound third (.tail _ listed)) other later

theorem eventLines_sound (sound : db.LinesSound) (event : OrderEvent) (existing : Option SalesOrderFactEntity) :
    ∀ line ∈ eventLines db event existing, line.Sound := by
  have resolved : ∀ line ∈ resolveLines db event, line.Sound := by
    rw [resolveLines]
    split
    · rw [List.forall_mem_map]
      intro entry listed
      have stored := sound (event.orderId, entry.1) entry.2 (mem_linesOf.mp listed)
      exact ⟨stored.net, fun late => (stored.pending late).1⟩
    · intro line member
      rw [List.mapIdx_eq_zipIdx_map] at member
      obtain ⟨entry, _, rfl⟩ := List.mem_map.mp member
      refine ⟨rfl, fun late => ?_⟩
      have pending : (costSnapshot entry.1 (prevLine db event.orderId entry.1 entry.2) event.costMissing).1 = .pending := late
      show itemCogs entry.1 (prevLine db event.orderId entry.1 entry.2)
        (costSnapshot entry.1 (prevLine db event.orderId entry.1 entry.2) event.costMissing).1 _ = 0
      rw [itemCogs, pending]
      rfl
  rw [eventLines, discountedLines]
  split
  · exact allocateDiscount_sound _ _ _ resolved
  · exact resolved

theorem InsightDb.LinesSound.applyOrder (sound : db.LinesSound) (event : OrderEvent) :
    (applyOrderEvent db event (db.orderFacts.lookup event.orderId) day).LinesSound := by
  intro key line found
  rw [(applyOrderEvent_applies db event (db.orderFacts.lookup event.orderId) day).lineFacts] at found
  rcases lookup_writtenLines found with ⟨own, member, _, old, rfl⟩ | ⟨_, before⟩
  · exact lineFact_sound _ _ _ (eventLines_sound sound event _ own member)
  · exact sound key line before

theorem InsightDb.LinesSound.resolveLine (sound : db.LinesSound) (unitCost : Int) {key line fact} (found : db.lineFacts.lookup key = some line)
    (stored : db.orderFacts.lookup key.1 = some fact) : (resolveLineCost unitCost db (key, line)).LinesSound := by
  obtain ⟨resolved, lines, verified, _, _, contributed, net, subtotal, discount⟩ :=
    (resolveLineCost_resolves unitCost line stored).lineFacts
  have before := sound key line found
  rw [InsightDb.LinesSound, lines]
  refine forall_insert ⟨?_, ?_, fun late => ?_⟩ sound
  · rw [net, subtotal, discount]
    exact before.net
  · rw [contributed]
    exact before.contributedNet
  · cases verified.symm.trans late

namespace Breakdown

variable {cell : DayBranch × String}

def row (breakdown : Breakdown ρ) (db : InsightDb) (cell : DayBranch × String) : ρ :=
  ((breakdown.table db.active).lookup cell).getD breakdown.blank

theorem column_row (breakdown : Breakdown ρ) (matched : ∀ cells, breakdown.Matches db cells) (cell : DayBranch × String) :
    breakdown.column (breakdown.row db cell) = breakdown.factSum db (· = cell) := by
  have sums := matched (· = cell)
  simp only [Matches, rowSum, decide_eq_true_eq] at sums
  rw [sumBy_single fun _ row => breakdown.column row, amountAt] at sums
  rw [← sums, row]
  cases (breakdown.table db.active).lookup cell with
  | none => exact breakdown.column_blank
  | some row => rfl

def channelGmv := ofChannels .gmv (·.gmv) rfl (fun _ _ => rfl) (fun _ _ _ => (add_zero _).symm)

def channelGross := ofChannels .gross (·.grossSalesRevenue) rfl (fun _ _ => rfl) (fun _ _ _ => (add_zero _).symm)

def channelDiscount := ofChannels .discount (·.discountTotal) rfl (fun _ _ => rfl) (fun _ _ _ => (add_zero _).symm)

def channelReturns := ofChannels .returns (·.returnsAmount) rfl (fun _ _ => (add_zero _).symm) (fun _ _ _ => rfl)

def channelNet := ofChannels .net (·.netSalesRevenue) rfl (fun _ _ => rfl) (fun _ _ _ => rfl)

def channelProfit := ofChannels .profit (·.grossProfit) rfl (fun _ _ => rfl) (fun _ _ _ => rfl)

def channelOrders := ofChannels .orders (·.orderCount) rfl (fun _ _ => rfl) (fun _ _ _ => (add_zero _).symm)

def channelCompleted := ofChannels .completed (·.completedOrderCount) rfl (fun _ _ => rfl) (fun _ _ _ => (add_zero _).symm)

def channelCancelled := ofChannels .cancelled (·.cancelledOrderCount) rfl (fun _ _ => rfl) (fun _ _ _ => (add_zero _).symm)

def channelUnits := ofChannels .units (·.unitsSold) rfl (fun _ _ => rfl) (fun _ _ _ => (add_zero _).symm)

theorem unsold_iff {contributed : OrderContributionVector} : contributed.unsold = true ↔ contributed.grossRevenue = 0 ∧
    contributed.discount = 0 ∧ contributed.netRevenue = 0 ∧ contributed.cogs = 0 ∧ contributed.unitsSold = 0 ∧
    contributed.completedCount = 0 :=
  decide_eq_true_iff

theorem unsold_profit (contributed : OrderContributionVector) (unsold : contributed.unsold = true) :
    contributed.netRevenue - contributed.cogs = 0 := by
  have none := unsold_iff.mp unsold
  omega

def employeeGross := ofEmployees .gross (·.grossSalesRevenue) rfl (fun _ _ => rfl) (fun _ _ _ => (add_zero _).symm)
  (fun _ unsold => (unsold_iff.mp unsold).1)

def employeeDiscount := ofEmployees .discount (·.discountTotal) rfl (fun _ _ => rfl) (fun _ _ _ => (add_zero _).symm)
  (fun _ unsold => (unsold_iff.mp unsold).2.1)

def employeeReturns := ofEmployees .returns (·.returnsAmount) rfl (fun _ _ => (add_zero _).symm) (fun _ _ _ => rfl)
  (fun _ _ => rfl)

def employeeNet := ofEmployees .net (·.netSalesRevenue) rfl (fun _ _ => rfl) (fun _ _ _ => rfl)
  (fun _ unsold => (unsold_iff.mp unsold).2.2.1)

def employeeProfit := ofEmployees .profit (·.grossProfit) rfl (fun _ _ => rfl) (fun _ _ _ => rfl) unsold_profit

def employeeCompleted := ofEmployees .completed (·.completedOrderCount) rfl (fun _ _ => rfl) (fun _ _ _ => (add_zero _).symm)
  (fun _ unsold => (unsold_iff.mp unsold).2.2.2.2.2)

def employeeUnits := ofEmployees .units (·.unitsSold) rfl (fun _ _ => rfl) (fun _ _ _ => (add_zero _).symm)
  (fun _ unsold => (unsold_iff.mp unsold).2.2.2.2.1)

def groupGross := ofCustomerGroups .gross (·.grossSalesRevenue) rfl (fun _ _ => rfl) (fun _ _ _ => (add_zero _).symm)
  (fun _ unsold => (unsold_iff.mp unsold).1)

def groupDiscount := ofCustomerGroups .discount (·.discountTotal) rfl (fun _ _ => rfl) (fun _ _ _ => (add_zero _).symm)
  (fun _ unsold => (unsold_iff.mp unsold).2.1)

def groupReturns := ofCustomerGroups .returns (·.returnsAmount) rfl (fun _ _ => (add_zero _).symm) (fun _ _ _ => rfl)
  (fun _ _ => rfl)

def groupNet := ofCustomerGroups .net (·.netSalesRevenue) rfl (fun _ _ => rfl) (fun _ _ _ => rfl)
  (fun _ unsold => (unsold_iff.mp unsold).2.2.1)

def groupProfit := ofCustomerGroups .profit (·.grossProfit) rfl (fun _ _ => rfl) (fun _ _ _ => rfl) unsold_profit

def groupCompleted := ofCustomerGroups .completed (·.completedOrderCount) rfl (fun _ _ => rfl) (fun _ _ _ => (add_zero _).symm)
  (fun _ unsold => (unsold_iff.mp unsold).2.2.2.2.2)

def groupUnits := ofCustomerGroups .units (·.unitsSold) rfl (fun _ _ => rfl) (fun _ _ _ => (add_zero _).symm)
  (fun _ unsold => (unsold_iff.mp unsold).2.2.2.2.1)

end Breakdown

theorem ResolvedLine.of_guard {line : ResolvedLine} {status completedCount}
    (seen : line.missed status completedCount = false) : let delta := line.productDelta status completedCount
    ¬(delta.grossRevenue ≠ 0 ∨ delta.unitsSold ≠ 0 ∨ delta.cogs ≠ 0 ∨ completedCount ≠ 0 ∨ delta.pendingCostLines ≠ 0) →
      delta.grossRevenue = 0 ∧ delta.unitsSold = 0 ∧ delta.cogs = 0 ∧ delta.discount = 0 ∧ delta.netRevenue = 0 := by
  intro delta skipped
  simp only [not_or, not_not] at skipped
  obtain ⟨gross, units, cogs, completed, pending⟩ := skipped
  have unchanged := of_decide_eq_false seen
  refine ⟨gross, units, cogs, ?_, ?_⟩
  · by_contra changed
    exact unchanged ⟨gross, units, cogs, completed, pending, .inl changed⟩
  · by_contra changed
    exact unchanged ⟨gross, units, cogs, completed, pending, .inr changed⟩

namespace ProductFigure

def gross : ProductFigure where
  column := (·.grossSalesRevenue)
  contributed := (·.grossRevenue)
  change := (·.grossRevenue)
  column_empty := rfl
  column_add := fun _ _ => rfl
  contributed_empty := rfl
  contributed_cogs := fun _ _ _ => (add_zero _).symm
  change_line := fun _ _ _ => rfl
  change_missed := fun _ _ _ seen skipped => (of_guard seen skipped).1
  change_cost := fun _ _ => rfl
  change_returned := fun _ => rfl

def discount : ProductFigure where
  column := (·.discountTotal)
  contributed := (·.discount)
  change := (·.discount)
  column_empty := rfl
  column_add := fun _ _ => rfl
  contributed_empty := rfl
  contributed_cogs := fun _ _ _ => (add_zero _).symm
  change_line := fun _ _ _ => rfl
  change_missed := fun _ _ _ seen skipped => (of_guard seen skipped).2.2.2.1
  change_cost := fun _ _ => rfl
  change_returned := fun _ => rfl

def cogs : ProductFigure where
  column := (·.cogsAmount)
  contributed := (·.cogs)
  change := (·.cogs)
  column_empty := rfl
  column_add := fun _ _ => rfl
  contributed_empty := rfl
  contributed_cogs := by
    intro contribution none cogs
    dsimp only
    omega
  change_line := fun _ _ _ => rfl
  change_missed := fun _ _ _ seen skipped => (of_guard seen skipped).2.2.1
  change_cost := fun _ _ => rfl
  change_returned := fun _ => rfl

def units : ProductFigure where
  column := (·.unitsSold)
  contributed := (·.unitsSold)
  change := (·.unitsSold)
  column_empty := rfl
  column_add := fun _ _ => rfl
  contributed_empty := rfl
  contributed_cogs := fun _ _ _ => (add_zero _).symm
  change_line := fun _ _ _ => rfl
  change_missed := fun _ _ _ seen skipped => (of_guard seen skipped).2.1
  change_cost := fun _ _ => rfl
  change_returned := fun _ => rfl

def net : ProductFigure where
  column := fun row => row.netSalesRevenue + row.returnsAmount
  contributed := (·.netRevenue)
  change := fun delta => delta.netRevenue + delta.returnsAmount
  column_empty := rfl
  column_add := by
    intro delta row
    simp only [ProductSalesSummaryEntity.add]
    omega
  contributed_empty := rfl
  contributed_cogs := fun _ _ _ => (add_zero _).symm
  change_line := fun _ _ _ => add_zero _
  change_missed := fun _ _ _ seen skipped => (add_zero _).trans (of_guard seen skipped).2.2.2.2
  change_cost := fun _ _ => rfl
  change_returned := by
    intro line
    simp only [ReturnedLine.productDelta]
    omega

theorem column_row (figure : ProductFigure) (matched : ∀ cells, figure.Matches db cells) (cell : DayBranch × String) :
    figure.column ((db.active.products.lookup cell).getD {}) = lineSum figure.contributed db.lineFacts (· = cell) := by
  have sums := matched (· = cell)
  simp only [Matches, rowSum, decide_eq_true_eq] at sums
  rw [sumBy_single fun _ row => figure.column row, amountAt] at sums
  rw [← sums]
  cases db.active.products.lookup cell with
  | none => exact figure.column_empty
  | some row => rfl

end ProductFigure

end Insight
