import RetailApi.Insight.OrderEmission
import RetailApi.Proofs.SalesBreakdowns

/-! What the events of one order leave does not depend on the order they arrive in exactly while they agree on the day, the
channel and the customer group, and none of them is the second event of a sale at the counter. -/

namespace Insight

open DailySalesSummaryEntity EmittedOrder Option List Table Run

variable {db state : InsightDb} {day : DayBranch} {orderId branchId : Uuid} {event : OrderEvent}

def bookedEmployees (employees : Table (DayBranch × String) EmployeeSalesSummaryEntity) (day : DayBranch) (employeeId : String)
    (delta : OrderContributionVector) : Table (DayBranch × String) EmployeeSalesSummaryEntity :=
  if delta.grossRevenue ≠ 0 ∨ delta.netRevenue - delta.cogs ≠ 0 ∨ delta.completedCount ≠ 0 then
    upsert employees (day, employeeId) {} (·.addOrder delta)
  else employees

def bookedGroups (groups : Table (DayBranch × String) CustomerGroupSalesSummaryEntity) (day : DayBranch)
    (customerGroupId : String) (delta : OrderContributionVector) : Table (DayBranch × String) CustomerGroupSalesSummaryEntity :=
  if delta.grossRevenue ≠ 0 ∨ delta.netRevenue - delta.cogs ≠ 0 ∨ delta.completedCount ≠ 0 then
    upsert groups (day, customerGroupId) {} (·.addOrder delta)
  else groups

section Booked

variable (db event) (existing : Option SalesOrderFactEntity)

theorem tables_writtenProducts (status : OrderStatus) (completedCount : Int) (summaries : Summaries) (lines : List ResolvedLine) :
    let after := writtenProducts day status completedCount summaries lines
    after.channels = summaries.channels ∧ after.employees = summaries.employees ∧
      after.customerGroups = summaries.customerGroups := by
  induction lines generalizing summaries with
  | nil => exact ⟨rfl, rfl, rfl⟩
  | cons line lines inner =>
    rw [writtenProducts, foldl_cons, ← writtenProducts]
    dsimp only
    split
    · exact inner _
    · exact inner _

theorem booked_applyOrderEvent : (applyOrderEvent db event existing day).active.employees =
      bookedEmployees db.active.employees day (event.dimensions existing).employeeId (eventDelta db event existing day) ∧
    (applyOrderEvent db event existing day).active.customerGroups =
      bookedGroups db.active.customerGroups day (event.dimensions existing).customerGroupId (eventDelta db event existing day) := by
  have same := @tables_writtenProducts day event.status (eventDelta db event existing day).completedCount db.active
    (eventLines db event existing)
  rcases @active_applyOrderEvent db day event existing with ⟨active, none⟩ | ⟨pending, active⟩
  · rw [active, same.2.1, same.2.2, none]
    exact ⟨rfl, rfl⟩
  · rw [active, Summaries.applyOrderDeltaToSummaries, bookedEmployees, bookedGroups, ← same.2.1, ← same.2.2]
    split <;> exact ⟨rfl, rfl⟩

theorem ChannelSalesSummaryEntity.addOrder_empty (row : ChannelSalesSummaryEntity) : row.addOrder {} = row := by
  simp [ChannelSalesSummaryEntity.addOrder, ChannelSalesSummaryEntity.addOrderDelta]

theorem channelRow_applyOrderEvent (cell : DayBranch × String) :
    (applyOrderEvent db event existing day).channelRow cell = if cell = (day, (event.dimensions existing).channelType) then
      (db.channelRow cell).addOrder (eventDelta db event existing day) else db.channelRow cell := by
  have same := @tables_writtenProducts day event.status (eventDelta db event existing day).completedCount db.active
    (eventLines db event existing)
  rw [InsightDb.channelRow, InsightDb.channelRow]
  rcases @active_applyOrderEvent db day event existing with ⟨active, none⟩ | ⟨pending, active⟩
  · rw [active, same.1, none, ChannelSalesSummaryEntity.addOrder_empty, ite_self]
  · have table : (applyOrderEvent db event existing day).active.channels = upsert db.active.channels
        (day, (event.dimensions existing).channelType) {} (·.addOrder (eventDelta db event existing day)) := by
      rw [active, Summaries.applyOrderDeltaToSummaries, ← same.1]
      split <;> rfl
    rw [table, lookup_upsert]
    split
    · next here =>
      rw [here]
      rfl
    · rfl

def DailySalesSummaryEntity.figures (row : DailySalesSummaryEntity) : DailySalesSummaryEntity := { row with projectionVersion := 0 }

theorem figures_addOrder_empty {row : DailySalesSummaryEntity} (positive : 0 ≤ row.pendingCostLinesCount) :
    (row.addOrder {} 0).figures = row.figures := by
  simp [figures, addOrder, addOrderDelta, positive]

theorem figures_applyOrderEvent (positive : 0 ≤ (db.dailyRow day).pendingCostLinesCount) (other : DayBranch) :
    ((applyOrderEvent db event existing day).dailyRow other).figures = if other = day then
      ((db.dailyRow other).addOrder (eventDelta db event existing day)
        ((eventLines db event existing).map (·.pendingDelta event.status)).sum).figures else (db.dailyRow other).figures := by
  have applies := applyOrderEvent_applies db event existing day
  rcases applies.daily with ⟨daily, none, quiet⟩ | daily
  · rw [InsightDb.dailyRow, daily, ← InsightDb.dailyRow, quiet]
    have unchanged : eventDelta db event existing day = {} := none
    split
    · next here =>
      rw [unchanged, here]
      exact (figures_addOrder_empty positive).symm
    · rfl
  · rw [InsightDb.dailyRow, daily, lookup_upsert]
    split
    · next here =>
      rw [here]
      rfl
    · rfl

end Booked

/-- Before the first event of an order; the counts of pending lines are clamped at zero. -/
structure FreshFor (db : InsightDb) (orderId : Uuid) : Prop where
  noFact : db.orderFacts.lookup orderId = none
  noLines : ∀ key, db.lineFacts.lookup (orderId, key) = none
  counted : ∀ day, 0 ≤ (db.dailyRow day).pendingCostLinesCount

structure OrderEvent.Emitted (event : OrderEvent) (orderId branchId : Uuid) : Prop where
  orderId : event.orderId = orderId
  branchId : event.branchId = some branchId
  id : event.id.isSome = true
  unversioned : event.aggregateVersion = none
  ungrouped : event.customerGroupId = none
  channelType : event.channelType.isSome = true
  seller : ∃ staffId, ∀ existing, (event.dimensions existing).employeeId = staffId

/-- An event that can be followed by another: it sells nothing and names neither lines nor a customer. -/
structure OrderEvent.Plain (event : OrderEvent) : Prop where
  status : event.status = .created ∨ event.status = .confirmed
  items : event.items = []
  customerId : event.customerId = none

def OrderEvent.Priced (event : OrderEvent) : Prop :=
  event.subtotal.isSome ∧ event.discountTotal.isSome ∧ event.taxTotal.isSome ∧ event.grandTotal.isSome

/-- What an event says of where its order is counted when it is the only one. -/
def OrderEvent.alone (event : OrderEvent) : Option DayBranch × String × String :=
  (event.day none, (event.dimensions none).channelType, (event.dimensions none).customerGroupId)

theorem lifecycleEvent_emitted (status : OrderStatus) (payload : LifecyclePayload) :
    (lifecycleEvent orderId branchId status payload).Emitted orderId branchId :=
  ⟨rfl, rfl, rfl, rfl, rfl, rfl, payload.actorId, fun _ => rfl⟩

theorem completedEvent_emitted (payload : CompletedPayload) :
    (completedEvent orderId branchId payload).Emitted orderId branchId :=
  ⟨rfl, rfl, rfl, rfl, rfl, rfl, payload.createdBy, fun _ => rfl⟩

theorem EmittedOrder.emitted (order : EmittedOrder) :
    ∀ event ∈ order.events orderId branchId, event.Emitted orderId branchId := by
  intro event member
  cases order with
  | lifecycle created confirmed ended =>
    simp only [events, cons_append, mem_cons, mem_append, mem_toList, map_eq_some_iff]
      at member
    rcases member with rfl | ⟨payload, _, rfl⟩ | ⟨ending, _, rfl⟩
    · exact lifecycleEvent_emitted ..
    · exact lifecycleEvent_emitted ..
    · cases ending with
      | completed payload priced => exact completedEvent_emitted payload
      | cancelled payload => exact lifecycleEvent_emitted ..
  | counter completed checkout customerId cachedGroupId =>
    simp only [events, mem_cons, not_mem_nil, or_false] at member
    rcases member with rfl | rfl
    · exact completedEvent_emitted completed
    · exact ⟨rfl, rfl, rfl, rfl, rfl, rfl, checkout.actorId, fun _ => rfl⟩
  | sold completed =>
    rw [mem_singleton.mp member]
    exact completedEvent_emitted completed

def EmittedOrder.atCounter : EmittedOrder → Bool
  | .counter .. => true
  | _ => false

structure Ladder (events : List OrderEvent) : Prop where
  distinct : ∀ first ∈ events, ∀ second ∈ events, first.status.rank = second.status.rank → first = second
  step : ∀ low ∈ events, ∀ high ∈ events, low.status.rank < high.status.rank → low.Plain ∧ high.Priced

theorem rank_ended (ending : OrderEnd) : 2 < (ending.event orderId branchId).status.rank := by
  cases ending with
  | completed payload priced => exact (by decide : (2 : Int) < 3)
  | cancelled payload => exact (by decide : (2 : Int) < 4)

theorem mem_lifecycle {created confirmed ended} :
    event ∈ (lifecycle created confirmed ended).events orderId branchId ↔
      event = lifecycleEvent orderId branchId .created created ∨
      (∃ payload, confirmed = some payload ∧ lifecycleEvent orderId branchId .confirmed payload = event) ∨
      ∃ ending, ended = some ending ∧ ending.event orderId branchId = event := by
  simp only [events, cons_append, mem_cons, mem_append, mem_toList, map_eq_some_iff]

theorem lifecycle_plain (status : OrderStatus) (payload : LifecyclePayload) (early : status = .created ∨ status = .confirmed) :
    (lifecycleEvent orderId branchId status payload).Plain :=
  ⟨early, rfl, rfl⟩

theorem lifecycle_priced (status : OrderStatus) (payload : LifecyclePayload) :
    (lifecycleEvent orderId branchId status payload).Priced :=
  ⟨rfl, rfl, rfl, rfl⟩

variable {order : EmittedOrder} {status : OrderStatus} {fact : SalesOrderFactEntity}
  {groupId channelType customerGroupId : String} {low high : OrderEvent} {inputs : List OrderEvent} {dimensions : OrderDimensions}

theorem EmittedOrder.ladder (outside : order.atCounter = false) : Ladder (order.events orderId branchId) := by
  cases order with
  | counter completed checkout customerId cachedGroupId => cases outside
  | sold completed =>
    refine ⟨fun first firstIn second secondIn _ => ?_, fun low lowIn high highIn higher => ?_⟩
    · rw [mem_singleton.mp firstIn, mem_singleton.mp secondIn]
    · rw [mem_singleton.mp lowIn, mem_singleton.mp highIn] at higher
      exact absurd higher (lt_irrefl _)
  | lifecycle created confirmed ended =>
    have one : (lifecycleEvent orderId branchId .created created).status.rank = 1 := rfl
    have two : ∀ payload, (lifecycleEvent orderId branchId .confirmed payload).status.rank = 2 := fun _ => rfl
    have three := @rank_ended orderId branchId
    refine ⟨fun first firstIn second secondIn same => ?_, fun low lowIn high highIn higher => ?_⟩
    · rcases mem_lifecycle.mp firstIn with rfl | ⟨payload, given, rfl⟩ | ⟨ending, given, rfl⟩ <;>
        rcases mem_lifecycle.mp secondIn with rfl | ⟨other, also, rfl⟩ | ⟨other, also, rfl⟩
      · rfl
      · rw [one, two] at same
        cases same
      · have := three other
        omega
      · rw [one, two] at same
        cases same
      · rw [some.inj (given.symm.trans also)]
      · have := two payload
        have := three other
        omega
      · have := three ending
        omega
      · have := two other
        have := three ending
        omega
      · rw [some.inj (given.symm.trans also)]
    · constructor
      · rcases mem_lifecycle.mp lowIn with rfl | ⟨payload, given, rfl⟩ | ⟨ending, given, rfl⟩
        · exact lifecycle_plain .created created (.inl rfl)
        · exact lifecycle_plain .confirmed payload (.inr rfl)
        · exfalso
          have := three ending
          rcases mem_lifecycle.mp highIn with rfl | ⟨other, also, rfl⟩ | ⟨other, also, rfl⟩
          · omega
          · have := two other
            omega
          · rw [some.inj (given.symm.trans also)] at higher
            exact absurd higher (lt_irrefl _)
      · rcases mem_lifecycle.mp highIn with rfl | ⟨payload, given, rfl⟩ | ⟨ending, given, rfl⟩
        · exact lifecycle_priced ..
        · exact lifecycle_priced ..
        · cases ending with
          | completed payload priced => exact priced
          | cancelled payload => exact lifecycle_priced ..

theorem resolveLines_congr (same : state.lineFacts = db.lineFacts) (event : OrderEvent) :
    resolveLines state event = resolveLines db event := by
  simp only [resolveLines, InsightDb.linesOf, resolveItem, prevLine, same]

theorem discountedLines_nil (discountTotal : Int) : discountedLines [] discountTotal = [] := by
  simp [discountedLines]

theorem plain_lines (fresh : FreshFor db orderId) (items : event.items = []) (own : event.orderId = orderId)
    (existing : Option SalesOrderFactEntity) : resolveLines db event = [] ∧ eventLines db event existing = [] := by
  have none : resolveLines db event = [] := by
    rw [resolveLines, items, own]
    refine map_eq_nil_iff.mpr (eq_nil_iff_forall_not_mem.mpr fun entry member => ?_)
    have found : db.lineFacts.lookup (orderId, entry.1) = some entry.2 := mem_linesOf.mp member
    rw [fresh.noLines] at found
    cases found
  refine ⟨none, ?_⟩
  rw [eventLines, none, discountedLines_nil]

structure PlainFact (fact : SalesOrderFactEntity) (groupId : String) : Prop where
  cogsTotal : fact.cogsTotal = 0
  unitsTotal : fact.unitsTotal = 10000
  customerId : fact.customerId = none
  customerGroupId : fact.customerGroupId = groupId
  unsold : fact.contributed.unsold = true

theorem unsold_target (early : status = .created ∨ status = .confirmed)
    (subtotal discountTotal cogsTotal : Int) (unitsTotal : Scaled) :
    (computeTargetOrderContribution status subtotal discountTotal cogsTotal unitsTotal).unsold = true := by
  rcases early with rfl | rfl <;> rfl

theorem plain_fact (fresh : FreshFor db orderId) (plain : event.Plain) (own : event.orderId = orderId) :
    PlainFact (eventFact db event none day) (event.dimensions none).customerGroupId := by
  have lines := (plain_lines fresh plain.items own none).1
  refine ⟨?_, ?_, ?_, rfl, unsold_target plain.status ..⟩
  · simp [eventFact, orderFact, orderTotals, lines]
  · simp [eventFact, orderFact, orderTotals, lines]
  · simp [eventFact, orderFact, plain.customerId]

theorem orElse_ne (value : Option String) : orElse value "WALK_IN" ≠ "" := by
  rw [orElse]
  cases kept : value.filter (· ≠ "") with
  | none => decide
  | some text =>
    have named := (filter_eq_some_iff.mp kept).2
    simpa using named

theorem dimensions_after (emitted : event.Emitted orderId branchId)
    (named : fact.customerGroupId ≠ "") (same : fact.customerGroupId = (event.dimensions none).customerGroupId) :
    event.dimensions (some fact) = event.dimensions none := by
  obtain ⟨channel, given⟩ := Option.isSome_iff_exists.mp emitted.channelType
  obtain ⟨staffId, seller⟩ := emitted.seller
  have group : (event.dimensions (some fact)).customerGroupId = fact.customerGroupId := by
    simp [OrderEvent.dimensions, emitted.ungrouped, orElse, Option.filter, named]
  have channels : (event.dimensions (some fact)).channelType = (event.dimensions none).channelType := by
    simp [OrderEvent.dimensions, given]
  calc event.dimensions (some fact)
      = ⟨(event.dimensions (some fact)).channelType, (event.dimensions (some fact)).employeeId,
        (event.dimensions (some fact)).customerGroupId⟩ := rfl
    _ = ⟨(event.dimensions none).channelType, (event.dimensions none).employeeId,
        (event.dimensions none).customerGroupId⟩ := by rw [channels, seller, seller, group, same]
    _ = event.dimensions none := rfl

theorem totals_after (priced : event.Priced) (plain : PlainFact fact groupId)
    (lines : List ResolvedLine) : orderTotals event (some fact) lines = orderTotals event none lines := by
  obtain ⟨⟨subtotal, hasSubtotal⟩, ⟨discount, hasDiscount⟩, ⟨tax, hasTax⟩, ⟨grand, hasGrand⟩⟩ :
      (∃ amount, event.subtotal = some amount) ∧ (∃ amount, event.discountTotal = some amount) ∧
        (∃ amount, event.taxTotal = some amount) ∧ ∃ amount, event.grandTotal = some amount :=
    ⟨isSome_iff_exists.mp priced.1, isSome_iff_exists.mp priced.2.1, isSome_iff_exists.mp priced.2.2.1,
      isSome_iff_exists.mp priced.2.2.2⟩
  simp [orderTotals, hasSubtotal, hasDiscount, hasTax, hasGrand, plain.cogsTotal, plain.unitsTotal]

theorem fact_after (same : state.lineFacts = db.lineFacts) (priced : event.Priced) (plain : PlainFact fact groupId)
    (dimensions : event.dimensions (some fact) = event.dimensions none) :
    eventFact state event (some fact) day = eventFact db event none day ∧
      eventLines state event (some fact) = eventLines db event none := by
  constructor
  · rw [eventFact, eventFact, resolveLines_congr same, totals_after priced plain, orderFact, orderFact, dimensions]
    simp [plain.customerId]
  · rw [eventLines, eventLines, resolveLines_congr same, totals_after priced plain]

structure At (db state : InsightDb) (event : OrderEvent) (day : DayBranch) : Prop where
  fact : state.orderFacts.lookup event.orderId = some (eventFact db event none day)
  lines : state.lineFacts = (applyOrderEvent db event none day).lineFacts
  daily : ∀ other, (state.dailyRow other).figures = ((applyOrderEvent db event none day).dailyRow other).figures
  channels : ∀ cell, state.channelRow cell = (applyOrderEvent db event none day).channelRow cell
  employees : state.active.employees = (applyOrderEvent db event none day).active.employees
  customerGroups : state.active.customerGroups = (applyOrderEvent db event none day).active.customerGroups
  products : state.active.products = (applyOrderEvent db event none day).active.products

theorem At.first (db : InsightDb) (event : OrderEvent) (day : DayBranch) :
    At db (applyOrderEvent db event none day) event day := by
  refine ⟨?_, rfl, fun _ => rfl, fun _ => rfl, rfl, rfl, rfl⟩
  rw [(applyOrderEvent_applies db event none day).orderFacts, lookup_insert_self]

structure SameSale (first second : OrderContributionVector) : Prop where
  grossRevenue : first.grossRevenue = second.grossRevenue
  discount : first.discount = second.discount
  netRevenue : first.netRevenue = second.netRevenue
  cogs : first.cogs = second.cogs
  unitsSold : first.unitsSold = second.unitsSold
  completedCount : first.completedCount = second.completedCount

theorem bookedEmployees_same {first second} (same : SameSale first second)
    (employees : Table (DayBranch × String) EmployeeSalesSummaryEntity) (employeeId : String) :
    bookedEmployees employees day employeeId first = bookedEmployees employees day employeeId second := by
  have change : (EmployeeSalesSummaryEntity.addOrder first) = EmployeeSalesSummaryEntity.addOrder second := by
    funext row
    simp only [EmployeeSalesSummaryEntity.addOrder, EmployeeSalesSummaryEntity.addOrderDelta,
      same.grossRevenue, same.discount, same.netRevenue, same.cogs,
      same.unitsSold, same.completedCount]
  rw [bookedEmployees, bookedEmployees, same.grossRevenue, same.netRevenue, same.cogs, same.completedCount, change]

theorem bookedGroups_same {first second} (same : SameSale first second)
    (groups : Table (DayBranch × String) CustomerGroupSalesSummaryEntity) (customerGroupId : String) :
    bookedGroups groups day customerGroupId first = bookedGroups groups day customerGroupId second := by
  have change : (CustomerGroupSalesSummaryEntity.addOrder first) = CustomerGroupSalesSummaryEntity.addOrder second := by
    funext row
    simp only [CustomerGroupSalesSummaryEntity.addOrder, CustomerGroupSalesSummaryEntity.addOrderDelta,
      same.grossRevenue, same.discount, same.netRevenue, same.cogs,
      same.unitsSold, same.completedCount]
  rw [bookedGroups, bookedGroups, same.grossRevenue, same.netRevenue, same.cogs, same.completedCount, change]

theorem guard_unsold {delta : OrderContributionVector} (unsold : delta.unsold = true) :
    ¬(delta.grossRevenue ≠ 0 ∨ delta.netRevenue - delta.cogs ≠ 0 ∨ delta.completedCount ≠ 0) := by
  have none := Breakdown.unsold_iff.mp unsold
  omega

theorem sameSale_after (target : OrderContributionVector) {previous} (unsold : previous.unsold = true) :
    SameSale (computeOrderContributionDelta target (some previous)) (computeOrderContributionDelta target none) := by
  obtain ⟨gross, discount, net, cogs, units, completed⟩ := Breakdown.unsold_iff.mp unsold
  refine ⟨?_, ?_, ?_, ?_, ?_, ?_⟩ <;> simp [computeOrderContributionDelta, gross, discount, net, cogs, units, completed]

theorem unsold_alone {contributed} (unsold : contributed.unsold = true) :
    (computeOrderContributionDelta contributed none).unsold = true := by
  obtain ⟨gross, discount, net, cogs, units, completed⟩ := Breakdown.unsold_iff.mp unsold
  rw [Breakdown.unsold_iff]
  simp [computeOrderContributionDelta, gross, discount, net, cogs, units, completed]

theorem products_congr (status : OrderStatus) (completedCount : Int) {first second}
    (same : first.products = second.products) (lines : List ResolvedLine) :
    (writtenProducts day status completedCount first lines).products =
      (writtenProducts day status completedCount second lines).products := by
  induction lines generalizing first second with
  | nil => exact same
  | cons line lines inner =>
    rw [writtenProducts, writtenProducts, foldl_cons, foldl_cons, ← writtenProducts, ← writtenProducts]
    dsimp only
    split
    · refine inner ?_
      rw [Summaries.applyProductSummaryDelta, Summaries.applyProductSummaryDelta, same]
    · exact inner same

theorem exchange (row previous target : Int) : row + (previous - 0) + (target - previous) = row + (target - 0) := by
  omega

theorem ChannelSalesSummaryEntity.addOrder_twice (target : OrderContributionVector) (previous : OrderContributionVector)
    (row : ChannelSalesSummaryEntity) :
    (row.addOrder (computeOrderContributionDelta previous none)).addOrder (computeOrderContributionDelta target (some previous)) =
      row.addOrder (computeOrderContributionDelta target none) := by
  simp only [ChannelSalesSummaryEntity.addOrder, ChannelSalesSummaryEntity.addOrderDelta, computeOrderContributionDelta,
    getD_none, getD_some, ChannelSalesSummaryEntity.mk.injEq]
  and_intros <;> first | trivial | exact exchange .. | omega

theorem figures_twice (target : OrderContributionVector) (previous : OrderContributionVector) (pending : Int)
    {row : DailySalesSummaryEntity} (positive : 0 ≤ row.pendingCostLinesCount) :
    ((row.addOrder (computeOrderContributionDelta previous none) 0).figures.addOrder
      (computeOrderContributionDelta target (some previous)) pending).figures =
      (row.addOrder (computeOrderContributionDelta target none) pending).figures := by
  simp only [figures, addOrder, addOrderDelta, computeOrderContributionDelta, getD_none,
    getD_some, mk.injEq]
  and_intros <;> first | trivial | exact exchange .. | omega

theorem figures_addOrder (delta : OrderContributionVector) (pending : Int) (row : DailySalesSummaryEntity) :
    (row.addOrder delta pending).figures = (row.figures.addOrder delta pending).figures := rfl

theorem At.next (fresh : FreshFor db orderId) (reached : At db state low day)
    (lowOwn : low.Emitted orderId branchId) (highOwn : high.Emitted orderId branchId) (plain : low.Plain) (priced : high.Priced)
    (channel : (low.dimensions none).channelType = (high.dimensions none).channelType)
    (group : (low.dimensions none).customerGroupId = (high.dimensions none).customerGroupId) :
    At db (applyOrderEvent state high (some (eventFact db low none day)) day) high day := by
  have left := @plain_fact db day orderId low fresh plain lowOwn.orderId
  have bare := (plain_lines fresh plain.items lowOwn.orderId none).2
  have lowApplies := applyOrderEvent_applies db low none day
  have lines : state.lineFacts = db.lineFacts := by
    rw [reached.lines, lowApplies.lineFacts, bare]
    rfl
  have named : (eventFact db low none day).customerGroupId ≠ "" := by
    rw [left.customerGroupId]
    exact orElse_ne _
  have dimensions := dimensions_after highOwn named (left.customerGroupId.trans group)
  obtain ⟨fact, eventLines⟩ := @fact_after db state day high (eventFact db low none day) _ lines priced left dimensions
  have applies := applyOrderEvent_applies state high (some (eventFact db low none day)) day
  have alone := applyOrderEvent_applies db high none day
  have delta : eventDelta state high (some (eventFact db low none day)) day = computeOrderContributionDelta
      (eventFact db high none day).contributed (some (eventFact db low none day).contributed) := by
    rw [eventDelta, fact]
    rfl
  have sale := sameSale_after (eventFact db high none day).contributed left.unsold
  have unsold : (eventDelta db low none day).unsold = true := unsold_alone left.unsold
  refine ⟨?_, ?_, fun other => ?_, fun cell => ?_, ?_, ?_, ?_⟩
  · rw [applies.orderFacts, lookup_insert_self, fact]
  · rw [applies.lineFacts, alone.lineFacts, dimensions, eventLines, lines]
  · have before := reached.daily other
    have counted := fresh.counted day
    rw [figures_applyOrderEvent db low none counted, bare] at before
    have positive : 0 ≤ (state.dailyRow day).pendingCostLinesCount := by
      have shown := reached.daily day
      rw [figures_applyOrderEvent db low none counted, if_pos rfl] at shown
      have same := congrArg pendingCostLinesCount shown
      simp only [figures, addOrder, addOrderDelta] at same
      omega
    rw [figures_applyOrderEvent state high _ positive, figures_applyOrderEvent db high none counted, delta, eventLines]
    by_cases here : other = day
    · rw [if_pos here] at before
      rw [if_pos here, if_pos here, figures_addOrder, before, here]
      exact figures_twice _ _ _ counted
    · rw [if_neg here] at before
      rw [if_neg here, if_neg here, before]
  · rw [channelRow_applyOrderEvent, channelRow_applyOrderEvent, reached.channels, channelRow_applyOrderEvent, dimensions, delta,
      channel]
    split
    · exact ChannelSalesSummaryEntity.addOrder_twice ..
    · rfl
  · rw [(booked_applyOrderEvent ..).1, (booked_applyOrderEvent ..).1, reached.employees, (booked_applyOrderEvent ..).1, dimensions,
      delta, bookedEmployees_same sale]
    congr 1
    exact if_neg (guard_unsold unsold)
  · rw [(booked_applyOrderEvent ..).2, (booked_applyOrderEvent ..).2, reached.customerGroups, (booked_applyOrderEvent ..).2,
      dimensions, delta, bookedGroups_same sale]
    congr 1
    exact if_neg (guard_unsold unsold)
  · have before : state.active.products = db.active.products := by
      rw [reached.products, products_applyOrderEvent, bare]
      rfl
    rw [products_applyOrderEvent, products_applyOrderEvent, eventLines, delta, sale.completedCount]
    exact products_congr _ _ before _

theorem rank_injective {first second : OrderStatus} (same : first.rank = second.rank) : first = second := by
  cases first <;> cases second <;> first | rfl | cases same

theorem orderCount_target (status : OrderStatus) (subtotal discountTotal cogsTotal : Int) (unitsTotal : Scaled) :
    (computeTargetOrderContribution status subtotal discountTotal cogsTotal unitsTotal).orderCount = 1 := by
  cases status <;> rfl

theorem version_of (emitted : event.Emitted orderId branchId) : event.version = event.status.rank := by
  rw [OrderEvent.version, emitted.unversioned, getD_none]

structure FactOf (fact : SalesOrderFactEntity) (event : OrderEvent) : Prop where
  orderStatus : fact.orderStatus = event.status
  lastAggregateVersion : fact.lastAggregateVersion = event.status.rank
  lastEventId : fact.lastEventId = event.id
  orderCount : fact.contributed.orderCount = 1

theorem factOf_eventFact (emitted : event.Emitted orderId branchId) (existing : Option SalesOrderFactEntity) :
    FactOf (eventFact db event existing day) event :=
  ⟨rfl, version_of emitted, rfl, orderCount_target ..⟩

theorem skipped_low (of : FactOf fact high)
    (emitted : low.Emitted orderId branchId) (lower : low.status.rank ≤ high.status.rank) : (low.skipped fact).isSome = true := by
  rw [OrderEvent.skipped, version_of emitted, of.lastAggregateVersion, of.orderStatus, of.orderCount]
  split
  · rfl
  · split
    · rfl
    · next fresh_ =>
      have same : low.status.rank = high.status.rank := by
        by_contra different
        exact fresh_ (.inl (by omega))
      rw [if_pos ⟨(rank_injective same).symm, same, by decide⟩]
      rfl

theorem taken_high (of : FactOf fact low)
    (emitted : high.Emitted orderId branchId) (higher : low.status.rank < high.status.rank) (own : high.id ≠ low.id) :
    high.skipped fact = none := by
  rw [OrderEvent.skipped, version_of emitted, of.lastAggregateVersion, of.orderStatus, of.lastEventId, if_neg, if_neg, if_neg]
  · rintro ⟨same, _⟩
    rw [same] at higher
    exact absurd higher (lt_irrefl _)
  · omega
  · rintro ⟨_, same⟩
    exact own same.symm

theorem day_alone (emitted : event.Emitted orderId branchId) :
    event.day none = some ⟨toReportingDateBucket event.instant, branchId⟩ := by
  rw [OrderEvent.day, emitted.branchId]
  rfl

theorem day_after (emitted : event.Emitted orderId branchId) (branch : fact.day.branchId = branchId) :
    event.day (some fact) = some fact.day := by
  rw [OrderEvent.day, emitted.branchId, ← branch]
  rfl

theorem process_first (fresh : FreshFor db orderId) (emitted : event.Emitted orderId branchId) :
    processSalesOrderEvent db event =
      applyOrderEvent db event none ⟨toReportingDateBucket event.instant, branchId⟩ := by
  rw [processSalesOrderEvent, emitted.orderId, fresh.noFact, bind_none, day_alone emitted]
  rfl

theorem process_later (emitted : event.Emitted orderId branchId)
    (stored : state.orderFacts.lookup orderId = some fact) (branch : fact.day.branchId = branchId) :
    processSalesOrderEvent state event = if (event.skipped fact).isSome = true then state
      else applyOrderEvent state event (some fact) fact.day := by
  rw [processSalesOrderEvent, emitted.orderId, stored, bind_some, day_after emitted branch]

structure Agreed (events : List OrderEvent) (orderId branchId : Uuid) : Prop where
  emitted : ∀ event ∈ events, event.Emitted orderId branchId
  ladder : Ladder events
  unique : ∀ first ∈ events, ∀ second ∈ events, first.id = second.id → first = second
  alone : ∀ first ∈ events, ∀ second ∈ events, first.alone = second.alone

variable {events : List OrderEvent}

theorem At.run (fresh : FreshFor db orderId) (agreed : Agreed events orderId branchId)
    (own : ∀ event ∈ inputs, event ∈ events) (member : event ∈ events) (given : event.day none = some day)
    (reached : At db state event day) : ∃ highest ∈ events, At db (after processSalesOrderEvent state inputs) highest day ∧
      event.status.rank ≤ highest.status.rank ∧ ∀ other ∈ inputs, other.status.rank ≤ highest.status.rank := by
  induction inputs generalizing state event with
  | nil => exact ⟨event, member, reached, le_rfl, by simp⟩
  | cons input inputs inner =>
    have inside := own input (.head _)
    have rest : ∀ other ∈ inputs, other ∈ events := fun other listed => own other (.tail _ listed)
    have emitted := agreed.emitted event member
    have inputEmitted := agreed.emitted input inside
    have branch : day.branchId = branchId := by
      rw [day_alone emitted] at given
      rw [← some.inj given]
    have stored := reached.fact
    rw [emitted.orderId] at stored
    have process := process_later inputEmitted stored branch
    by_cases higher : event.status.rank < input.status.rank
    · have different : input.id ≠ event.id := by
        intro same
        rw [agreed.unique input inside event member same] at higher
        exact absurd higher (lt_irrefl _)
      have taken := taken_high (@factOf_eventFact db day _ _ _ emitted none) inputEmitted higher different
      rw [taken] at process
      obtain ⟨plain, priced⟩ := agreed.ladder.step event member input inside higher
      have same := agreed.alone event member input inside
      simp only [OrderEvent.alone, Prod.mk.injEq] at same
      have next := reached.next fresh emitted inputEmitted plain priced same.2.1 same.2.2
      have moved : processSalesOrderEvent state input = applyOrderEvent state input (some (eventFact db event none day)) day :=
        process
      rw [← moved] at next
      obtain ⟨highest, listed, ends, above, all⟩ := inner rest inside (same.1.symm.trans given) next
      refine ⟨highest, listed, ends, by omega, fun other otherIn => ?_⟩
      rcases mem_cons.mp otherIn with rfl | later
      · exact above
      · exact all other later
    · have skipped := skipped_low (@factOf_eventFact db day _ _ _ emitted none) inputEmitted (by omega : input.status.rank ≤ _)
      rw [if_pos skipped] at process
      obtain ⟨highest, listed, ends, above, all⟩ := inner rest member given reached
      refine ⟨highest, listed, ?_, above, fun other otherIn => ?_⟩
      · rw [show after processSalesOrderEvent state (input :: inputs) =
          after processSalesOrderEvent (processSalesOrderEvent state input) inputs from rfl, process]
        exact ends
      · rcases mem_cons.mp otherIn with rfl | later
        · omega
        · exact all other later

/-- Two states show the same of an order: its fact but for the event that wrote it last, its lines, and the summaries but for
the number of their changes. -/
structure SameAnalytics (orderId : Uuid) (first second : InsightDb) : Prop where
  fact : (first.orderFacts.lookup orderId).map (fun fact => { fact with lastEventId := none }) =
    (second.orderFacts.lookup orderId).map fun fact => { fact with lastEventId := none }
  lines : ∀ key, first.lineFacts.lookup (orderId, key) = second.lineFacts.lookup (orderId, key)
  daily : ∀ day, (first.dailyRow day).figures = (second.dailyRow day).figures
  channels : ∀ cell, first.channelRow cell = second.channelRow cell
  employees : ∀ cell, first.employeeRow cell = second.employeeRow cell
  customerGroups : ∀ cell, first.customerGroupRow cell = second.customerGroupRow cell
  products : ∀ cell, first.productRow cell = second.productRow cell

/-- The events of an order leave the same in whatever order they are delivered, with any repetition. -/
def EmittedOrder.OrderFree (order : EmittedOrder) (orderId branchId : Uuid) (db : InsightDb) : Prop :=
  ∀ first second, Covers (order.events orderId branchId) first → Covers (order.events orderId branchId) second →
    SameAnalytics orderId (after processSalesOrderEvent db first) (after processSalesOrderEvent db second)

theorem At.same {first second} (one : At db first event day) (other : At db second event day)
    (own : event.orderId = orderId) : SameAnalytics orderId first second := by
  refine ⟨?_, fun key => ?_, fun day => ?_, fun cell => ?_, fun cell => ?_, fun cell => ?_, fun cell => ?_⟩
  · rw [← own, one.fact, other.fact]
  · rw [one.lines, other.lines]
  · rw [one.daily, other.daily]
  · rw [one.channels, other.channels]
  · rw [InsightDb.employeeRow, InsightDb.employeeRow, one.employees, other.employees]
  · rw [InsightDb.customerGroupRow, InsightDb.customerGroupRow, one.customerGroups, other.customerGroups]
  · rw [InsightDb.productRow, InsightDb.productRow, one.products, other.products]

theorem At.highest (fresh : FreshFor db orderId) (agreed : Agreed events orderId branchId) (some : events ≠ [])
    (covers : Covers events inputs) : ∃ highest ∈ events, ∃ day, highest.day none = Option.some day ∧
      At db (after processSalesOrderEvent db inputs) highest day ∧
        ∀ other ∈ events, other.status.rank ≤ highest.status.rank := by
  cases inputs with
  | nil =>
    obtain ⟨event, member⟩ := exists_mem_of_ne_nil events some
    exact absurd ((covers event).mpr member) not_mem_nil
  | cons first inputs =>
    have inside := (covers first).mp (.head _)
    have given := day_alone (agreed.emitted first inside)
    have began := At.first db first ⟨toReportingDateBucket first.instant, branchId⟩
    rw [← process_first fresh (agreed.emitted first inside)] at began
    obtain ⟨highest, member, ends, above, all⟩ := began.run fresh agreed
      (fun event listed => (covers event).mp (.tail _ listed)) inside given
    have same := agreed.alone highest member first inside
    simp only [OrderEvent.alone, Prod.mk.injEq] at same
    refine ⟨highest, member, _, same.1.trans given, ends, fun other listed => ?_⟩
    rcases mem_cons.mp ((covers other).mpr listed) with rfl | later
    · exact above
    · exact all other later

structure Tracks (db state : InsightDb) (orderId : Uuid) (day : DayBranch) (channelType customerGroupId : String) : Prop where
  fact : ∃ fact, state.orderFacts.lookup orderId = some fact ∧ fact.day = day ∧ fact.customerGroupId = customerGroupId ∧
    fact.contributed.orderCount = 1
  channels : ∀ cell, (state.channelRow cell).orderCount =
    (db.channelRow cell).orderCount + if cell = (day, channelType) then 1 else 0

theorem Tracks.first (fresh : FreshFor db orderId) (emitted : event.Emitted orderId branchId) :
    Tracks db (processSalesOrderEvent db event) orderId ⟨toReportingDateBucket event.instant, branchId⟩
      (event.dimensions none).channelType (event.dimensions none).customerGroupId := by
  rw [process_first fresh emitted]
  have applies := applyOrderEvent_applies db event none ⟨toReportingDateBucket event.instant, branchId⟩
  refine ⟨⟨eventFact db event none ⟨toReportingDateBucket event.instant, branchId⟩, ?_, rfl, rfl, orderCount_target ..⟩,
    fun cell => ?_⟩
  · rw [applies.orderFacts, emitted.orderId, lookup_insert_self]
  · rw [channelRow_applyOrderEvent]
    split
    · have one : (eventDelta db event none ⟨toReportingDateBucket event.instant, branchId⟩).orderCount = 1 := by
        have counted := (@factOf_eventFact db ⟨toReportingDateBucket event.instant, branchId⟩ _ _ _ emitted none).orderCount
        rw [eventDelta, computeOrderContributionDelta]
        rw [counted]
        rfl
      rw [← one]
      rfl
    · exact (add_zero _).symm

theorem group_kept (emitted : event.Emitted orderId branchId) (named : fact.customerGroupId ≠ "") :
    (event.dimensions (some fact)).customerGroupId = fact.customerGroupId := by
  simp [OrderEvent.dimensions, emitted.ungrouped, orElse, Option.filter, named]

theorem Tracks.step (tracks : Tracks db state orderId day channelType customerGroupId)
    (named : customerGroupId ≠ "") (branch : day.branchId = branchId) (emitted : event.Emitted orderId branchId) :
    Tracks db (processSalesOrderEvent state event) orderId day channelType customerGroupId := by
  obtain ⟨fact, stored, rfl, rfl, counted⟩ := tracks.fact
  rw [process_later emitted stored branch]
  split
  · exact tracks
  · have applies := applyOrderEvent_applies state event (some fact) fact.day
    have now := (@factOf_eventFact state fact.day _ _ _ emitted (some fact)).orderCount
    refine ⟨⟨eventFact state event (some fact) fact.day, ?_, rfl, group_kept emitted named, now⟩, fun cell => ?_⟩
    · rw [applies.orderFacts, emitted.orderId, lookup_insert_self]
    · have none : (eventDelta state event (some fact) fact.day).orderCount = 0 := by
        rw [eventDelta, computeOrderContributionDelta]
        dsimp only [map_some, getD_some]
        rw [now, counted]
        rfl
      rw [← tracks.channels cell, channelRow_applyOrderEvent]
      split
      · show (state.channelRow cell).orderCount + (eventDelta state event (some fact) fact.day).orderCount = _
        rw [none, add_zero]
      · rfl

theorem Tracks.run (tracks : Tracks db state orderId day channelType customerGroupId) (named : customerGroupId ≠ "")
    (branch : day.branchId = branchId) (emitted : ∀ event ∈ inputs, event.Emitted orderId branchId) :
    Tracks db (after processSalesOrderEvent state inputs) orderId day channelType customerGroupId := by
  induction inputs generalizing state with
  | nil => exact tracks
  | cons input inputs inner =>
    exact inner (tracks.step named branch (emitted input (.head _))) fun other member => emitted other (.tail _ member)

theorem agree_of_free (fresh : FreshFor db orderId) (free : order.OrderFree orderId branchId db) :
    ∀ first ∈ order.events orderId branchId, ∀ second ∈ order.events orderId branchId, first.alone = second.alone := by
  intro first firstIn second secondIn
  have covers : ∀ event ∈ order.events orderId branchId,
      Covers (order.events orderId branchId) (event :: order.events orderId branchId) := by
    intro event member other
    rw [mem_cons]
    exact ⟨fun listed => listed.elim (fun same => same ▸ member) id, .inr⟩
  have tracks : ∀ event ∈ order.events orderId branchId, Tracks db
      (after processSalesOrderEvent db (event :: order.events orderId branchId)) orderId
      ⟨toReportingDateBucket event.instant, branchId⟩ (event.dimensions none).channelType
      (event.dimensions none).customerGroupId := by
    intro event member
    exact (Tracks.first fresh (order.emitted event member)).run (orElse_ne _) rfl order.emitted
  have same := free _ _ (covers first firstIn) (covers second secondIn)
  obtain ⟨firstFact, firstStored, firstDay, firstGroup, _⟩ := (tracks first firstIn).fact
  obtain ⟨secondFact, secondStored, secondDay, secondGroup, _⟩ := (tracks second secondIn).fact
  have facts := same.fact
  rw [firstStored, secondStored, map_some, map_some, some.injEq] at facts
  have sameDay := congrArg SalesOrderFactEntity.day facts
  have sameGroup := congrArg SalesOrderFactEntity.customerGroupId facts
  rw [firstDay, secondDay] at sameDay
  rw [firstGroup, secondGroup] at sameGroup
  have counts := congrArg ChannelSalesSummaryEntity.orderCount
    (same.channels (⟨toReportingDateBucket first.instant, branchId⟩, (first.dimensions none).channelType))
  rw [(tracks first firstIn).channels, (tracks second secondIn).channels, if_pos rfl, ← sameDay] at counts
  have sameChannel : (first.dimensions none).channelType = (second.dimensions none).channelType := by
    by_contra different
    rw [if_neg fun same => different (Prod.mk.inj same).2] at counts
    omega
  rw [OrderEvent.alone, OrderEvent.alone, day_alone (order.emitted first firstIn), day_alone (order.emitted second secondIn),
    sameDay, sameChannel, sameGroup]

theorem lookup_written_kept (lines : List ResolvedLine) {key}
    {lineFacts} (there : lineFacts.lookup key ≠ none) :
    (writtenLines orderId day dimensions status lineFacts lines).lookup key ≠ none := by
  induction lines generalizing lineFacts with
  | nil => exact there
  | cons line lines inner =>
    refine inner ?_
    rw [lookup_insert_if]
    split
    · exact some_ne_none _
    · exact there

theorem lookup_written (line : ResolvedLine) (lines : List ResolvedLine)
    (lineFacts : Table (Uuid × String) SalesOrderLineFactEntity) :
    (writtenLines orderId day dimensions status lineFacts (line :: lines)).lookup (orderId, line.lineKey) ≠ none := by
  refine lookup_written_kept lines ?_
  rw [lookup_insert_self]
  exact some_ne_none _

theorem second_skipped (fresh : FreshFor db orderId) {first second} (one : first.Emitted orderId branchId)
    (other : second.Emitted orderId branchId) (lower : second.status.rank ≤ first.status.rank) :
    after processSalesOrderEvent db [first, second] =
      applyOrderEvent db first none ⟨toReportingDateBucket first.instant, branchId⟩ := by
  have applies := applyOrderEvent_applies db first none ⟨toReportingDateBucket first.instant, branchId⟩
  have stored : (applyOrderEvent db first none ⟨toReportingDateBucket first.instant, branchId⟩).orderFacts.lookup orderId =
      some (eventFact db first none ⟨toReportingDateBucket first.instant, branchId⟩) := by
    rw [applies.orderFacts, one.orderId, lookup_insert_self]
  show processSalesOrderEvent (processSalesOrderEvent db first) second = _
  rw [process_first fresh one, process_later other stored rfl, if_pos (skipped_low (factOf_eventFact one none) other lower)]

theorem eventLines_ne_nil (filled : event.items ≠ []) (existing : Option SalesOrderFactEntity) :
    eventLines db event existing ≠ [] := by
  intro none
  have lengths := congrArg length (eventLines_cost db event existing)
  rw [none, map_nil, length_nil, length_map, resolveLines, if_neg (by simpa using filled), length_mapIdx]
    at lengths
  exact filled (eq_nil_of_length_eq_zero lengths.symm)

theorem counter_not_free (fresh : FreshFor db orderId) (completed : CompletedPayload) (checkout : LifecyclePayload)
    (customerId : Option Uuid) (cachedGroupId : Option String) :
    ¬(counter completed checkout customerId cachedGroupId).OrderFree orderId branchId db := by
  intro free
  have emitted := @emitted orderId branchId (.counter completed checkout customerId cachedGroupId)
  have sale := emitted (completedEvent orderId branchId completed) (.head _)
  have paid := emitted (checkoutEvent orderId branchId customerId cachedGroupId checkout) (.tail _ (.head _))
  have swapped : Covers ((counter completed checkout customerId cachedGroupId).events orderId branchId)
      [checkoutEvent orderId branchId customerId cachedGroupId checkout, completedEvent orderId branchId completed] := by
    intro event
    simp only [events, mem_cons, not_mem_nil, or_false]
    exact or_comm
  have same := (free _ _ (fun _ => Iff.rfl) swapped).lines
  rw [events, second_skipped fresh sale paid le_rfl, second_skipped fresh paid sale le_rfl,
    (applyOrderEvent_applies db (completedEvent orderId branchId completed) none _).lineFacts,
    (applyOrderEvent_applies db (checkoutEvent orderId branchId customerId cachedGroupId checkout) none _).lineFacts,
    (@plain_lines db orderId (checkoutEvent orderId branchId customerId cachedGroupId checkout) fresh rfl rfl none).2] at same
  obtain ⟨line, lines, given⟩ := exists_cons_of_ne_nil
    (@eventLines_ne_nil db (completedEvent orderId branchId completed) completed.filled none)
  rw [given] at same
  refine lookup_written line lines db.lineFacts ((same line.lineKey).trans ?_)
  exact fresh.noLines line.lineKey

/-- The events of an order leave the same in every order of delivery exactly when it is not a sale at the counter and they agree,
each taken alone, on the day, the channel and the customer group. -/
theorem order_free_iff (fresh : FreshFor db orderId) (order : EmittedOrder)
    (unique : ((order.events orderId branchId).map (·.id)).Nodup) :
    order.OrderFree orderId branchId db ↔ order.atCounter = false ∧
      ∀ first ∈ order.events orderId branchId, ∀ second ∈ order.events orderId branchId, first.alone = second.alone := by
  constructor
  · intro free
    refine ⟨?_, agree_of_free fresh free⟩
    cases order with
    | lifecycle created confirmed ended => rfl
    | sold completed => rfl
    | counter completed checkout customerId cachedGroupId =>
      exact absurd free (counter_not_free fresh completed checkout customerId cachedGroupId)
  · rintro ⟨outside, alone⟩ first second firstCovers secondCovers
    have agreed : Agreed (order.events orderId branchId) orderId branchId :=
      ⟨order.emitted, order.ladder outside, fun _ firstIn _ secondIn => inj_on_of_nodup_map unique firstIn secondIn, alone⟩
    have some : order.events orderId branchId ≠ [] := by
      cases order with
      | lifecycle created confirmed ended => exact cons_ne_nil _ _
      | sold completed => exact cons_ne_nil _ _
      | counter completed checkout customerId cachedGroupId => cases outside
    obtain ⟨highest, member, day, given, ends, above⟩ := At.highest fresh agreed some firstCovers
    obtain ⟨other, otherIn, otherDay, otherGiven, otherEnds, otherAbove⟩ := At.highest fresh agreed some secondCovers
    have same : highest = other := agreed.ladder.distinct highest member other otherIn
      (le_antisymm (otherAbove highest member) (above other otherIn))
    subst same
    rw [given] at otherGiven
    rw [← Option.some.inj otherGiven] at otherEnds
    exact ends.same otherEnds (order.emitted highest member).orderId

theorem freshFor_empty (orderId : Uuid) : FreshFor {} orderId :=
  ⟨rfl, fun _ => rfl, fun _ => le_rfl⟩

private def desk : LifecyclePayload :=
  { id := 11, channelType := "MANUAL", subtotal := 100000000, discountTotal := 0, taxTotal := 0, grandTotal := 100000000,
    actorId := "an", occurredAt := 0, sentAt := 0 }

private def chair (id : Uuid) (channelType : String) : CompletedPayload :=
  { id, channelType, subtotal := some 100000000, discountTotal := some 0, taxTotal := some 0, grandTotal := some 100000000,
    totalAmount := 100000000, createdBy := "binh", completedAt := 3600000, sentAt := 3600000,
    items := [{ sku := some "CHAIR", quantity := 10000, unitPrice := 100000000 }], filled := cons_ne_nil _ _ }

theorem order_free_iff_manual :
    (lifecycle desk none (some (.completed (chair 12 "MANUAL") ⟨rfl, rfl, rfl, rfl⟩))).OrderFree 1 1 {} :=
  (order_free_iff (freshFor_empty 1) _ (by decide +kernel)).mpr ⟨rfl, by decide +kernel⟩

/-- A chair that is sold at the counter: its checkout may arrive before its order. -/
theorem delivery_order_matters :
    ¬(counter (chair 12 "POS") desk none none).OrderFree 1 1 {} :=
  counter_not_free (freshFor_empty 1) (chair 12 "POS") desk none none

end Insight
