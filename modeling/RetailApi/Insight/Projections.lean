import Mathlib.Data.List.Sort
import RetailApi.Base.JsString
import RetailApi.Insight.Store

/-! The projections of sales events: facts are upserted, and the summaries follow by the difference between what a fact
contributes now and what it contributed last. -/

namespace Insight

structure OrderItemEventInput where
  lineKey : Option String := none
  skuCode : Option String := none
  sku : Option String := none
  variantId : Option String := none
  quantity : Scaled
  unitPrice : Scaled
  discount : Scaled := 0
  unitCost : Option Scaled := none
  cogsAmount : Option Scaled := none
  costMissing : Bool := false
  averageCost : Option Scaled := none

/-- An order event as `normalizeOrderEvent` leaves it, with the status its handler infers. -/
structure OrderEvent where
  id : Option Uuid := none
  status : OrderStatus
  orderId : Uuid
  branchId : Option Uuid := none
  channelType : Option String := none
  /-- `undefined`, or the customer or `null`. -/
  customerId : Option (Option Uuid) := none
  customerGroupId : Option String := none
  cachedGroupId : Option String := none
  sellerStaffId : Option String := none
  createdBy : Option String := none
  actorId : Option String := none
  /-- `event.actor.id` -/
  actor : Option String := none
  subtotal : Option Scaled := none
  discountTotal : Option Scaled := none
  taxTotal : Option Scaled := none
  grandTotal : Option Scaled := none
  totalAmount : Option Scaled := none
  completedAt : Option Int := none
  occurredAt : Option Int := none
  /-- `occurredAt` of the envelope. -/
  sentAt : Int
  aggregateVersion : Option Int := none
  costMissing : Bool := false
  items : List OrderItemEventInput := []

def OrderEvent.version (event : OrderEvent) : Int := event.aggregateVersion.getD event.status.rank

inductive SkipReason where
  | duplicateEvent
  | outOfOrderStaleEvent
  | alreadyAtTargetState
deriving DecidableEq

def OrderEvent.skipped (event : OrderEvent) (existing : SalesOrderFactEntity) : Option SkipReason :=
  if event.id.isSome ∧ existing.lastEventId = event.id then some .duplicateEvent
  else if event.version < existing.lastAggregateVersion
      ∨ event.aggregateVersion = none ∧ event.status.rank < existing.orderStatus.rank then some .outOfOrderStaleEvent
  else if existing.orderStatus = event.status ∧ event.version = existing.lastAggregateVersion
      ∧ 0 < existing.contributed.orderCount then some .alreadyAtTargetState
  else none

structure ResolvedLine where
  lineKey : String
  skuCode : String
  quantity : Scaled
  unitPrice : Int
  lineSubtotal : Int
  lineDiscount : Int
  lineNetRevenue : Int
  unitCostSnapshot : Int
  cogsAmount : Int
  costStatus : CostStatus
  prev : LineContribution
  prevCostStatus : Option CostStatus

def OrderItemEventInput.code (item : OrderItemEventInput) (index : Nat) : String :=
  (item.skuCode <|> item.sku <|> item.variantId).getD ("SKU-" ++ toString (index + 1))

def OrderItemEventInput.key (item : OrderItemEventInput) (index : Nat) : String :=
  item.lineKey.getD (item.code index ++ "#" ++ toString index)

def prevLine (db : InsightDb) (orderId : Uuid) (item : OrderItemEventInput) (index : Nat) : Option SalesOrderLineFactEntity :=
  db.lineFacts.lookup (orderId, item.key index) <|> db.lineFacts.lookup (orderId, item.code index)

/-- The unit cost of an item at the time of the transaction; a verified one is kept. -/
def costSnapshot (item : OrderItemEventInput) (prev : Option SalesOrderLineFactEntity) (costMissing : Bool) : CostStatus × Int :=
  match prev.filter fun line => line.costStatus = .verified ∧ 0 < line.unitCostSnapshot with
  | some line => (.verified, line.unitCostSnapshot)
  | none =>
    if item.costMissing || costMissing then (.pending, 0)
    else match item.cogsAmount with
      | some cogs => (.verified, wholeMoney (divScaled (wholeMoney cogs) item.quantity))
      | none => (.verified, wholeMoney ((item.unitCost <|> item.averageCost).getD 0))

def itemCogs (item : OrderItemEventInput) (prev : Option SalesOrderLineFactEntity) (costStatus : CostStatus)
    (unitCostSnapshot : Int) : Int :=
  if costStatus = .verified then
    match item.cogsAmount.filter fun _ => !prev.any (·.costStatus = .verified) with
    | some cogs => wholeMoney cogs
    | none => mulWhole item.quantity unitCostSnapshot
  else 0

def resolveItem (db : InsightDb) (event : OrderEvent) (item : OrderItemEventInput) (index : Nat) : ResolvedLine :=
  let prev := prevLine db event.orderId item index
  let unitPrice := wholeMoney item.unitPrice
  let lineSubtotal := mulWhole item.quantity unitPrice
  let lineDiscount := wholeMoney item.discount
  let (costStatus, unitCostSnapshot) := costSnapshot item prev event.costMissing
  { lineKey := item.key index
    skuCode := item.code index
    quantity := item.quantity
    unitPrice
    lineSubtotal
    lineDiscount
    lineNetRevenue := lineSubtotal - lineDiscount
    unitCostSnapshot
    cogsAmount := itemCogs item prev costStatus unitCostSnapshot
    costStatus
    prev := (prev.map (·.contributed)).getD {}
    prevCostStatus := prev.map (·.costStatus) }

def SalesOrderLineFactEntity.resolved (line : SalesOrderLineFactEntity) (lineKey : String) : ResolvedLine :=
  { lineKey
    skuCode := line.skuCode
    quantity := line.quantity
    unitPrice := line.unitPrice
    lineSubtotal := line.lineSubtotal
    lineDiscount := line.lineDiscount
    lineNetRevenue := line.lineNetRevenue
    unitCostSnapshot := line.unitCostSnapshot
    cogsAmount := line.cogsAmount
    costStatus := line.costStatus
    prev := line.contributed
    prevCostStatus := some line.costStatus }

def InsightDb.linesOf (db : InsightDb) (orderId : Uuid) : List (String × SalesOrderLineFactEntity) :=
  let entries := db.lineFacts.entries.filter fun entry => entry.1.1 = orderId
  (entries.map fun entry => (entry.1.2, entry.2)).insertionSort fun first second => first.1 ≤ second.1

def resolveLines (db : InsightDb) (event : OrderEvent) : List ResolvedLine :=
  if event.items.isEmpty then (db.linesOf event.orderId).map fun entry => entry.2.resolved entry.1
  else event.items.mapIdx fun index item => resolveItem db event item index

def ResolvedLine.discounted (line : ResolvedLine) (alloc : Int) : ResolvedLine :=
  { line with lineDiscount := alloc, lineNetRevenue := line.lineSubtotal - alloc }

/-- The discount of the order over its lines; the last line takes the remainder. -/
def allocateDiscount (discountTotal sumLineSubtotals : Int) : Int → List ResolvedLine → List ResolvedLine
  | _, [] => []
  | remaining, [line] => [line.discounted remaining]
  | remaining, line :: lines =>
    let alloc := wholeMoney ((discountTotal * line.lineSubtotal * 10000).tdiv sumLineSubtotals)
    line.discounted alloc :: allocateDiscount discountTotal sumLineSubtotals (remaining - alloc) lines

structure OrderTotals where
  subtotal : Int
  discountTotal : Int
  taxTotal : Int
  grandTotal : Int
  cogsTotal : Int
  unitsTotal : Scaled
  costStatus : CostStatus

def orderTotals (event : OrderEvent) (existing : Option SalesOrderFactEntity) (lines : List ResolvedLine) : OrderTotals :=
  let sumLineSubtotals := (lines.map (·.lineSubtotal)).sum
  let sumLineDiscounts := (lines.map (·.lineDiscount)).sum
  let subtotal := match event.subtotal with
    | some subtotal => wholeMoney subtotal
    | none =>
      if 0 < sumLineSubtotals then sumLineSubtotals
      else match existing with
        | some fact => fact.subtotal
        | none => wholeMoney ((event.grandTotal <|> event.totalAmount).getD 0)
  let discountTotal := match event.discountTotal with
    | some discount => wholeMoney discount
    | none => if 0 < sumLineDiscounts then sumLineDiscounts else (existing.map (·.discountTotal)).getD 0
  let taxTotal := match event.taxTotal with
    | some tax => wholeMoney tax
    | none => (existing.map (·.taxTotal)).getD 0
  { subtotal
    discountTotal
    taxTotal
    grandTotal := match event.grandTotal <|> event.totalAmount with
      | some total => wholeMoney total
      | none => subtotal - discountTotal + taxTotal
    cogsTotal := if lines.isEmpty then (existing.map (·.cogsTotal)).getD 0 else (lines.map (·.cogsAmount)).sum
    unitsTotal := if lines.isEmpty then (existing.map (·.unitsTotal)).getD 10000 else (lines.map (·.quantity)).sum
    costStatus := if event.costMissing || lines.any (·.costStatus = .pending) then .pending else .verified }

def discountedLines (lines : List ResolvedLine) (discountTotal : Int) : List ResolvedLine :=
  let sumLineSubtotals := (lines.map (·.lineSubtotal)).sum
  if (lines.map (·.lineDiscount)).sum = 0 ∧ 0 < discountTotal ∧ 0 < sumLineSubtotals then
    allocateDiscount discountTotal sumLineSubtotals discountTotal lines
  else lines

def OrderEvent.instant (event : OrderEvent) : Int := (event.completedAt <|> event.occurredAt).getD event.sentAt

/-- `value || otherwise` of a text -/
def orElse (value : Option String) (otherwise : String) : String := (value.filter (· ≠ "")).getD otherwise

def OrderEvent.dimensions (event : OrderEvent) (existing : Option SalesOrderFactEntity) : OrderDimensions :=
  let customerId := event.customerId.getD (existing.bind (·.customerId))
  let customerGroupId := (event.customerGroupId <|> existing.map (·.customerGroupId)).filter (· ≠ "")
  { channelType := JsString.toUpperCase ((event.channelType <|> existing.map (·.channelType)).getD "POS")
    employeeId := (event.sellerStaffId <|> event.createdBy <|> event.actorId <|> event.actor
      <|> existing.map (·.sellerStaffId)).getD "UNASSIGNED"
    customerGroupId := orElse (customerGroupId <|> if customerId.isSome then event.cachedGroupId else none) "WALK_IN" }

/-- What a line contributes to its product's summary under a status. -/
def ResolvedLine.target (line : ResolvedLine) (status : OrderStatus) : LineContribution :=
  if status = .completed then
    { grossRevenue := line.lineSubtotal
      discount := line.lineDiscount
      netRevenue := line.lineNetRevenue
      cogs := line.cogsAmount
      unitsSold := line.quantity }
  else {}

def ResolvedLine.pendingDelta (line : ResolvedLine) (status : OrderStatus) : Int :=
  let wasPending := if line.prevCostStatus = some .pending ∧ 0 < line.prev.unitsSold then 1 else 0
  let isNowPending := if status = .completed ∧ line.costStatus = .pending then 1 else 0
  isNowPending - wasPending

def ResolvedLine.productDelta (line : ResolvedLine) (status : OrderStatus) (completedCount : Int) : Summaries.ProductDelta :=
  let target := line.target status
  { skuCode := line.skuCode
    unitsSold := target.unitsSold - line.prev.unitsSold
    grossRevenue := target.grossRevenue - line.prev.grossRevenue
    discount := target.discount - line.prev.discount
    netRevenue := target.netRevenue - line.prev.netRevenue
    cogs := target.cogs - line.prev.cogs
    grossProfit := target.netRevenue - line.prev.netRevenue - (target.cogs - line.prev.cogs)
    orderCount := completedCount
    pendingCostLines := line.pendingDelta status }

/-- The line fact; a line that exists keeps its day, its SKU and its dimensions. -/
def lineFact (existing : Option SalesOrderLineFactEntity) (day : DayBranch) (dimensions : OrderDimensions) (status : OrderStatus)
    (line : ResolvedLine) : SalesOrderLineFactEntity :=
  { day := (existing.map (·.day)).getD day
    channelType := (existing.map (·.channelType)).getD dimensions.channelType
    customerGroupId := (existing.map (·.customerGroupId)).getD dimensions.customerGroupId
    sellerStaffId := (existing.map (·.sellerStaffId)).getD dimensions.employeeId
    skuCode := (existing.map (·.skuCode)).getD line.skuCode
    quantity := line.quantity
    unitPrice := line.unitPrice
    lineSubtotal := line.lineSubtotal
    lineDiscount := line.lineDiscount
    lineNetRevenue := line.lineNetRevenue
    unitCostSnapshot := line.unitCostSnapshot
    cogsAmount := line.cogsAmount
    costStatus := line.costStatus
    contributed := line.target status }

/-- One round of the loop over the lines: the fact, and the product's summary. -/
def writeLine (orderId : Uuid) (day : DayBranch) (dimensions : OrderDimensions) (status : OrderStatus) (completedCount : Int)
    (db : InsightDb) (line : ResolvedLine) : InsightDb :=
  let key := (orderId, line.lineKey)
  let db := { db with
    lineFacts := db.lineFacts.insert key (lineFact (db.lineFacts.lookup key) day dimensions status line) }
  let delta := line.productDelta status completedCount
  if delta.grossRevenue ≠ 0 ∨ delta.unitsSold ≠ 0 ∨ delta.cogs ≠ 0 ∨ completedCount ≠ 0 ∨ delta.pendingCostLines ≠ 0 then
    db.updateTargets (·.applyProductSummaryDelta day delta)
  else db

/-- The line facts after the loop over the lines of an order. -/
def writtenLines (orderId : Uuid) (day : DayBranch) (dimensions : OrderDimensions) (status : OrderStatus)
    (lineFacts : Table (Uuid × String) SalesOrderLineFactEntity) (lines : List ResolvedLine) :
    Table (Uuid × String) SalesOrderLineFactEntity :=
  lines.foldl (fun facts line => facts.insert (orderId, line.lineKey)
    (lineFact (facts.lookup (orderId, line.lineKey)) day dimensions status line)) lineFacts

/-- The day an order is counted on, fixed by its first event. -/
def OrderEvent.day (event : OrderEvent) (existing : Option SalesOrderFactEntity) : Option DayBranch :=
  (event.branchId <|> existing.map (·.day.branchId)).map fun branchId =>
    { branchId, dateBucket := (existing.map (·.day.dateBucket)).getD (toReportingDateBucket event.instant) }

def orderFact (event : OrderEvent) (existing : Option SalesOrderFactEntity) (day : DayBranch) (totals : OrderTotals) :
    SalesOrderFactEntity :=
  let dimensions := event.dimensions existing
  { day
    channelType := dimensions.channelType
    -- `COALESCE`: a `null` leaves the customer that is known.
    customerId := event.customerId.getD none <|> existing.bind (·.customerId)
    customerGroupId := dimensions.customerGroupId
    sellerStaffId := dimensions.employeeId
    orderStatus := event.status
    subtotal := totals.subtotal
    discountTotal := totals.discountTotal
    taxTotal := totals.taxTotal
    grandTotal := totals.grandTotal
    cogsTotal := totals.cogsTotal
    unitsTotal := totals.unitsTotal
    costStatus := totals.costStatus
    contributed := computeTargetOrderContribution event.status totals.subtotal totals.discountTotal totals.cogsTotal
      totals.unitsTotal
    lastAggregateVersion := event.version
    lastEventId := event.id }

/-- `processSalesOrderEvent` of an event that is not skipped. -/
def applyOrderEvent (db : InsightDb) (event : OrderEvent) (existing : Option SalesOrderFactEntity) (day : DayBranch) : InsightDb :=
  let lines := resolveLines db event
  let totals := orderTotals event existing lines
  let lines := discountedLines lines totals.discountTotal
  let fact := orderFact event existing day totals
  let delta := computeOrderContributionDelta fact.contributed (existing.map (·.contributed))
  let dimensions := event.dimensions existing
  let pendingLinesDelta := (lines.map (·.pendingDelta event.status)).sum
  let db := { db with orderFacts := db.orderFacts.insert event.orderId fact }
  let db := lines.foldl (writeLine event.orderId day dimensions event.status delta.completedCount) db
  if isZeroContributionDelta delta = false ∨ pendingLinesDelta ≠ 0 then
    db.updateTargets (·.applyOrderDeltaToSummaries day dimensions delta (delta.netRevenue - delta.cogs) pendingLinesDelta)
  else db

/-- An event without a branch for a new order violates the column's constraint and changes nothing. -/
def processSalesOrderEvent (db : InsightDb) (event : OrderEvent) : InsightDb :=
  let existing := db.orderFacts.lookup event.orderId
  if (existing.bind event.skipped).isSome then db
  else match event.day existing with
    | none => db
    | some day => applyOrderEvent db event existing day

/-- One round of the loop of `resolvePendingOrderCosts`. -/
def resolveLineCost (unitCost : Int) (db : InsightDb) (entry : (Uuid × String) × SalesOrderLineFactEntity) : InsightDb :=
  let (key, line) := entry
  let newCogs := mulWhole line.quantity unitCost
  let isCompletedContribution : Bool := 0 < line.contributed.unitsSold
  let cogsDelta := if isCompletedContribution then newCogs else 0
  let lineFacts := db.lineFacts.insert key { line with
    unitCostSnapshot := unitCost
    cogsAmount := newCogs
    costStatus := .verified
    contributed := { line.contributed with cogs := cogsDelta } }
  let othersPending := lineFacts.entries.any fun entry => entry.1.1 = key.1 ∧ entry.2.costStatus = .pending ∧ entry.1 ≠ key
  let orderFacts := match db.orderFacts.lookup key.1 with
    | none => db.orderFacts
    | some fact => db.orderFacts.insert key.1 { fact with
        cogsTotal := fact.cogsTotal + newCogs
        contributed := { fact.contributed with cogs := fact.contributed.cogs + cogsDelta }
        costStatus := if othersPending then .pending else .verified }
  let db := { db with lineFacts, orderFacts }
  if isCompletedContribution then
    let dimensions : OrderDimensions := ⟨line.channelType, line.sellerStaffId, line.customerGroupId⟩
    db.updateTargets fun summaries =>
      (summaries.applyProductSummaryDelta line.day
        { skuCode := line.skuCode, cogs := cogsDelta, grossProfit := 0 - newCogs, pendingCostLines := -1 }).applyOrderDeltaToSummaries
        line.day dimensions { cogs := cogsDelta } (0 - newCogs) (-1)
  else db

def resolvePendingOrderCosts (db : InsightDb) (skuCode : String) (unitCost : Scaled) (orderId : Option Uuid) : InsightDb :=
  if unitCost ≤ 0 then db
  else
    let pendingLines := db.lineFacts.entries.filter fun entry =>
      entry.2.skuCode = skuCode ∧ entry.2.costStatus = .pending ∧ orderId.all (· = entry.1.1)
    (pendingLines.map fun entry => (entry.1, entry.2)).foldl (resolveLineCost (wholeMoney unitCost)) db

structure ReturnEvent where
  returnId : Uuid
  orderId : Uuid
  branchId : Option Uuid := none
  channelType : Option String := none
  customerGroupId : Option String := none
  sellerStaffId : Option String := none
  totalRefundAmount : Scaled
  restocked : Bool := true
  occurredAt : Int
  items : List ReturnLineEventInput := []

def ReturnLineEventInput.code (line : ReturnLineEventInput) : String :=
  (line.skuCode <|> line.sku <|> line.variantId).getD "SKU-DEFAULT"

structure ReturnedLine where
  skuCode : String
  units : Scaled
  refund : Int
  cogs : Int

def returnedItem (orderLines : List (String × SalesOrderLineFactEntity)) (event : ReturnEvent) (refundAmount : Int)
    (line : ReturnLineEventInput) : ReturnedLine :=
  let original := (orderLines.reverse.find? fun entry => entry.2.skuCode = line.code).map (·.2)
  let unitCost := match line.unitCost with
    | some cost => wholeMoney cost
    | none => (original.map (·.unitCostSnapshot)).getD 0
  { skuCode := line.code
    units := line.quantity
    refund := match line.refundAmount, original with
      | some refund, _ => wholeMoney refund
      | none, some line' => wholeMoney (mulScaled line.quantity (divScaled line'.lineNetRevenue line'.quantity))
      | none, none => refundAmount
    cogs := if line.restocked.getD event.restocked then mulWhole line.quantity unitCost else 0 }

/-- The share of an original line in a return that names no lines. -/
def returnedShare (fact : SalesOrderFactEntity) (restocked : Bool) (refundAmount : Int) (line : SalesOrderLineFactEntity) :
    ReturnedLine :=
  let orderNet := fact.subtotal - fact.discountTotal
  let (ratioNum, ratioDen) := if 0 < orderNet then (refundAmount * 10000, orderNet * 10000) else (10000, 10000)
  { skuCode := line.skuCode
    units := (line.quantity * ratioNum).tdiv ratioDen
    refund := if 0 < orderNet then wholeMoney ((refundAmount * 10000 * (line.lineNetRevenue * 10000)).tdiv (orderNet * 10000))
      else refundAmount
    cogs := if restocked then wholeMoney ((line.cogsAmount * 10000 * ratioNum).tdiv ratioDen) else 0 }

def returnedLines (db : InsightDb) (event : ReturnEvent) (refundAmount : Int) : List ReturnedLine :=
  let orderLines := db.linesOf event.orderId
  if event.items.isEmpty then
    match db.orderFacts.lookup event.orderId with
    | none => []
    | some fact => orderLines.map fun entry => returnedShare fact event.restocked refundAmount entry.2
  else event.items.map (returnedItem orderLines event refundAmount)

def ReturnedLine.productDelta (line : ReturnedLine) : Summaries.ProductDelta :=
  { skuCode := line.skuCode
    unitsReturned := line.units
    returnsAmount := line.refund
    netRevenue := 0 - line.refund
    returnedCogs := line.cogs
    grossProfit := line.cogs - line.refund }

def ReturnEvent.dimensions (event : ReturnEvent) (order : Option SalesOrderFactEntity) : OrderDimensions :=
  { channelType := JsString.toUpperCase ((event.channelType <|> order.map (·.channelType)).getD "POS")
    employeeId := (event.sellerStaffId <|> order.map (·.sellerStaffId)).getD "UNASSIGNED"
    customerGroupId := (event.customerGroupId <|> order.map (·.customerGroupId)).getD "WALK_IN" }

def returnFact (event : ReturnEvent) (day : DayBranch) (dimensions : OrderDimensions) (refundAmount : Int)
    (lines : List ReturnedLine) : SalesReturnFactEntity :=
  { orderId := event.orderId
    day
    channelType := dimensions.channelType
    customerGroupId := dimensions.customerGroupId
    sellerStaffId := dimensions.employeeId
    refundAmount
    returnedUnits := if event.items.isEmpty ∧ lines.isEmpty then 10000 else (lines.map (·.units)).sum
    returnedCogsAmount := (lines.map (·.cogs)).sum
    restocked := event.restocked
    returnLines := event.items }

/-- A return without a branch, for an order that is not known, violates the column's constraint and changes nothing. -/
def processSalesReturnCompleted (db : InsightDb) (event : ReturnEvent) : InsightDb :=
  let order := db.orderFacts.lookup event.orderId
  match db.returnFacts.lookup event.returnId, event.branchId <|> order.map (·.day.branchId) with
  | none, some branchId =>
    let day : DayBranch := ⟨toReportingDateBucket event.occurredAt, branchId⟩
    let dimensions := event.dimensions order
    let refundAmount := wholeMoney event.totalRefundAmount
    let lines := returnedLines db event refundAmount
    let fact := returnFact event day dimensions refundAmount lines
    let db := lines.foldl (fun db line => db.updateTargets (·.applyProductSummaryDelta day line.productDelta)) db
    { db with returnFacts := db.returnFacts.insert event.returnId fact }.updateTargets
      (·.applyReturnDeltaToSummaries day dimensions refundAmount fact.returnedCogsAmount fact.returnedUnits)
  | _, _ => db

inductive SalesEvent where
  | order (event : OrderEvent)
  | cost (skuCode : String) (unitCost : Scaled) (orderId : Option Uuid)
  | returned (event : ReturnEvent)

def processSalesEvent (db : InsightDb) : SalesEvent → InsightDb
  | .order event => processSalesOrderEvent db event
  | .cost skuCode unitCost orderId => resolvePendingOrderCosts db skuCode unitCost orderId
  | .returned event => processSalesReturnCompleted db event

end Insight
