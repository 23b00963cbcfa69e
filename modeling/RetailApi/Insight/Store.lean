import RetailApi.Base.Upsert
import RetailApi.Insight.Domain

/-! The facts and the summaries of the insight service. -/

namespace Insight

open Table

abbrev GenerationId := Nat

structure DayBranch where
  dateBucket : Int
  branchId : Uuid
deriving DecidableEq

structure SalesOrderFactEntity where
  day : DayBranch
  channelType : String
  customerId : Option Uuid
  customerGroupId : String
  sellerStaffId : String
  orderStatus : OrderStatus
  subtotal : Int
  discountTotal : Int
  taxTotal : Int
  grandTotal : Int
  cogsTotal : Int
  unitsTotal : Scaled
  costStatus : CostStatus
  contributed : OrderContributionVector
  lastAggregateVersion : Int
  lastEventId : Option Uuid

structure LineContribution where
  grossRevenue : Int := 0
  discount : Int := 0
  netRevenue : Int := 0
  cogs : Int := 0
  unitsSold : Scaled := 0

structure SalesOrderLineFactEntity where
  day : DayBranch
  channelType : String
  customerGroupId : String
  sellerStaffId : String
  skuCode : String
  quantity : Scaled
  unitPrice : Int
  lineSubtotal : Int
  lineDiscount : Int
  lineNetRevenue : Int
  unitCostSnapshot : Int
  cogsAmount : Int
  costStatus : CostStatus
  contributed : LineContribution

structure ReturnLineEventInput where
  skuCode : Option String := none
  sku : Option String := none
  variantId : Option String := none
  quantity : Scaled
  refundAmount : Option Scaled := none
  unitCost : Option Scaled := none
  restocked : Option Bool := none

structure SalesReturnFactEntity where
  orderId : Uuid
  day : DayBranch
  channelType : String
  customerGroupId : String
  sellerStaffId : String
  refundAmount : Int
  returnedUnits : Scaled
  returnedCogsAmount : Int
  restocked : Bool
  returnLines : List ReturnLineEventInput

structure DailySalesSummaryEntity where
  gmv : Int := 0
  grossSalesRevenue : Int := 0
  discountTotal : Int := 0
  returnsAmount : Int := 0
  netSalesRevenue : Int := 0
  cogsAmount : Int := 0
  returnedCogsAmount : Int := 0
  netCogsAmount : Int := 0
  grossProfit : Int := 0
  orderCount : Int := 0
  completedOrderCount : Int := 0
  cancelledOrderCount : Int := 0
  returnCount : Int := 0
  unitsSold : Scaled := 0
  unitsReturned : Scaled := 0
  pendingCostLinesCount : Int := 0
  cashInflowAmount : Int := 0
  cashOutflowAmount : Int := 0
  debtCollectedAmount : Int := 0
  projectionVersion : Nat := 0

def DailySalesSummaryEntity.addOrderDelta (delta : OrderContributionVector) (grossProfitDelta pendingCostLinesDelta : Int)
    (row : DailySalesSummaryEntity) : DailySalesSummaryEntity :=
  { row with
    gmv := row.gmv + delta.gmv
    grossSalesRevenue := row.grossSalesRevenue + delta.grossRevenue
    discountTotal := row.discountTotal + delta.discount
    netSalesRevenue := row.netSalesRevenue + delta.netRevenue
    cogsAmount := row.cogsAmount + delta.cogs
    netCogsAmount := row.netCogsAmount + delta.cogs
    grossProfit := row.grossProfit + grossProfitDelta
    orderCount := row.orderCount + delta.orderCount
    completedOrderCount := row.completedOrderCount + delta.completedCount
    cancelledOrderCount := row.cancelledOrderCount + delta.cancelledCount
    unitsSold := row.unitsSold + delta.unitsSold
    pendingCostLinesCount := max 0 (row.pendingCostLinesCount + pendingCostLinesDelta)
    projectionVersion := row.projectionVersion + 1 }

def DailySalesSummaryEntity.addOrder (delta : OrderContributionVector) (pending : Int) : DailySalesSummaryEntity →
    DailySalesSummaryEntity :=
  addOrderDelta delta (delta.netRevenue - delta.cogs) pending

def DailySalesSummaryEntity.addReturn (refund cogs : Int) (units : Scaled) (row : DailySalesSummaryEntity) :
    DailySalesSummaryEntity :=
  { row with
    returnsAmount := row.returnsAmount + refund
    netSalesRevenue := row.netSalesRevenue + (0 - refund)
    returnedCogsAmount := row.returnedCogsAmount + cogs
    netCogsAmount := row.netCogsAmount + (0 - cogs)
    grossProfit := row.grossProfit + (cogs - refund)
    returnCount := row.returnCount + 1
    unitsReturned := row.unitsReturned + units
    projectionVersion := row.projectionVersion + 1 }

structure ChannelSalesSummaryEntity where
  gmv : Int := 0
  grossSalesRevenue : Int := 0
  discountTotal : Int := 0
  returnsAmount : Int := 0
  netSalesRevenue : Int := 0
  grossProfit : Int := 0
  orderCount : Int := 0
  completedOrderCount : Int := 0
  cancelledOrderCount : Int := 0
  unitsSold : Scaled := 0

structure EmployeeSalesSummaryEntity where
  grossSalesRevenue : Int := 0
  discountTotal : Int := 0
  returnsAmount : Int := 0
  netSalesRevenue : Int := 0
  grossProfit : Int := 0
  completedOrderCount : Int := 0
  returnCount : Int := 0
  unitsSold : Scaled := 0

structure CustomerGroupSalesSummaryEntity where
  grossSalesRevenue : Int := 0
  discountTotal : Int := 0
  returnsAmount : Int := 0
  netSalesRevenue : Int := 0
  grossProfit : Int := 0
  completedOrderCount : Int := 0
  unitsSold : Scaled := 0

structure ProductSalesSummaryEntity where
  unitsSold : Scaled := 0
  unitsReturned : Scaled := 0
  grossSalesRevenue : Int := 0
  discountTotal : Int := 0
  returnsAmount : Int := 0
  netSalesRevenue : Int := 0
  cogsAmount : Int := 0
  returnedCogsAmount : Int := 0
  netCogsAmount : Int := 0
  grossProfit : Int := 0
  orderCount : Int := 0
  pendingCostLinesCount : Int := 0

def ChannelSalesSummaryEntity.addOrderDelta (delta : OrderContributionVector) (grossProfitDelta : Int)
    (row : ChannelSalesSummaryEntity) : ChannelSalesSummaryEntity :=
  { row with
    gmv := row.gmv + delta.gmv
    grossSalesRevenue := row.grossSalesRevenue + delta.grossRevenue
    discountTotal := row.discountTotal + delta.discount
    netSalesRevenue := row.netSalesRevenue + delta.netRevenue
    grossProfit := row.grossProfit + grossProfitDelta
    orderCount := row.orderCount + delta.orderCount
    completedOrderCount := row.completedOrderCount + delta.completedCount
    cancelledOrderCount := row.cancelledOrderCount + delta.cancelledCount
    unitsSold := row.unitsSold + delta.unitsSold }

def ChannelSalesSummaryEntity.addReturn (refund cogs : Int) (row : ChannelSalesSummaryEntity) : ChannelSalesSummaryEntity :=
  { row with
    returnsAmount := row.returnsAmount + refund
    netSalesRevenue := row.netSalesRevenue + (0 - refund)
    grossProfit := row.grossProfit + (cogs - refund) }

def EmployeeSalesSummaryEntity.addOrderDelta (delta : OrderContributionVector) (grossProfitDelta : Int)
    (row : EmployeeSalesSummaryEntity) : EmployeeSalesSummaryEntity :=
  { row with
    grossSalesRevenue := row.grossSalesRevenue + delta.grossRevenue
    discountTotal := row.discountTotal + delta.discount
    netSalesRevenue := row.netSalesRevenue + delta.netRevenue
    grossProfit := row.grossProfit + grossProfitDelta
    completedOrderCount := row.completedOrderCount + delta.completedCount
    unitsSold := row.unitsSold + delta.unitsSold }

def EmployeeSalesSummaryEntity.addReturn (refund cogs : Int) (row : EmployeeSalesSummaryEntity) : EmployeeSalesSummaryEntity :=
  { row with
    returnsAmount := row.returnsAmount + refund
    netSalesRevenue := row.netSalesRevenue + (0 - refund)
    grossProfit := row.grossProfit + (cogs - refund)
    returnCount := row.returnCount + 1 }

def CustomerGroupSalesSummaryEntity.addOrderDelta (delta : OrderContributionVector) (grossProfitDelta : Int)
    (row : CustomerGroupSalesSummaryEntity) : CustomerGroupSalesSummaryEntity :=
  { row with
    grossSalesRevenue := row.grossSalesRevenue + delta.grossRevenue
    discountTotal := row.discountTotal + delta.discount
    netSalesRevenue := row.netSalesRevenue + delta.netRevenue
    grossProfit := row.grossProfit + grossProfitDelta
    completedOrderCount := row.completedOrderCount + delta.completedCount
    unitsSold := row.unitsSold + delta.unitsSold }

def CustomerGroupSalesSummaryEntity.addReturn (refund cogs : Int) (row : CustomerGroupSalesSummaryEntity) :
    CustomerGroupSalesSummaryEntity :=
  { row with
    returnsAmount := row.returnsAmount + refund
    netSalesRevenue := row.netSalesRevenue + (0 - refund)
    grossProfit := row.grossProfit + (cogs - refund) }

/-- The summaries of one generation; the breakdowns are kept by day and channel, employee, customer group or SKU. -/
structure Summaries where
  daily : Table DayBranch DailySalesSummaryEntity := ∅
  channels : Table (DayBranch × String) ChannelSalesSummaryEntity := ∅
  employees : Table (DayBranch × String) EmployeeSalesSummaryEntity := ∅
  customerGroups : Table (DayBranch × String) CustomerGroupSalesSummaryEntity := ∅
  products : Table (DayBranch × String) ProductSalesSummaryEntity := ∅

structure InsightDb where
  orderFacts : Table Uuid SalesOrderFactEntity := ∅
  lineFacts : Table (Uuid × String) SalesOrderLineFactEntity := ∅
  returnFacts : Table Uuid SalesReturnFactEntity := ∅
  generations : Table GenerationId Summaries := ∅
  activeGenerationId : GenerationId := 0
  buildingGenerationIds : List GenerationId := []

structure OrderDimensions where
  channelType : String
  employeeId : String
  customerGroupId : String

structure Summaries.ProductDelta where
  skuCode : String
  unitsSold : Scaled := 0
  unitsReturned : Scaled := 0
  grossRevenue : Int := 0
  discount : Int := 0
  returnsAmount : Int := 0
  netRevenue : Int := 0
  cogs : Int := 0
  returnedCogs : Int := 0
  grossProfit : Int := 0
  orderCount : Int := 0
  pendingCostLines : Int := 0

def ProductSalesSummaryEntity.add (delta : Summaries.ProductDelta) (row : ProductSalesSummaryEntity) : ProductSalesSummaryEntity :=
  { unitsSold := row.unitsSold + delta.unitsSold
    unitsReturned := row.unitsReturned + delta.unitsReturned
    grossSalesRevenue := row.grossSalesRevenue + delta.grossRevenue
    discountTotal := row.discountTotal + delta.discount
    returnsAmount := row.returnsAmount + delta.returnsAmount
    netSalesRevenue := row.netSalesRevenue + delta.netRevenue
    cogsAmount := row.cogsAmount + delta.cogs
    returnedCogsAmount := row.returnedCogsAmount + delta.returnedCogs
    netCogsAmount := row.netCogsAmount + (delta.cogs - delta.returnedCogs)
    grossProfit := row.grossProfit + delta.grossProfit
    orderCount := row.orderCount + delta.orderCount
    pendingCostLinesCount := max 0 (row.pendingCostLinesCount + delta.pendingCostLines) }

namespace Summaries

def applyOrderDeltaToSummaries (summaries : Summaries) (day : DayBranch) (dimensions : OrderDimensions)
    (delta : OrderContributionVector) (grossProfitDelta pendingCostLinesDelta : Int) : Summaries :=
  let summaries := { summaries with
    daily := upsert summaries.daily day {} (·.addOrderDelta delta grossProfitDelta pendingCostLinesDelta)
    channels := upsert summaries.channels (day, dimensions.channelType) {} (·.addOrderDelta delta grossProfitDelta) }
  if delta.grossRevenue ≠ 0 ∨ grossProfitDelta ≠ 0 ∨ delta.completedCount ≠ 0 then
    { summaries with
      employees := upsert summaries.employees (day, dimensions.employeeId) {} (·.addOrderDelta delta grossProfitDelta)
      customerGroups :=
        upsert summaries.customerGroups (day, dimensions.customerGroupId) {} (·.addOrderDelta delta grossProfitDelta) }
  else summaries

def applyReturnDeltaToSummaries (summaries : Summaries) (day : DayBranch) (dimensions : OrderDimensions)
    (refundAmount returnedCogs : Int) (returnedUnits : Scaled) : Summaries :=
  { summaries with
    daily := upsert summaries.daily day {} (·.addReturn refundAmount returnedCogs returnedUnits)
    channels := upsert summaries.channels (day, dimensions.channelType) {} (·.addReturn refundAmount returnedCogs)
    employees := upsert summaries.employees (day, dimensions.employeeId) {} (·.addReturn refundAmount returnedCogs)
    customerGroups :=
      upsert summaries.customerGroups (day, dimensions.customerGroupId) {} (·.addReturn refundAmount returnedCogs) }

def applyProductSummaryDelta (summaries : Summaries) (day : DayBranch) (delta : ProductDelta) : Summaries :=
  { summaries with products := upsert summaries.products (day, delta.skuCode) {} (·.add delta) }

end Summaries

namespace InsightDb

def summariesOf (db : InsightDb) (generation : GenerationId) : Summaries := (db.generations.lookup generation).getD {}

def active (db : InsightDb) : Summaries := db.summariesOf db.activeGenerationId

def updateGeneration (db : InsightDb) (change : Summaries → Summaries) (generation : GenerationId) : InsightDb :=
  { db with generations := upsert db.generations generation {} change }

/-- `[activeGenerationId, ...buildingGenerationIds]` -/
def targetGenerations (db : InsightDb) : List GenerationId :=
  db.activeGenerationId :: db.buildingGenerationIds.filter (· ≠ db.activeGenerationId)

/-- A change of the summaries of all generations that are written. -/
def updateTargets (db : InsightDb) (change : Summaries → Summaries) : InsightDb :=
  db.targetGenerations.foldl (fun db generation => db.updateGeneration change generation) db

end InsightDb

end Insight
