import RetailApi.Insight.Projections

/-! Reconciliation of the daily summaries with the facts. -/

namespace Insight

structure ReconciliationWindow where
  fromDate : Int
  toDate : Int
  branchId : Option Uuid := none

def ReconciliationWindow.covers (window : ReconciliationWindow) (day : DayBranch) : Bool :=
  window.fromDate ≤ day.dateBucket ∧ day.dateBucket ≤ window.toDate ∧ window.branchId.all (· = day.branchId)

namespace InsightDb

/-- `SUM` over the order facts of some days. -/
def sumOrders (db : InsightDb) (days : DayBranch → Bool) (amount : OrderContributionVector → Int) : Int :=
  Table.sumBy (fun _ fact => if days fact.day then amount fact.contributed else 0) db.orderFacts

/-- `SUM` over the return facts of some days. -/
def sumReturns (db : InsightDb) (days : DayBranch → Bool) (amount : SalesReturnFactEntity → Int) : Int :=
  Table.sumBy (fun _ fact => if days fact.day then amount fact else 0) db.returnFacts

/-- `SUM` over the daily summaries of the active generation for some days. -/
def sumDaily (db : InsightDb) (days : DayBranch → Bool) (column : DailySalesSummaryEntity → Int) : Int :=
  Table.sumBy (fun day row => if days day then column row else 0) db.active.daily

end InsightDb

inductive ReconciliationSeverity where
  | low
  | medium
  | high
  | critical
deriving DecidableEq

structure ReconciliationCheck where
  metricName : String
  expected : Int
  actual : Int
  severity : ReconciliationSeverity

def reconciliationChecks (db : InsightDb) (window : ReconciliationWindow) : List ReconciliationCheck :=
  let expected := db.sumOrders window.covers
  let returned := db.sumReturns window.covers
  let actual := db.sumDaily window.covers
  let expectedNetRev := expected (·.netRevenue) - returned (·.refundAmount)
  let expectedNetCogs := expected (·.cogs) - returned (·.returnedCogsAmount)
  [ ⟨"gmv", expected (·.gmv), actual (·.gmv), .medium⟩,
    ⟨"gross_sales_revenue", expected (·.grossRevenue), actual (·.grossSalesRevenue), .high⟩,
    ⟨"returns_amount", returned (·.refundAmount), actual (·.returnsAmount), .high⟩,
    ⟨"net_sales_revenue", expectedNetRev, actual (·.netSalesRevenue), .critical⟩,
    ⟨"gross_profit", expectedNetRev - expectedNetCogs, actual (·.grossProfit), .high⟩,
    ⟨"completed_order_count", expected (·.completedCount), actual (·.completedOrderCount), .high⟩,
    ⟨"cancelled_order_count", expected (·.cancelledCount), actual (·.cancelledOrderCount), .medium⟩ ]

def executeReconciliation (db : InsightDb) (window : ReconciliationWindow) : List ReconciliationCheck :=
  (reconciliationChecks db window).filter fun check => check.actual ≠ check.expected

end Insight
