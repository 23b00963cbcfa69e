import Mathlib.Data.Int.DivMod

/-! Decimal amounts and the contribution of an order to the sales summaries. -/

namespace Insight

abbrev Uuid := Nat

abbrev Scaled := Int

/-- `formatScaledDecimal(value, 0)`: whole VND, half away from zero. -/
def wholeMoney (value : Scaled) : Int :=
  if value < 0 then -((-value + 5000) / 10000) else (value + 5000) / 10000

/-- `mulDecimals(quantity, amount, 0)` of a whole amount. -/
def mulWhole (quantity : Scaled) (amount : Int) : Int := wholeMoney (quantity * amount)

/-- `mulDecimals` of two decimals, to four places. -/
def mulScaled (first second : Scaled) : Scaled := wholeMoney (first * second)

/-- `divDecimals` of a whole amount, to four places. -/
def divScaled (amount : Int) (quantity : Scaled) : Scaled :=
  if quantity = 0 then 0
  else
    let quotient : Int := ((amount.natAbs * 100000000 + quantity.natAbs / 2) / quantity.natAbs : Nat)
    if 0 ≤ amount ∧ 0 < quantity ∨ amount < 0 ∧ quantity < 0 then quotient else -quotient

/-- The day of an instant in the reporting timezone, as a number of days; the instant in milliseconds. -/
def toReportingDateBucket (instant : Int) : Int := (instant + 7 * 60 * 60 * 1000) / (24 * 60 * 60 * 1000)

inductive OrderStatus where
  | created
  | confirmed
  | completed
  | cancelled
deriving DecidableEq

/-- `ORDER_STATUS_RANK` -/
def OrderStatus.rank : OrderStatus → Int
  | .created => 1
  | .confirmed => 2
  | .completed => 3
  | .cancelled => 4

inductive CostStatus where
  | verified
  | pending
deriving DecidableEq

@[ext] structure OrderContributionVector where
  gmv : Int := 0
  grossRevenue : Int := 0
  discount : Int := 0
  netRevenue : Int := 0
  cogs : Int := 0
  unitsSold : Scaled := 0
  orderCount : Int := 0
  completedCount : Int := 0
  cancelledCount : Int := 0
deriving DecidableEq

def computeTargetOrderContribution (status : OrderStatus) (subtotal discountTotal cogsTotal : Int) (unitsTotal : Scaled) :
    OrderContributionVector :=
  match status with
  | .completed =>
    { gmv := subtotal
      grossRevenue := subtotal
      discount := discountTotal
      netRevenue := subtotal - discountTotal
      cogs := cogsTotal
      unitsSold := unitsTotal
      orderCount := 1
      completedCount := 1 }
  | .confirmed => { gmv := subtotal, orderCount := 1 }
  | .cancelled => { orderCount := 1, cancelledCount := 1 }
  | .created => { orderCount := 1 }

def computeOrderContributionDelta (target : OrderContributionVector) (previous : Option OrderContributionVector) :
    OrderContributionVector :=
  let previous := previous.getD {}
  { gmv := target.gmv - previous.gmv
    grossRevenue := target.grossRevenue - previous.grossRevenue
    discount := target.discount - previous.discount
    netRevenue := target.netRevenue - previous.netRevenue
    cogs := target.cogs - previous.cogs
    unitsSold := target.unitsSold - previous.unitsSold
    orderCount := target.orderCount - previous.orderCount
    completedCount := target.completedCount - previous.completedCount
    cancelledCount := target.cancelledCount - previous.cancelledCount }

def isZeroContributionDelta (delta : OrderContributionVector) : Bool := delta = {}

end Insight
