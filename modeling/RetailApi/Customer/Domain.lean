import RetailApi.Base.JsNumber
import RetailApi.Base.Transaction

/-! The rules of the loyalty programme: what an order earns, what a hold may take, and what a
return takes back. Identifiers are the uuids of the columns. -/

namespace Customer

open Transaction JsNumber

abbrev Uuid := Nat

inductive CustomerDomainErrorCode where
  | customerNotFound | customerInactive | customerMergeConflict
  | loyaltyNotEnabled | loyaltyAccountNotFound | insufficientLoyaltyPoints | loyaltyHoldNotFound | loyaltyHoldExpired
  | loyaltyHoldAlreadyCommitted | loyaltyStateConflict | loyaltyMinimumNotMet | loyaltyMaximumExceeded
  | idempotencyConflict | validationError
deriving DecidableEq

/-- Why a transaction of the customer service rolled back. -/
inductive Failure where
  | domain (code : CustomerDomainErrorCode) (message : String) (httpStatus : Nat := 400)
  | database (constraint : String)

def parseVndBigInt (raw : Int) (allowZero : Bool := true) : Except Failure Int := do
  ensure (IsSafe raw) (.domain .validationError s!"Invalid VND amount: {raw} is not a whole number" 422)
  ensure (0 ≤ raw) (.domain .validationError s!"Invalid VND amount: {raw}" 422)
  ensure (allowZero = true ∨ raw ≠ 0) (.domain .validationError "VND amount must be strictly positive" 422)
  return raw

def toVndNumber (amount : Int) : Except Failure Int := do
  ensure (IsSafe amount) (.domain .validationError s!"VND amount exceeds the safe integer range: {amount}" 422)
  return amount

@[simp] theorem parseVndBigInt_eq_ok {raw amount : Int} {allowZero : Bool} : parseVndBigInt raw allowZero = .ok amount ↔
    IsSafe raw ∧ 0 ≤ raw ∧ (allowZero = true ∨ raw ≠ 0) ∧ raw = amount := by
  simp [parseVndBigInt]

@[simp] theorem toVndNumber_eq_ok {amount number : Int} : toVndNumber amount = .ok number ↔ IsSafe amount ∧ amount = number := by
  simp [toVndNumber]

structure LoyaltySettingEntity where
  isEnabled : Bool := true
  earnAmountPerPoint : Int := 10000
  redeemValuePerPoint : Int := 1000
  minRedeemPoints : Int := 10
  maxRedeemPointsPerOrder : Option Int := some 10000
  holdTtlSeconds : Int := 900

structure EarnedPoints where
  earnedPoints : Int
  eligibleSpendVnd : Int
  appliedRateVnd : Int

def calculateEarnedPoints (eligibleSpendVnd : Int) (settings : LoyaltySettingEntity) : Except Failure EarnedPoints := do
  let spend ← parseVndBigInt eligibleSpendVnd
  let rate ← parseVndBigInt settings.earnAmountPerPoint false
  let spendNumber ← toVndNumber spend
  let rateNumber ← toVndNumber rate
  return ⟨if settings.isEnabled = false ∨ spend ≤ 0 then 0 else max 0 (spend / rate), spendNumber, rateNumber⟩

def computeAvailablePoints (postedPointsBalance heldPoints : Int) : Int := max 0 (postedPointsBalance - heldPoints)

/-- The discount that a hold of points is worth, when the account may hold them. -/
def validatePointRedemption (requestedPoints postedPointsBalance heldPoints : Int) (settings : LoyaltySettingEntity) :
    Except Failure Int := do
  ensure (settings.isEnabled = true)
    (.domain .loyaltyNotEnabled "Loyalty program is currently disabled for this tenant" 409)
  ensure (0 < requestedPoints) (.domain .validationError "Requested loyalty points must be a positive integer" 422)
  ensure (settings.minRedeemPoints ≤ requestedPoints)
    (.domain .loyaltyMinimumNotMet s!"Minimum redeemable points is {settings.minRedeemPoints}" 422)
  ensure (∀ most ∈ settings.maxRedeemPointsPerOrder, requestedPoints ≤ most) (.domain .loyaltyMaximumExceeded
    s!"Maximum redeemable points per order is {settings.maxRedeemPointsPerOrder.getD 0}" 422)
  let availableBefore := computeAvailablePoints postedPointsBalance heldPoints
  ensure (requestedPoints ≤ availableBefore) (.domain .insufficientLoyaltyPoints
    s!"Insufficient available loyalty points: requested {requestedPoints}, available {availableBefore}" 409)
  let redeemRate ← parseVndBigInt settings.redeemValuePerPoint false
  toVndNumber (requestedPoints * redeemRate)

/-- The points that a return takes back, from what the returns of its order add up to. -/
def calculateReturnPointReversal (originalEarnedPoints alreadyReversedPoints originalEligibleSpendVnd returnRefundAmountVnd
    cumulativeRefundedAmountVnd : Int) : Except Failure Int := do
  let remainingPoints := max 0 (originalEarnedPoints - alreadyReversedPoints)
  if originalEarnedPoints ≤ 0 ∨ remainingPoints = 0 then return 0
  else do
    let origSpend ← parseVndBigInt originalEligibleSpendVnd
    let returnRefund ← parseVndBigInt returnRefundAmountVnd
    if origSpend ≤ 0 ∨ returnRefund ≤ 0 then return 0
    else do
      let cumRefund ← parseVndBigInt cumulativeRefundedAmountVnd
      if origSpend ≤ cumRefund then return remainingPoints
      else
        let targetCumulativeReversed := originalEarnedPoints * cumRefund / origSpend
        return max 0 (min remainingPoints (targetCumulativeReversed - alreadyReversedPoints))

end Customer
