import RetailApi.Sales.OrderRows

/-! Coupons: a claim counts a use and writes a usage row for its order, a release takes the
rows of an order away again. -/

namespace Sales

open Transaction JsString

inductive ActiveStatus where
  | active | inactive
deriving DecidableEq

inductive PromotionDiscountType where
  | fixed | percent
deriving DecidableEq

/-- A promotion; its `numeric(12,2)` discount value is held in hundredths. -/
structure PromotionEntity where
  code : String
  name : String
  discountType : PromotionDiscountType
  discountValue : Int
  minOrderAmount : Int
  maxDiscountAmount : Option Int
  branchId : Option Uuid
  startsAt : Option Nat
  endsAt : Option Nat
  status : ActiveStatus

structure CouponEntity where
  promotionId : Uuid
  code : String
  maxUses : Option Nat
  maxUsesPerCustomer : Option Nat
  usedCount : Nat
  status : ActiveStatus

/-- `CHK_coupons_usage` -/
def CouponEntity.Legal (coupon : CouponEntity) : Prop := ∀ limit ∈ coupon.maxUses, coupon.usedCount ≤ limit

instance (coupon : CouponEntity) : Decidable coupon.Legal :=
  inferInstanceAs (Decidable (∀ limit ∈ coupon.maxUses, coupon.usedCount ≤ limit))

structure CouponUsageEntity where
  couponId : Uuid
  orderId : Uuid
  customerId : Option Uuid
  discountAmount : Int
deriving DecidableEq

/-- The tables of one tenant that its promotions and coupons live in. -/
structure CouponsDb where
  promotions : Table Uuid PromotionEntity := ∅
  coupons : Table Uuid { coupon : CouponEntity // coupon.Legal } := ∅
  usages : List CouponUsageEntity := []

structure EvaluatedCouponResult where
  couponId : Uuid
  promotionId : Uuid
  couponCode : String
  discountAmountVnd : Int

namespace CouponsDb

def coupon (db : CouponsDb) (couponId : Uuid) : Option CouponEntity := (db.coupons.lookup couponId).map (·.1)

def writeCoupon (db : CouponsDb) (couponId : Uuid) (coupon : CouponEntity) : Except Failure CouponsDb :=
  if legal : coupon.Legal then .ok { db with coupons := db.coupons.insert couponId ⟨coupon, legal⟩ }
  else .error (.database "CHK_coupons_usage")

def couponByCode (db : CouponsDb) (code : String) : Option (Uuid × CouponEntity) :=
  (db.coupons.entries.find? fun entry => entry.2.1.code = code).map fun entry => (entry.1, entry.2.1)

/-- The usage an order already has of the coupon with a code, joined with that coupon. -/
def existingClaim (db : CouponsDb) (orderId : Uuid) (code : String) : Option (CouponUsageEntity × CouponEntity) :=
  db.usages.findSome? fun usage => if usage.orderId = orderId then
    ((db.coupon usage.couponId).filter (·.code = code)).map fun coupon => (usage, coupon) else none

/-- `SELECT COUNT(*)` of a customer's usages of a coupon. -/
def usagesBy (db : CouponsDb) (couponId customerId : Uuid) : Nat :=
  db.usages.countP fun usage => usage.couponId = couponId ∧ usage.customerId = some customerId

end CouponsDb

structure CreatePromotionDto where
  code : String
  name : String
  discountType : PromotionDiscountType
  discountValue : Int
  minOrderAmount : Option Int := none
  maxDiscountAmount : Option Int := none
  branchId : Option Uuid := none
  startsAt : Option Nat := none
  endsAt : Option Nat := none

structure CreateCouponDto where
  promotionId : Uuid
  code : String
  maxUses : Option Nat := none
  maxUsesPerCustomer : Option Nat := none

def createPromotion (db : CouponsDb) (promotionId : Uuid) (dto : CreatePromotionDto) (scope : BranchScope) :
    Except Failure CouponsDb := do
  ensure (dto.branchId.all fun branchId => branchAllowed scope branchId) (.notFound .validationError "Branch not found")
  ensure (dto.discountType = .fixed → dto.discountValue % 100 = 0 ∧ isSafeInteger (dto.discountValue / 100))
    (.domain .validationError "A fixed promotion discount must be a whole number of VND" 422)
  ensure (dto.discountType = .percent → dto.discountValue ≤ 100 * 100)
    (.domain .invalidDiscount "Percentage promotion discount cannot exceed 100%" 422)
  let code := upperTrimmed dto.code
  ensure (∀ promotion ∈ db.promotions.rows, promotion.code ≠ code)
    (.domain .validationError s!"Promotion code {code} already exists" 409)
  ensure (db.promotions.lookup promotionId = none) (.database "PK_promotions_id")
  return { db with promotions := db.promotions.insert promotionId {
    code, name := trimmed dto.name, discountType := dto.discountType, discountValue := dto.discountValue
    minOrderAmount := dto.minOrderAmount.getD 0, maxDiscountAmount := dto.maxDiscountAmount, branchId := dto.branchId
    startsAt := dto.startsAt, endsAt := dto.endsAt, status := .active } }

def createCoupon (db : CouponsDb) (couponId : Uuid) (dto : CreateCouponDto) (scope : BranchScope) :
    Except Failure CouponsDb := do
  let promotion ← required (db.promotions.lookup dto.promotionId) (.domain .validationError "Promotion not found" 404)
  ensure (promotion.branchId.all fun branchId => branchAllowed scope branchId)
    (.domain .validationError "Promotion not found" 404)
  let code := upperTrimmed dto.code
  ensure (db.couponByCode code = none) (.domain .validationError s!"Coupon code {code} already exists" 409)
  ensure (db.coupons.lookup couponId = none) (.database "PK_coupons_id")
  db.writeCoupon couponId {
    promotionId := dto.promotionId, code, maxUses := dto.maxUses, maxUsesPerCustomer := dto.maxUsesPerCustomer
    usedCount := 0, status := .active }

/-- `calculateItemDiscount` for the two types a promotion has. -/
def calculatePromotionDiscount (lineGross : Int) (discountType : PromotionDiscountType) (discountValue : Int) :
    Except Failure Int :=
  match discountType with
  | .fixed => do
    ensure (discountValue % 100 = 0) (.domain .validationError
      s!"Invalid VND monetary amount (a whole number is required): {discountValue}/100" 422)
    let fixed ← parseVndAmount (discountValue / 100)
    ensure (fixed ≤ lineGross) (.domain .invalidDiscount
      s!"Item fixed discount ({fixed}) cannot exceed line gross ({lineGross})" 422)
    return fixed
  | .percent => do
    ensure (0 ≤ discountValue ∧ discountValue ≤ 100 * 100) (.domain .invalidDiscount
      s!"Item percentage discount must be between 0 and 100, got {discountValue}/100" 422)
    roundDivHalfUp (lineGross * discountValue) 10000

/-- The uses a coupon has left, in all and for a customer. -/
def assertUsesLeft (db : CouponsDb) (couponId : Uuid) (coupon : CouponEntity) (customerId : Option Uuid) :
    Except Failure Unit := do
  ensure (∀ limit ∈ coupon.maxUses, coupon.usedCount < limit)
    (.domain .couponUsageLimitExceeded s!"Coupon {coupon.code} usage limit has been reached" 409)
  ensure (∀ limit ∈ coupon.maxUsesPerCustomer, ∀ customer ∈ customerId, db.usagesBy couponId customer < limit)
    (.domain .couponUsageLimitExceeded
      s!"Customer has already reached the maximum redemptions for coupon {coupon.code}" 409)

/-- The promotion of a coupon, at this branch and at this time. -/
def assertPromotionApplies (promotion : PromotionEntity) (code : String) (branchId : Uuid) (now : Nat) :
    Except Failure Unit := do
  ensure (promotion.status = .active) (.domain .couponInvalid s!"Promotion for coupon {code} is not active" 409)
  ensure (promotion.branchId.all (· = branchId))
    (.domain .couponInvalid s!"Coupon {code} is not valid for branch {branchId}" 409)
  ensure (promotion.startsAt.all (· ≤ now)) (.domain .couponInvalid s!"Coupon {code} has not started yet" 409)
  ensure (promotion.endsAt.all (now ≤ ·)) (.domain .couponInvalid s!"Coupon {code} has expired" 409)

def capDiscount (maxDiscountAmount : Option Int) (discountVnd : Int) : Except Failure Int :=
  match maxDiscountAmount with
  | none => .ok discountVnd
  | some amount => do
    let capVnd ← parseVndAmount amount
    return min discountVnd capVnd

/-- The discount of a promotion on an amount, within its cap and within the amount. -/
def promotionDiscount (promotion : PromotionEntity) (code : String) (afterOrderDiscountVnd : Int) : Except Failure Int := do
  let baseVnd ← parseVndAmount afterOrderDiscountVnd
  let minOrderVnd ← parseVndAmount promotion.minOrderAmount
  ensure (minOrderVnd ≤ baseVnd) (.domain .couponInvalid
    s!"Minimum order amount of {minOrderVnd} VND not met for coupon {code}" 409)
  let discountVnd ← calculatePromotionDiscount baseVnd promotion.discountType promotion.discountValue
  let discountVnd ← capDiscount promotion.maxDiscountAmount discountVnd
  vndNumber (min discountVnd baseVnd)

def evaluateCoupon (db : CouponsDb) (now : Nat) (couponCode : String) (afterOrderDiscountVnd : Int) (branchId : Uuid)
    (customerId : Option Uuid) : Except Failure EvaluatedCouponResult := do
  let code := upperTrimmed couponCode
  let (couponId, coupon) ← required (db.couponByCode code)
    (.domain .couponInvalid s!"Coupon {code} is invalid or inactive" 409)
  ensure (coupon.status = .active) (.domain .couponInvalid s!"Coupon {code} is invalid or inactive" 409)
  assertUsesLeft db couponId coupon customerId
  let promotion ← required (db.promotions.lookup coupon.promotionId)
    (.domain .couponInvalid s!"Promotion for coupon {code} is not active" 409)
  assertPromotionApplies promotion code branchId now
  let discountAmountVnd ← promotionDiscount promotion code afterOrderDiscountVnd
  return { couponId, promotionId := coupon.promotionId, couponCode := code, discountAmountVnd }

/-- `used_count = used_count + 1` and the usage row, under `UQ_coupon_usages_order`. -/
def CouponsDb.recordUsage (db : CouponsDb) (evaluated : EvaluatedCouponResult) (orderId : Uuid) (customerId : Option Uuid) :
    Except Failure CouponsDb := do
  let coupon ← required (db.coupon evaluated.couponId) (.database "FK_coupon_usages_coupon")
  let db ← db.writeCoupon evaluated.couponId { coupon with usedCount := coupon.usedCount + 1 }
  ensure (∀ usage ∈ db.usages, usage.couponId = evaluated.couponId → usage.orderId ≠ orderId)
    (.database "UQ_coupon_usages_order")
  return { db with usages := db.usages ++ [{
    couponId := evaluated.couponId, orderId, customerId, discountAmount := evaluated.discountAmountVnd }] }

def redeemCouponWithinTransaction (db : CouponsDb) (now : Nat) (couponCode : String) (afterOrderDiscountVnd : Int)
    (branchId : Uuid) (customerId : Option Uuid) (orderId : Uuid) : Except Failure (CouponsDb × EvaluatedCouponResult) :=
  match db.existingClaim orderId (upperTrimmed couponCode) with
  | some (usage, coupon) => do
    let discountAmountVnd ← toMoney (some usage.discountAmount)
    return (db, { couponId := usage.couponId, promotionId := coupon.promotionId, couponCode := upperTrimmed couponCode
                  discountAmountVnd })
  | none => do
    let evaluated ← evaluateCoupon db now couponCode afterOrderDiscountVnd branchId customerId
    let db ← db.recordUsage evaluated orderId customerId
    return (db, evaluated)

/-- What the driver answers a `DELETE ... RETURNING` with: a pair, the rows first and then how many they are. -/
inductive DeleteAnswer where
  | rows (couponIds : List Uuid)
  | affected (count : Nat)

/-- `row.coupon_id`: neither a list of rows nor a number has such a field. -/
def DeleteAnswer.couponId : DeleteAnswer → Option Uuid
  | .rows _ => none
  | .affected _ => none

/-- `used_count = GREATEST(0, used_count - 1)`; no row has the id `NULL`. -/
def CouponsDb.countDown (db : CouponsDb) (couponId : Option Uuid) : Except Failure CouponsDb :=
  match couponId.bind fun couponId => (db.coupon couponId).map fun coupon => (couponId, coupon) with
  | some (couponId, coupon) => db.writeCoupon couponId { coupon with usedCount := coupon.usedCount - 1 }
  | none => .ok db

def releaseCouponClaimWithinTransaction (db : CouponsDb) (orderId : Uuid) : Except Failure CouponsDb := do
  let rows := db.usages.filter (·.orderId = orderId)
  let deleted : List DeleteAnswer := [.rows (rows.map (·.couponId)), .affected rows.length]
  let db := { db with usages := db.usages.filter (·.orderId ≠ orderId) }
  deleted.foldlM (fun db row => db.countDown row.couponId) db

inductive CouponOperation where
  | createPromotion (promotionId : Uuid) (dto : CreatePromotionDto) (scope : BranchScope)
  | createCoupon (couponId : Uuid) (dto : CreateCouponDto) (scope : BranchScope)
  | claim (now : Nat) (couponCode : String) (afterOrderDiscountVnd : Int) (branchId : Uuid) (customerId : Option Uuid)
      (orderId : Uuid)
  | release (orderId : Uuid)

def executeCoupon (db : CouponsDb) : CouponOperation → Except Failure CouponsDb
  | .createPromotion promotionId dto scope => Sales.createPromotion db promotionId dto scope
  | .createCoupon couponId dto scope => Sales.createCoupon db couponId dto scope
  | .claim now couponCode amount branchId customerId orderId =>
    Prod.fst <$> redeemCouponWithinTransaction db now couponCode amount branchId customerId orderId
  | .release orderId => releaseCouponClaimWithinTransaction db orderId

def performCoupon (db : CouponsDb) (operation : CouponOperation) : CouponsDb :=
  commit db (executeCoupon db operation)

def couponsAfter (operations : List CouponOperation) : CouponsDb :=
  operations.foldl performCoupon {}

end Sales
