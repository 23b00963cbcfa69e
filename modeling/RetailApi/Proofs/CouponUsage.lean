import RetailApi.Base.Keyed
import RetailApi.Base.Run
import RetailApi.Sales.Coupons

/-! The use counter of a coupon against its usage rows. A claim moves both by one; a release
takes rows away and leaves the counter where it was. -/

namespace Sales

open Transaction CouponsDb List

variable {db : CouponsDb}

def CouponsDb.usagesOf (db : CouponsDb) (couponId : Uuid) : Nat :=
  db.usages.countP fun usage => usage.couponId = couponId

def CouponsDb.Exact (db : CouponsDb) : Prop :=
  ∀ couponId coupon, db.coupon couponId = some coupon → coupon.usedCount = db.usagesOf couponId

structure CouponsDb.Limited (db : CouponsDb) : Prop where
  uses : ∀ couponId coupon, db.coupon couponId = some coupon → ∀ limit, coupon.maxUses = some limit → coupon.usedCount ≤ limit
  perCustomer : ∀ couponId coupon, db.coupon couponId = some coupon →
    ∀ limit, coupon.maxUsesPerCustomer = some limit → ∀ customerId, db.usagesBy couponId customerId ≤ limit
  once : (db.usages.map fun usage => (usage.couponId, usage.orderId)).Nodup

/-- The invariant of all runs: the limits hold, every row names a coupon, and no counter is below its rows. -/
structure CouponsDb.Booked (db : CouponsDb) : Prop extends db.Limited where
  known : ∀ usage ∈ db.usages, db.coupon usage.couponId ≠ none
  covered : ∀ couponId coupon, db.coupon couponId = some coupon → db.usagesOf couponId ≤ coupon.usedCount

theorem booked_empty : ({} : CouponsDb).Booked := by
  refine ⟨⟨?_, ?_, nodup_nil⟩, ?_, ?_⟩
  all_goals intros
  all_goals simp_all [coupon]

variable {couponId branchId : Uuid} {coupon : CouponEntity} {couponCode : String} {customerId : Option Uuid}

theorem writeCoupon_ok {after} (written : db.writeCoupon couponId coupon = .ok after) : coupon.Legal ∧ after.usages = db.usages ∧
      ∀ other, after.coupon other = if other = couponId then some coupon else db.coupon other := by
  unfold CouponsDb.writeCoupon at written
  split at written
  · next legal =>
    obtain rfl := Except.ok.inj written
    refine ⟨legal, rfl, fun other => ?_⟩
    simp only [CouponsDb.coupon, Table.lookup_insert_if]
    split <;> rfl
  · cases written

theorem couponByCode_ok {code} (found : db.couponByCode code = some (couponId, coupon)) : db.coupon couponId = some coupon := by
  obtain ⟨entry, listed, same⟩ := Option.map_eq_some_iff.mp found
  have stored : db.coupons.lookup entry.1 = some entry.2 := AList.mem_lookup_iff.mpr (mem_of_find?_eq_some listed)
  obtain ⟨rfl, rfl⟩ := Prod.mk.inj same
  simp [coupon, stored]

theorem evaluateCoupon_ok {now amount evaluated}
    (accepted : evaluateCoupon db now couponCode amount branchId customerId = .ok evaluated) :
    ∃ coupon, db.coupon evaluated.couponId = some coupon ∧ (∀ limit ∈ coupon.maxUses, coupon.usedCount < limit) ∧
      ∀ limit ∈ coupon.maxUsesPerCustomer, ∀ customer ∈ customerId, db.usagesBy evaluated.couponId customer < limit := by
  simp only [evaluateCoupon, assertUsesLeft, eq_ok] at accepted
  obtain ⟨⟨couponId, coupon⟩, found, _, _, _, ⟨_, left, leftForCustomer⟩, _, _, _, _, _, _, rfl⟩ := accepted
  exact ⟨coupon, couponByCode_ok found, left, leftForCustomer⟩

inductive CouponsDb.Step (db : CouponsDb) : CouponsDb → Prop where
  | unchanged {after} (coupons : ∀ couponId, after.coupon couponId = db.coupon couponId)
      (usages : after.usages = db.usages) : Step db after
  | created {after} (couponId : Uuid) (coupon : CouponEntity) (fresh : db.coupon couponId = none)
      (unused : coupon.usedCount = 0)
      (coupons : ∀ other, after.coupon other = if other = couponId then some coupon else db.coupon other)
      (usages : after.usages = db.usages) : Step db after
  | claimed {after} (usage : CouponUsageEntity) (coupon : CouponEntity)
      (found : db.coupon usage.couponId = some coupon)
      (left : ∀ limit ∈ coupon.maxUses, coupon.usedCount < limit)
      (leftForCustomer : ∀ limit ∈ coupon.maxUsesPerCustomer, ∀ customer ∈ usage.customerId,
        db.usagesBy usage.couponId customer < limit)
      (first : ∀ other ∈ db.usages, other.couponId = usage.couponId → other.orderId ≠ usage.orderId)
      (coupons : ∀ other, after.coupon other =
        if other = usage.couponId then some { coupon with usedCount := coupon.usedCount + 1 } else db.coupon other)
      (usages : after.usages = db.usages ++ [usage]) : Step db after

theorem createCoupon_step {after dto scope} (created : createCoupon db couponId dto scope = .ok after) : db.Step after := by
  simp only [createCoupon, eq_ok] at created
  obtain ⟨_, _, _, _, _, _, _, fresh, written⟩ := created
  obtain ⟨_, usages, coupons⟩ := writeCoupon_ok written
  exact .created couponId _ (by simp [coupon, fresh]) rfl coupons usages

theorem claim_step {now amount orderId after}
    (claimed : redeemCouponWithinTransaction db now couponCode amount branchId customerId orderId = .ok after) :
    db.Step after.1 := by
  unfold redeemCouponWithinTransaction at claimed
  split at claimed
  · simp only [eq_ok] at claimed
    obtain ⟨_, _, rfl⟩ := claimed
    exact .unchanged (fun _ => rfl) rfl
  · simp only [eq_ok] at claimed
    obtain ⟨evaluated, accepted, next, recorded, rfl⟩ := claimed
    obtain ⟨coupon, found, left, leftForCustomer⟩ := evaluateCoupon_ok accepted
    simp only [recordUsage, eq_ok, found, Option.some.injEq]
      at recorded
    obtain ⟨_, rfl, middle, written, _, first, rfl⟩ := recorded
    obtain ⟨_, usages, coupons⟩ := writeCoupon_ok written
    rw [usages] at first
    refine .claimed ⟨evaluated.couponId, orderId, customerId, evaluated.discountAmountVnd⟩ coupon found left
      leftForCustomer first coupons ?_
    rw [usages]

section Counts

variable {after : CouponsDb} {usage : CouponUsageEntity}

variable {couponId : Uuid}

section

variable (booked : db.Booked) (fresh : db.coupon couponId = none)
include booked fresh

theorem CouponsDb.Booked.unused :
    ∀ usage ∈ db.usages, usage.couponId ≠ couponId :=
  fun usage member same => booked.known usage member (same ▸ fresh)

theorem CouponsDb.Booked.usagesOf_fresh : db.usagesOf couponId = 0 :=
  countP_eq_zero.mpr fun usage member => by simp [booked.unused fresh usage member]

theorem CouponsDb.Booked.usagesBy_fresh
    (customerId : Uuid) : db.usagesBy couponId customerId = 0 :=
  countP_eq_zero.mpr fun usage member => by simp [booked.unused fresh usage member]

end

theorem usagesOf_congr (usages : after.usages = db.usages) (couponId : Uuid) :
    after.usagesOf couponId = db.usagesOf couponId := by
  rw [usagesOf, usages, usagesOf]

theorem usagesOf_append (usages : after.usages = db.usages ++ [usage]) (couponId : Uuid) :
    after.usagesOf couponId = db.usagesOf couponId + if couponId = usage.couponId then 1 else 0 := by
  simp only [usagesOf, usages, countP_append, countP_singleton, decide_eq_true_eq]
  by_cases same : couponId = usage.couponId
  · rw [if_pos same, if_pos same.symm]
  · rw [if_neg same, if_neg (Ne.symm same)]

theorem usagesBy_append (usages : after.usages = db.usages ++ [usage]) (couponId customerId : Uuid) :
    after.usagesBy couponId customerId =
      db.usagesBy couponId customerId + if couponId = usage.couponId ∧ usage.customerId = some customerId then 1 else 0 := by
  simp only [usagesBy, usages, countP_append, countP_singleton, decide_eq_true_eq]
  by_cases same : couponId = usage.couponId
  · simp only [same, true_and]
  · rw [if_neg (fun own => same own.1.symm), if_neg (fun own => same own.1)]

end Counts

section Kept

variable {after : CouponsDb} {couponId : Uuid} {coupon : CouponEntity} {usage : CouponUsageEntity}

theorem CouponsDb.Booked.unchanged (booked : db.Booked) (coupons : ∀ couponId, after.coupon couponId = db.coupon couponId)
    (usages : after.usages = db.usages) : after.Booked := by
  refine ⟨⟨?_, ?_, ?_⟩, ?_, ?_⟩
  · simpa only [coupons] using booked.uses
  · simpa only [coupons, usagesBy, usages] using booked.perCustomer
  · simpa only [usages] using booked.once
  · simpa only [coupons, usages] using booked.known
  · simpa only [coupons, usagesOf, usages] using booked.covered

theorem CouponsDb.Booked.created (booked : db.Booked) (fresh : db.coupon couponId = none) (unused : coupon.usedCount = 0)
    (coupons : ∀ other, after.coupon other = if other = couponId then some coupon else db.coupon other)
    (usages : after.usages = db.usages) : after.Booked := by
  have byCustomer : ∀ other customerId, after.usagesBy other customerId = db.usagesBy other customerId := fun _ _ => by
    rw [usagesBy, usages, usagesBy]
  refine ⟨⟨?_, ?_, ?_⟩, ?_, ?_⟩
  · intro other found present limit limited
    rw [coupons] at present
    split at present
    · cases present
      omega
    · exact booked.uses other found present limit limited
  · intro other found present limit limited customerId
    rw [coupons] at present
    rw [byCustomer]
    split at present
    · next same =>
      rw [same, booked.usagesBy_fresh fresh]
      omega
    · exact booked.perCustomer other found present limit limited customerId
  · simpa only [usages] using booked.once
  · intro usage member
    rw [usages] at member
    rw [coupons, if_neg (booked.unused fresh usage member)]
    exact booked.known usage member
  · intro other found present
    rw [coupons] at present
    rw [usagesOf_congr usages]
    split at present
    · next same =>
      rw [same, booked.usagesOf_fresh fresh]
      omega
    · exact booked.covered other found present

theorem CouponsDb.Step.booked (step : db.Step after) (booked : db.Booked) : after.Booked := by
  cases step with
  | unchanged coupons usages => exact booked.unchanged coupons usages
  | created couponId coupon fresh unused coupons usages => exact booked.created fresh unused coupons usages
  | claimed usage coupon found left leftForCustomer first coupons usages =>
    refine ⟨⟨?_, ?_, ?_⟩, ?_, ?_⟩
    · intro other claimed present limit limited
      rw [coupons] at present
      split at present
      · cases present
        exact left limit limited
      · exact booked.uses other claimed present limit limited
    · intro other claimed present limit limited customerId
      rw [coupons] at present
      rw [usagesBy_append usages]
      split at present
      · next same =>
        cases present
        by_cases theirs : usage.customerId = some customerId
        · have room := leftForCustomer limit limited customerId theirs
          rw [if_pos ⟨same, theirs⟩, same]
          omega
        · rw [if_neg (fun own => theirs own.2), same]
          exact booked.perCustomer usage.couponId coupon found limit limited customerId
      · next different =>
        rw [if_neg (fun own => different own.1)]
        exact booked.perCustomer other claimed present limit limited customerId
    · rw [usages]
      apply Keyed.nodup_append booked.once
      intro other inside same
      exact first other inside (Prod.mk.inj same).1 (Prod.mk.inj same).2
    · intro other member
      rw [coupons]
      split
      · simp
      · next different =>
        rw [usages, mem_append, mem_singleton] at member
        rcases member with earlier | rfl
        · exact booked.known other earlier
        · exact absurd rfl different
    · intro other claimed present
      rw [coupons] at present
      rw [usagesOf_append usages]
      split at present
      · next same =>
        cases present
        rw [if_pos same, same]
        exact Nat.succ_le_succ (booked.covered usage.couponId coupon found)
      · next different =>
        rw [if_neg different]
        exact booked.covered other claimed present

theorem CouponsDb.Step.exact_iff (step : db.Step after) (booked : db.Booked) : after.Exact ↔ db.Exact := by
  cases step with
  | unchanged coupons usages => simp only [Exact, coupons, usagesOf, usages]
  | created couponId coupon fresh unused coupons usages =>
    simp only [Exact, coupons, usagesOf_congr usages]
    constructor
    · intro counted other found present
      have different : other ≠ couponId := by
        rintro rfl
        simp [fresh] at present
      exact counted other found (by rwa [if_neg different])
    · intro counted other found present
      split at present
      · next same =>
        cases present
        rw [unused, same, booked.usagesOf_fresh fresh]
      · exact counted other found present
  | claimed usage coupon found left leftForCustomer first coupons usages =>
    simp only [Exact, coupons, usagesOf_append usages]
    constructor
    · intro counted other present stored
      by_cases same : other = usage.couponId
      · have own := counted other _ (by rw [if_pos same])
        rw [if_pos same] at own
        rw [same, found, Option.some.injEq] at stored
        rw [← stored]
        exact Nat.succ.inj own
      · have own := counted other present (by rwa [if_neg same])
        rwa [if_neg same, Nat.add_zero] at own
    · intro counted other present stored
      split at stored
      · next same =>
        cases stored
        rw [if_pos same, same]
        exact congrArg (· + 1) (counted usage.couponId coupon found)
      · next different =>
        rw [if_neg different]
        exact counted other present stored

end Kept

theorem countP_filter_lt {usages : List CouponUsageEntity} {usage} (member : usage ∈ usages) :
    (usages.filter (·.orderId ≠ usage.orderId)).countP (fun other => other.couponId = usage.couponId) <
      usages.countP fun other => other.couponId = usage.couponId := by
  induction usages with
  | nil => cases member
  | cons first rest inner =>
    have fewer : (rest.filter (·.orderId ≠ usage.orderId)).countP (fun other => other.couponId = usage.couponId) ≤
        rest.countP fun other => other.couponId = usage.couponId := filter_sublist.countP_le
    rcases mem_cons.mp member with rfl | later
    · rw [filter_cons_of_neg (by simp), countP_cons_of_pos (by simp)]
      omega
    · have rest_lt := inner later
      rw [filter_cons]
      split
      · rw [countP_cons, countP_cons]
        omega
      · rw [countP_cons]
        omega

theorem release_booked (booked : db.Booked) (orderId : Uuid) :
    ({ db with usages := db.usages.filter (·.orderId ≠ orderId) } : CouponsDb).Booked := by
  refine ⟨⟨booked.uses, ?_, ?_⟩, ?_, ?_⟩
  · intro couponId coupon found limit limited customerId
    exact le_trans (filter_sublist.countP_le) (booked.perCustomer couponId coupon found limit limited customerId)
  · exact booked.once.sublist (filter_sublist.map _)
  · exact fun usage member => booked.known usage (mem_of_mem_filter member)
  · intro couponId coupon found
    exact le_trans (filter_sublist.countP_le) (booked.covered couponId coupon found)

theorem release_exact_iff (booked : db.Booked) (orderId : Uuid) :
    ({ db with usages := db.usages.filter (·.orderId ≠ orderId) } : CouponsDb).Exact ↔
      db.Exact ∧ ∀ usage ∈ db.usages, usage.orderId ≠ orderId := by
  constructor
  · intro counted
    have kept : ∀ usage ∈ db.usages, usage.orderId ≠ orderId := by
      rintro usage member rfl
      obtain ⟨coupon, found⟩ := Option.ne_none_iff_exists'.mp (booked.known usage member)
      have exactly := counted usage.couponId coupon found
      have bound := booked.covered usage.couponId coupon found
      have fewer := countP_filter_lt member
      simp only [usagesOf] at exactly bound
      omega
    refine ⟨fun couponId coupon found => ?_, kept⟩
    have same := counted couponId coupon found
    have all : db.usages.filter (fun usage => usage.orderId ≠ orderId) = db.usages :=
      filter_eq_self.mpr fun usage member => by simpa using kept usage member
    simpa only [usagesOf, all] using same
  · rintro ⟨counted, kept⟩
    have all : db.usages.filter (fun usage => usage.orderId ≠ orderId) = db.usages :=
      filter_eq_self.mpr fun usage member => by simpa using kept usage member
    intro couponId coupon found
    simpa only [usagesOf, all] using counted couponId coupon found

def keepsUsages (db : CouponsDb) : CouponOperation → Prop
  | .release orderId => ∀ usage ∈ db.usages, usage.orderId ≠ orderId
  | _ => True

instance (db : CouponsDb) (operation : CouponOperation) : Decidable (keepsUsages db operation) := by
  unfold keepsUsages
  split <;> infer_instance

theorem executeCoupon_step {after operation} (forward : ∀ orderId, operation ≠ .release orderId)
    (ran : executeCoupon db operation = .ok after) : db.Step after := by
  cases operation with
  | createPromotion promotionId dto scope =>
    simp only [executeCoupon, createPromotion, eq_ok] at ran
    obtain ⟨_, _, _, _, _, _, _, _, _, _, rfl⟩ := ran
    exact .unchanged (fun _ => rfl) rfl
  | createCoupon couponId dto scope => exact createCoupon_step ran
  | claim now couponCode amount branchId customerId orderId =>
    simp only [executeCoupon, map_eq_ok] at ran
    obtain ⟨next, claimed, rfl⟩ := ran
    exact claim_step claimed
  | release orderId => exact absurd rfl (forward orderId)

theorem performCoupon_booked (booked : db.Booked) (operation : CouponOperation) : (performCoupon db operation).Booked := by
  by_cases releases : ∃ orderId, operation = .release orderId
  · obtain ⟨orderId, rfl⟩ := releases
    exact release_booked booked orderId
  · refine commit_preserves _ booked fun after ran => ?_
    exact (executeCoupon_step (fun orderId same => releases ⟨orderId, same⟩) ran).booked booked

theorem performCoupon_exact_iff (booked : db.Booked) (operation : CouponOperation) :
    (performCoupon db operation).Exact ↔ db.Exact ∧ keepsUsages db operation := by
  by_cases releases : ∃ orderId, operation = .release orderId
  · obtain ⟨orderId, rfl⟩ := releases
    exact release_exact_iff booked orderId
  · have free : keepsUsages db operation := by
      cases operation with
      | release orderId => exact absurd ⟨orderId, rfl⟩ releases
      | _ => trivial
    have same : (performCoupon db operation).Exact ↔ db.Exact := by
      unfold performCoupon commit
      split
      · next after ran =>
        exact (executeCoupon_step (fun orderId same => releases ⟨orderId, same⟩) ran).exact_iff booked
      · exact Iff.rfl
    rw [same]
    exact (and_iff_left free).symm

theorem couponsAfter_booked (operations : List CouponOperation) : (couponsAfter operations).Booked :=
  Run.invariant Booked (fun _ operation booked => performCoupon_booked booked operation) booked_empty operations

/-- After any claims and releases the limits hold and no order uses a coupon twice; the counters are the numbers of
usage rows exactly when no release ever met an order with a usage. -/
theorem coupon_counters_exact_iff (operations : List CouponOperation) :
    (couponsAfter operations).Exact ∧ (couponsAfter operations).Limited ↔
      Run.Meets performCoupon keepsUsages {} operations := by
  have limited := (couponsAfter_booked operations).toLimited
  have start : ({} : CouponsDb).Exact := by
    intro couponId coupon found
    simp [CouponsDb.coupon] at found
  have exactly : (couponsAfter operations).Exact ↔ ({} : CouponsDb).Exact ∧ Run.Meets performCoupon keepsUsages {} operations :=
    Run.iff_meets (fun _ operation booked => performCoupon_booked booked operation)
      (fun _ operation booked => performCoupon_exact_iff booked operation) booked_empty operations
  rw [exactly, and_iff_left limited, and_iff_right start]

/-- A coupon for anyone, claimed by order 7, whose cancellation releases it. -/
def claimedAndReleased : List CouponOperation :=
  [.createPromotion 1 { code := "tet", name := "Tet", discountType := .percent, discountValue := 1000 } none,
   .createCoupon 2 { promotionId := 1, code := "tet10", maxUses := some 1 } none,
   .claim 0 "TET10" 100000 1 none 7, .release 7]

theorem release_counts_nothing_down :
    ¬∀ operations, (couponsAfter operations).Exact ∧ (couponsAfter operations).Limited := by
  intro claim
  have counted := (claim claimedAndReleased).1
  have stale : ((couponsAfter claimedAndReleased).coupon 2).any
      (fun coupon => coupon.usedCount ≠ (couponsAfter claimedAndReleased).usagesOf 2) = true := by decide +kernel
  obtain ⟨coupon, found, wrong⟩ := (Option.any_eq_true _ _).mp stale
  exact of_decide_eq_true wrong (counted 2 coupon found)

end Sales
