import RetailApi.Proofs.LoyaltyBooks

/-! The points of one order: its sale and its returns may be told in any order. -/

namespace Customer

open Transaction JsNumber SalesEvent LoyaltyDb List Int Table Option

/-- What returns of `refunded` in all take back of the points of an order. -/
def reversedPoints (earned eligible refunded : Int) : Int :=
  if eligible ≤ refunded then earned else earned * refunded / eligible

variable {earned eligible refunded : Int}

theorem reversedPoints_zero (eligible refunded : Int) : reversedPoints 0 eligible refunded = 0 := by
  rw [reversedPoints, zero_mul, zero_ediv, ite_self]

theorem reversedPoints_start (positive : 0 < eligible) : reversedPoints earned eligible 0 = 0 := by
  rw [reversedPoints, if_neg (not_le.mpr positive), mul_zero, zero_ediv]

theorem reversedPoints_le (eligible : Int) (gained : 0 ≤ earned) (back : 0 ≤ refunded) : reversedPoints earned eligible refunded ≤ earned := by
  rw [reversedPoints]
  split
  · exact Int.le_refl _
  · next less =>
    have spend : 0 < eligible := by omega
    apply Int.ediv_le_of_le_mul spend
    exact Int.mul_le_mul_of_nonneg_left (by omega) gained

theorem reversedPoints_nonneg (eligible : Int) (gained : 0 ≤ earned) (back : 0 ≤ refunded) : 0 ≤ reversedPoints earned eligible refunded := by
  rw [reversedPoints]
  split
  · exact gained
  · exact ediv_nonneg (mul_nonneg gained back) (by omega)

theorem reversedPoints_mono (eligible : Int) {more} (gained : 0 ≤ earned) (back : 0 ≤ refunded) (grows : refunded ≤ more) :
    reversedPoints earned eligible refunded ≤ reversedPoints earned eligible more := by
  by_cases whole : eligible ≤ more
  · rw [reversedPoints.eq_def earned eligible more, if_pos whole]
    exact reversedPoints_le _ gained back
  · rw [reversedPoints, reversedPoints, if_neg whole, if_neg (by omega)]
    apply Int.ediv_le_ediv (by omega)
    exact Int.mul_le_mul_of_nonneg_left grows gained

theorem parseVndBigInt_whole {raw} (whole : IsSafe raw) (positive : 0 ≤ raw) : parseVndBigInt raw = .ok raw :=
  parseVndBigInt_eq_ok.mpr ⟨whole, positive, .inl rfl, rfl⟩

theorem safe_below {amount total} (positive : 0 ≤ amount) (below : amount ≤ total) (safe : IsSafe total) : IsSafe amount := by
  unfold IsSafe at safe ⊢
  omega

theorem calculateReturnPointReversal_cumulative {refund} (gained : 0 < earned) (spend : 0 < eligible)
    (exact : IsSafe eligible) (back : 0 ≤ refunded) (amount : 0 ≤ refund) (whole : IsSafe refund)
    (together : IsSafe (refunded + refund)) :
    calculateReturnPointReversal earned (reversedPoints earned eligible refunded) eligible refund (refunded + refund) =
      .ok (reversedPoints earned eligible (refunded + refund) - reversedPoints earned eligible refunded) := by
  have after := reversedPoints_le eligible (le_of_lt gained) (add_nonneg back amount)
  have grows := reversedPoints_mono eligible (le_of_lt gained) back (le_add_of_nonneg_right amount)
  rw [calculateReturnPointReversal]
  split
  · next done =>
    apply congrArg Except.ok
    omega
  · rw [parseVndBigInt_whole exact (le_of_lt spend), parseVndBigInt_whole whole amount]
    show (if _ then _ else _) = _
    split
    · next nothing =>
      have none : refund = 0 := by omega
      rw [none, add_zero, sub_self]
      rfl
    · rw [parseVndBigInt_whole together (add_nonneg back amount)]
      show (if _ then _ else _) = _
      split
      · next all =>
        rw [reversedPoints.eq_def earned eligible (refunded + refund), if_pos all] at after grows ⊢
        apply congrArg Except.ok
        omega
      · next part =>
        rw [reversedPoints.eq_def earned eligible (refunded + refund), if_neg part] at after grows ⊢
        apply congrArg Except.ok
        omega

structure Vacant (db : LoyaltyDb) (transactionType : LoyaltyTransactionType) (source : LoyaltySource) (key : LoyaltyKey) :
    Prop where
  key : ∀ row ∈ db.transactions, row.idempotencyKey ≠ key
  source : ∀ row ∈ db.transactions, row.transactionType = transactionType → row.sourceRefId ≠ source

def LoyaltyAccountEntity.Legal (account : LoyaltyAccountEntity) : Prop :=
  0 ≤ account.heldPoints ∧ 0 ≤ account.lifetimeEarnedPoints ∧ 0 ≤ account.lifetimeRedeemedPoints ∧ 0 ≤ account.qualifyingPoints

variable {db after start : LoyaltyDb} {customerId orderId : Uuid} {account : LoyaltyAccountEntity}

theorem LoyaltyAccountEntity.Legal.posted (legal : account.Legal) (pointsDelta : Int) : (account.posted pointsDelta).Legal := by
  obtain ⟨held, lifetime, redeemed, qualifying⟩ := legal
  refine ⟨held, ?_, redeemed, ?_⟩
  · show 0 ≤ if 0 < pointsDelta then account.lifetimeEarnedPoints + pointsDelta else account.lifetimeEarnedPoints
    split <;> omega
  · show 0 ≤ if 0 < pointsDelta then account.qualifyingPoints + pointsDelta else max 0 (account.qualifyingPoints + pointsDelta)
    split <;> omega

def LoyaltyDb.withPosted (db : LoyaltyDb) (account : LoyaltyAccountEntity) (row : LoyaltyTransactionEntity) : LoyaltyDb :=
  { db with
    accounts := db.accounts.insert row.customerId (account.posted row.pointsDelta), transactions := db.transactions ++ [row] }

theorem post_vacant (row : LoyaltyTransactionEntity) (legal : account.Legal)
    (vacant : Vacant db row.transactionType row.sourceRefId row.idempotencyKey) (moves : row.pointsDelta ≠ 0)
    (math : row.balanceBefore + row.pointsDelta = row.balanceAfter) :
    db.post account row = .ok (db.withPosted account row, account.posted row.pointsDelta) := by
  have saved : db.saveAccount row.customerId (account.posted row.pointsDelta) =
      .ok { db with accounts := db.accounts.insert row.customerId (account.posted row.pointsDelta) } :=
    bind_eq_ok.mpr ⟨(), ensure_eq_ok.mpr (legal.posted _), rfl⟩
  have filed : saveTransaction
      { db with accounts := db.accounts.insert row.customerId (account.posted row.pointsDelta) } row =
        .ok (db.withPosted account row) := by
    simp only [saveTransaction, eq_ok]
    exact ⟨(), vacant.key, (), vacant.source, (), moves, (), math, rfl⟩
  rw [post, saved]
  show (do let saved ← saveTransaction _ row; _) = _
  rw [filed]
  rfl

variable {transactionType : LoyaltyTransactionType} {source : LoyaltySource} {projection : PurchaseProjection}

theorem Vacant.withPosted {key}
    {row} (vacant : Vacant db transactionType source key) (otherKey : row.idempotencyKey ≠ key)
    (otherSource : row.sourceRefId ≠ source) : Vacant (db.withPosted account row) transactionType source key := by
  exact ⟨forall_concat vacant.key otherKey, forall_concat vacant.source fun _ => otherSource⟩

structure Earns (orderId : Uuid) (eligible earned : Int) (row : LoyaltyTransactionEntity) : Prop where
  points : row.pointsDelta = earned
  spend : row.eligibleSpendAmount = some eligible
  key : row.idempotencyKey = .earnOrder orderId

/-- What the ledger says of an order that earned `earned` points and lost `reversed` of them again, with `awaited` for the
returns that are still to come. -/
structure OrderLedger (start : LoyaltyDb) (customerId orderId : Uuid) (eligible earned reversed : Int) (awaited : List Uuid)
    (db : LoyaltyDb) : Prop where
  customers : db.customers = start.customers
  settings : db.settings = start.settings
  legal : ((db.accounts.lookup customerId).getD {}).Legal
  posted : db.posted customerId = start.posted customerId + earned - reversed
  reversed : db.reversedOf orderId = reversed
  unearned : earned = 0 → db.earnOf orderId = none ∧ Vacant db .earn (.order orderId) (.earnOrder orderId) ∧
    Vacant db .earnReversal (.deferred orderId) (.reversalDeferred orderId)
  earned : 0 < earned → (db.customers.lookup customerId).isSome = true ∧
    ∃ row, db.earnOf orderId = some row ∧ Earns orderId eligible earned row
  awaited : ∀ returnId ∈ awaited, Vacant db .earnReversal (.ofReturn returnId) (.reversalReturn returnId)

namespace OrderLedger

variable {reversed : Int} {awaited : List Uuid}

theorem of_same (ledger : OrderLedger start customerId orderId eligible earned reversed awaited db)
    (customers : after.customers = db.customers) (settings : after.settings = db.settings)
    (transactions : after.transactions = db.transactions)
    (accounts : (after.accounts.lookup customerId).getD {} = (db.accounts.lookup customerId).getD {}) :
    OrderLedger start customerId orderId eligible earned reversed awaited after := by
  have kept : after.posted customerId = db.posted customerId := by
    have read : ∀ db : LoyaltyDb, db.posted customerId = ((db.accounts.lookup customerId).getD {}).postedPointsBalance := by
      intro db
      rw [LoyaltyDb.posted]
      cases db.accounts.lookup customerId <;> rfl
    rw [read after, read db, accounts]
  have vacant : ∀ {transactionType source key}, Vacant db transactionType source key → Vacant after transactionType source key :=
    fun vacant => ⟨transactions ▸ vacant.key, transactions ▸ vacant.source⟩
  have earns : after.earnOf orderId = db.earnOf orderId := by rw [LoyaltyDb.earnOf, LoyaltyDb.earnOf, transactions]
  constructor
  · rw [customers, ledger.customers]
  · rw [settings, ledger.settings]
  · rw [accounts]
    exact ledger.legal
  · rw [kept, ledger.posted]
  · rw [LoyaltyDb.reversedOf, transactions]
    exact ledger.reversed
  · intro before
    obtain ⟨none, sale, deferred⟩ := ledger.unearned before
    exact ⟨earns.trans none, vacant sale, vacant deferred⟩
  · intro sold
    rw [customers, earns]
    exact ledger.earned sold
  · exact fun returnId member => vacant (ledger.awaited returnId member)

theorem narrow {fewer} (ledger : OrderLedger start customerId orderId eligible earned reversed awaited db)
    (subset : fewer ⊆ awaited) : OrderLedger start customerId orderId eligible earned reversed fewer db :=
  { ledger with awaited := fun returnId member => ledger.awaited returnId (subset member) }

theorem unsold {more} (ledger : OrderLedger start customerId orderId eligible 0 (reversedPoints 0 eligible refunded) awaited db) :
    OrderLedger start customerId orderId eligible 0 (reversedPoints 0 eligible more) awaited db := by
  rw [reversedPoints_zero] at ledger ⊢
  exact ledger

theorem ensured (ledger : OrderLedger start customerId orderId eligible earned reversed awaited db)
    (ensured : Ensured db customerId account after) :
    OrderLedger start customerId orderId eligible earned reversed awaited after ∧ account.Legal := by
  have same : (after.accounts.lookup customerId).getD {} = (db.accounts.lookup customerId).getD {} := by
    rw [ensured.found, ensured.old, getD_some]
  have kept := ledger.of_same (by rw [ensured.frame]) (by rw [ensured.frame]) (by rw [ensured.frame]) same
  have legal := kept.legal
  rw [ensured.found] at legal
  exact ⟨kept, legal⟩

theorem earn (ledger : OrderLedger start customerId orderId eligible 0 0 awaited db) (row : LoyaltyTransactionEntity)
    (found : db.accounts.lookup customerId = some account) (present : (db.customers.lookup customerId).isSome = true)
    (own : row.customerId = customerId) (kind : row.transactionType = .earn) (order : row.orderId = some orderId)
    (source : row.sourceRefId = .order orderId) (gained : 0 < earned) (earns : Earns orderId eligible earned row) :
    OrderLedger start customerId orderId eligible earned 0 awaited (db.withPosted account row) ∧
      Vacant (db.withPosted account row) .earnReversal (.deferred orderId) (.reversalDeferred orderId) := by
  subst own
  obtain ⟨none, _, deferred⟩ := ledger.unearned rfl
  have legal := ledger.legal
  rw [found] at legal
  have balance := ledger.posted
  rw [posted_of_lookup found] at balance
  have first : (db.withPosted account row).earnOf orderId = some row := by
    rw [earnOf, withPosted, find?_append, ← earnOf, none, none_or]
    exact find?_cons_of_pos (decide_eq_true ⟨order, kind⟩)
  refine ⟨⟨ledger.customers, ledger.settings, ?_, ?_, ?_, fun none => absurd none (ne_of_gt gained), fun _ =>
    ⟨present, row, first, earns⟩, fun returnId member => ?_⟩, deferred.withPosted ?_ ?_⟩
  · show (((db.accounts.insert row.customerId (account.posted row.pointsDelta)).lookup row.customerId).getD {}).Legal
    rw [lookup_insert_self]
    exact legal.posted _
  · rw [posted_insert db rfl, if_pos rfl, earns.points]
    show account.postedPointsBalance + earned = _
    omega
  · have apart : ¬(row.orderId = some orderId ∧ row.transactionType = .earnReversal) := by
      rw [kind]
      exact fun both => nomatch both.2
    rw [reversedOf, withPosted, filter_append, filter_cons_of_neg (by simpa using apart),
      filter_nil, append_nil]
    exact ledger.reversed
  · exact (ledger.awaited returnId member).withPosted (by rw [earns.key]; nofun) (by rw [source]; nofun)
  · rw [earns.key]
    nofun
  · rw [source]
    nofun

theorem takeBack (ledger : OrderLedger start customerId orderId eligible earned reversed awaited db)
    (row : LoyaltyTransactionEntity) {points} (fewer : List Uuid)
    (found : db.accounts.lookup customerId = some account) (own : row.customerId = customerId)
    (kind : row.transactionType = .earnReversal) (order : row.orderId = some orderId) (gained : 0 < earned)
    (amount : row.pointsDelta = -points) (positive : 0 < points)
    (others : ∀ returnId ∈ fewer, returnId ∈ awaited ∧ row.idempotencyKey ≠ .reversalReturn returnId ∧
      row.sourceRefId ≠ .ofReturn returnId) :
    OrderLedger start customerId orderId eligible earned (reversed + points) fewer (db.withPosted account row) := by
  subst own
  obtain ⟨present, sale, first, earns⟩ := ledger.earned gained
  have legal := ledger.legal
  rw [found] at legal
  have balance := ledger.posted
  rw [posted_of_lookup found] at balance
  refine ⟨ledger.customers, ledger.settings, ?_, ?_, ?_, fun none => absurd none (ne_of_gt gained), fun _ =>
    ⟨present, sale, ?_, earns⟩, fun returnId member => ?_⟩
  · show (((db.accounts.insert row.customerId (account.posted row.pointsDelta)).lookup row.customerId).getD {}).Legal
    rw [lookup_insert_self]
    exact legal.posted _
  · rw [posted_insert db rfl, if_pos rfl, amount]
    show account.postedPointsBalance + -points = _
    omega
  · have before := ledger.reversed
    have counts : decide (row.orderId = some orderId ∧ row.transactionType = .earnReversal) = true :=
      decide_eq_true ⟨order, kind⟩
    rw [reversedOf] at before
    rw [reversedOf, withPosted, filter_append, map_append, sum_append, before,
      filter_cons, if_pos counts, filter_nil, map_singleton, sum_singleton, amount, abs_neg,
      abs_of_pos positive]
  · rw [earnOf, withPosted, find?_append, ← earnOf, first]
    rfl
  · obtain ⟨waiting, otherKey, otherSource⟩ := others returnId member
    exact (ledger.awaited returnId waiting).withPosted otherKey otherSource

end OrderLedger

/-- What the projection of an order says after returns of `refunded` in all. -/
structure Seen (customerId : Uuid) (earned refunded : Int) (awaited : List Uuid) (projection : PurchaseProjection) : Prop where
  returned : projection.returnedAmount = refunded
  customer : projection.customerId = customerId
  untouched : earned = 0 → projection.reversedPoints = 0
  waits : ∀ returnId ∈ awaited, projection.lastEventId ≠ .ofReturn returnId

/-- Where the books of an order stand; `told` says whether its sale was heard of. -/
structure Progress (start : LoyaltyDb) (customerId orderId : Uuid) (told : Prop) (eligible earned refunded : Int)
    (awaited : List Uuid) (db : LoyaltyDb) : Prop where
  ledger : OrderLedger start customerId orderId eligible earned (reversedPoints earned eligible refunded) awaited db
  unseen : db.projections.lookup orderId = none → earned = 0 ∧ refunded = 0 ∧ (told → start.customer customerId = none)
  seen : ∀ projection, db.projections.lookup orderId = some projection → Seen customerId earned refunded awaited projection

variable {awaited : List Uuid} {told : Prop}

theorem OrderLedger.progress
    (ledger : OrderLedger start customerId orderId eligible earned (reversedPoints earned eligible refunded) awaited db)
    (seen : Seen customerId earned refunded awaited projection)
    (written : after.projections.lookup orderId = some projection) (rest : after = { db with projections := after.projections }) :
    Progress start customerId orderId told eligible earned refunded awaited after := by
  refine ⟨ledger.of_same (by rw [rest]) (by rw [rest]) (by rw [rest]) (by rw [rest]), fun none => ?_, fun found present => ?_⟩
  · cases written.symm.trans none
  · cases written.symm.trans present
    exact seen

theorem Vacant.transaction {key} (vacant : Vacant db transactionType source key) : db.transaction key = none :=
  find?_eq_none.mpr fun row member => by simpa using vacant.key row member

theorem ensureAccount_present (db : LoyaltyDb) (present : (db.customers.lookup customerId).isSome = true) :
    ∃ after account, db.ensureAccount customerId = .ok (after, account) := by
  rw [ensureAccount]
  split
  · exact ⟨_, _, rfl⟩
  · exact ⟨_, _, bind_eq_ok.mpr ⟨(), ensure_eq_ok.mpr present, rfl⟩⟩

structure Sold (eligible earned : Int) : Prop where
  gained : 0 ≤ earned
  spend : 0 < earned → 0 < eligible
  exact : IsSafe eligible

variable {ret : CompletedReturn}

theorem reverseEarned_told {earnTx} (sold : Sold eligible earned)
    (gained : 0 < earned) (back : 0 ≤ refunded) (amount : 0 ≤ ret.refundAmountVnd) (whole : IsSafe ret.refundAmountVnd)
    (together : IsSafe (refunded + ret.refundAmountVnd)) (fresh : ret.returnId ∉ awaited) (own : ret.orderId = orderId)
    (ledger : OrderLedger start customerId orderId eligible earned (reversedPoints earned eligible refunded)
      (ret.returnId :: awaited) db) (first : Earns orderId eligible earned earnTx)
    (seen : Seen customerId earned (refunded + ret.refundAmountVnd) awaited projection) :
    ∃ after outcome, reverseEarned db ret projection earnTx ret.refundAmountVnd = .ok (after, outcome) ∧
      Progress start customerId orderId told eligible earned (refunded + ret.refundAmountVnd) awaited after := by
  subst own
  have worth := calculateReturnPointReversal_cumulative gained (sold.spend gained) sold.exact back amount whole together
  have grows := reversedPoints_mono eligible sold.gained back (le_add_of_nonneg_right amount)
  obtain ⟨points, less⟩ : ∃ points, points = reversedPoints earned eligible (refunded + ret.refundAmountVnd) - reversedPoints earned eligible refunded :=
    ⟨_, rfl⟩
  rw [← less] at worth
  have reversed : calculateReturnPointReversal earnTx.pointsDelta (db.reversedOf ret.orderId)
      (earnTx.eligibleSpendAmount.getD projection.eligibleNetSpend) ret.refundAmountVnd projection.returnedAmount = .ok points := by
    rw [ledger.reversed, first.points, first.spend, getD_some, seen.returned]
    exact worth
  let seenAfter : PurchaseProjection := { projection with reversedPoints := db.reversedOf ret.orderId + points }
  let written : LoyaltyDb := { db with projections := db.projections.insert ret.orderId seenAfter }
  have kept : Seen customerId earned (refunded + ret.refundAmountVnd) awaited seenAfter :=
    ⟨seen.returned, seen.customer, fun none => absurd none (ne_of_gt gained), seen.waits⟩
  have narrowed := ledger.narrow (subset_cons_self ret.returnId awaited)
  have present : (written.customers.lookup projection.customerId).isSome = true := by
    rw [seen.customer]
    exact (ledger.earned gained).1
  rw [reverseEarned]
  by_cases nothing : points ≤ 0
  · have same : reversedPoints earned eligible refunded = reversedPoints earned eligible (refunded + ret.refundAmountVnd) := by
      omega
    rw [same] at narrowed
    refine ⟨written, ⟨0, false, false⟩, bind_eq_ok.mpr ⟨_, reversed, ?_⟩, ?_⟩
    · dsimp only
      rw [if_pos nothing]
      rfl
    · exact narrowed.progress kept (lookup_insert_self ..) rfl
  · obtain ⟨ensuredDb, account, ensured⟩ := ensureAccount_present written present
    have step := ensureAccount_ok ensured
    rw [seen.customer] at step
    have unchanged : OrderLedger start customerId _ eligible earned _ _ written := ledger.of_same rfl rfl rfl rfl
    obtain ⟨standing, legal⟩ := unchanged.ensured step
    let row := ret.reversalRow projection.customerId account earnTx points
    have posted := post_vacant row legal (standing.awaited ret.returnId (.head _))
      (neg_ne_zero.mpr (by omega)) rfl
    have taken := standing.takeBack row awaited step.found seen.customer rfl rfl gained rfl (by omega)
      fun returnId member => by
        have apart : ret.returnId ≠ returnId := fun same => fresh (same ▸ member)
        exact ⟨.tail _ member, fun same => apart (LoyaltyKey.reversalReturn.inj same),
          fun same => apart (LoyaltySource.ofReturn.inj same)⟩
    rw [less, add_sub_cancel] at taken
    refine ⟨ensuredDb.withPosted account row, ⟨points, false, false⟩, bind_eq_ok.mpr ⟨_, reversed, ?_⟩, ?_⟩
    · dsimp only
      rw [if_neg nothing]
      exact bind_eq_ok.mpr ⟨_, ensured, bind_eq_ok.mpr ⟨_, posted, rfl⟩⟩
    · refine taken.progress kept ?_ rfl
      rw [step.frame]
      exact lookup_insert_self ..

theorem processCompletedReturn_told (sold : Sold eligible earned) (back : 0 ≤ refunded) (amount : 0 ≤ ret.refundAmountVnd)
    (together : IsSafe (refunded + ret.refundAmountVnd)) (fresh : ret.returnId ∉ awaited) (own : ret.orderId = orderId)
    (customer : ret.customerId = some customerId)
    (progress : Progress start customerId orderId told eligible earned refunded (ret.returnId :: awaited) db) :
    ∃ after outcome, processCompletedReturn db ret = .ok (after, outcome) ∧
      Progress start customerId orderId told eligible earned (refunded + ret.refundAmountVnd) awaited after := by
  subst own
  have whole : IsSafe ret.refundAmountVnd := safe_below amount (by omega) together
  have first := (progress.ledger.awaited ret.returnId (.head _)).transaction
  have narrowed := progress.ledger.narrow (subset_cons_self ret.returnId awaited)
  have apart : ∀ returnId ∈ awaited, LastEvent.ofReturn ret.returnId ≠ .ofReturn returnId := fun returnId member same =>
    fresh (LastEvent.ofReturn.inj same ▸ member)
  rw [processCompletedReturn, first]
  rw [parseVndBigInt_whole whole amount]
  cases found : db.projections.lookup ret.orderId with
  | none =>
    obtain ⟨rfl, rfl, _⟩ := progress.unseen found
    rw [customer]
    refine ⟨_, _, rfl, narrowed.unsold.progress ?_
      (lookup_insert_self ..) rfl⟩
    exact ⟨(zero_add _).symm, rfl, fun _ => rfl, apart⟩
  | some projection =>
    have seen := progress.seen projection found
    have added : Seen customerId earned (refunded + ret.refundAmountVnd) awaited
        (projection.returned ret.returnId (refunded + ret.refundAmountVnd)) := ⟨rfl, seen.customer, seen.untouched, apart⟩
    have other := seen.waits ret.returnId (.head _)
    have before : parseVndBigInt projection.returnedAmount = .ok projection.returnedAmount := parseVndBigInt_whole
      (by rw [seen.returned]; exact safe_below back (by omega) together) (by rw [seen.returned]; exact back)
    have sum : toVndNumber (refunded + ret.refundAmountVnd) = .ok (refunded + ret.refundAmountVnd) :=
      toVndNumber_eq_ok.mpr ⟨together, rfl⟩
    rcases lt_or_eq_of_le sold.gained with gained | nothing
    · obtain ⟨_, earnTx, sale, earns⟩ := progress.ledger.earned gained
      obtain ⟨after, outcome, reversed, kept⟩ := reverseEarned_told sold gained back amount whole together fresh rfl
        progress.ledger earns added
      refine ⟨after, outcome, ?_, kept⟩
      show (if _ then _ else _) = _
      rw [if_neg other, before, seen.returned]
      show (do let returnedAmount ← toVndNumber (refunded + ret.refundAmountVnd); _) = _
      rw [sum]
      rw [sale]
      exact reversed
    · obtain ⟨unearned, _, _⟩ := progress.ledger.unearned nothing.symm
      let projections := db.projections.insert ret.orderId (projection.returned ret.returnId (refunded + ret.refundAmountVnd))
      let written : LoyaltyDb := { db with projections }
      refine ⟨written, ⟨0, false, true⟩, ?_, ?_⟩
      · show (if _ then _ else _) = _
        rw [if_neg other, before, seen.returned]
        show (do let returnedAmount ← toVndNumber (refunded + ret.refundAmountVnd); _) = _
        rw [sum]
        rw [unearned]
        rfl
      · rw [← nothing] at narrowed added ⊢
        exact narrowed.unsold.progress added (lookup_insert_self ..) rfl

variable {sale : CompletedSale}

theorem reverseDeferred_told (rate : Int) (projection : PurchaseProjection) (sold : Sold eligible earned) (gained : 0 < earned)
    (back : 0 ≤ refunded) (safe : IsSafe refunded) (own : sale.orderId = orderId) (customer : sale.customerId = customerId)
    (found : db.accounts.lookup customerId = some account) (untouched : projection.reversedPoints = 0)
    (deferred : Vacant db .earnReversal (.deferred orderId) (.reversalDeferred orderId))
    (ledger : OrderLedger start customerId orderId eligible earned 0 awaited db) :
    ∃ after points, reverseDeferred db sale ⟨earned, eligible, rate⟩ account projection refunded =
        .ok (after, { projection with reversedPoints := points }) ∧
      OrderLedger start customerId orderId eligible earned (reversedPoints earned eligible refunded) awaited after := by
  subst own customer
  have same : projection = { projection with reversedPoints := 0 } := by rw [← untouched]
  have legal := ledger.legal
  rw [found, getD_some] at legal
  have parsed := parseVndBigInt_whole safe back
  rw [reverseDeferred]
  by_cases returned : 0 < refunded
  · have worth := calculateReturnPointReversal_cumulative gained (sold.spend gained) sold.exact (le_refl 0)
      back safe (by rwa [zero_add])
    rw [reversedPoints_start (sold.spend gained), zero_add, sub_zero] at worth
    have conditions : 0 < refunded ∧ projection.reversedPoints = 0 := ⟨returned, untouched⟩
    by_cases some : 0 < reversedPoints earned eligible refunded
    · let row := sale.deferredRow ⟨earned, eligible, rate⟩ account (reversedPoints earned eligible refunded)
      have posted := post_vacant row legal deferred (neg_ne_zero.mpr (ne_of_gt some)) rfl
      have after := ledger.takeBack row awaited found rfl rfl rfl gained rfl some
        fun returnId member => ⟨member, by rintro ⟨⟩, by rintro ⟨⟩⟩
      rw [zero_add] at after
      refine ⟨db.withPosted account row, reversedPoints earned eligible refunded, bind_eq_ok.mpr ⟨_, parsed, ?_⟩, after⟩
      rw [if_pos conditions]
      exact bind_eq_ok.mpr ⟨_, worth, (if_pos some).trans (bind_eq_ok.mpr ⟨_, posted, rfl⟩)⟩
    · have least := reversedPoints_nonneg eligible sold.gained back
      have nothing : reversedPoints earned eligible refunded = 0 := by omega
      rw [nothing]
      refine ⟨db, 0, bind_eq_ok.mpr ⟨_, parsed, ?_⟩, ledger⟩
      rw [if_pos conditions, ← same]
      exact bind_eq_ok.mpr ⟨_, worth, if_neg some⟩
  · obtain rfl : refunded = 0 := by omega
    rw [reversedPoints_start (sold.spend gained)]
    refine ⟨db, 0, bind_eq_ok.mpr ⟨_, parsed, ?_⟩, ledger⟩
    rw [if_neg fun both => returned both.1, ← same]
    rfl

theorem earn_told (rate : Int) (sold : Sold eligible earned) (gained : 0 < earned) (back : 0 ≤ refunded)
    (safe : IsSafe refunded) (own : sale.orderId = orderId) (customer : sale.customerId = customerId)
    (found : db.accounts.lookup customerId = some account) (present : (db.customers.lookup customerId).isSome = true)
    (untouched : projection.reversedPoints = 0) (ledger : OrderLedger start customerId orderId eligible 0 0 awaited db) :
    ∃ after points, earn db sale ⟨earned, eligible, rate⟩ account projection refunded =
        .ok (after, { projection with reversedPoints := points }) ∧
      OrderLedger start customerId orderId eligible earned (reversedPoints earned eligible refunded) awaited after := by
  subst own customer
  have legal := ledger.legal
  rw [found, getD_some] at legal
  let row := sale.earnRow ⟨earned, eligible, rate⟩ account
  have posted := post_vacant row legal (ledger.unearned rfl).2.1 (ne_of_gt gained) rfl
  obtain ⟨grown, deferred⟩ := ledger.earn row found present rfl rfl rfl rfl gained ⟨rfl, rfl, rfl⟩
  obtain ⟨after, points, reversed, kept⟩ := reverseDeferred_told rate projection sold gained back safe
    rfl rfl (lookup_insert_self ..) untouched deferred grown
  rw [earn, if_pos gained]
  exact ⟨after, points, bind_eq_ok.mpr ⟨_, posted, reversed⟩, kept⟩

/-- What an order earns: nothing while the programme is off, or for a customer who is gone. -/
def LoyaltyDb.earns (db : LoyaltyDb) (customerId : Uuid) (eligible : Int) : Int :=
  if db.settings.isEnabled = true ∧ (db.customer customerId).isSome = true then eligible / db.settings.earnAmountPerPoint else 0

def LoyaltySettingEntity.Applicable (settings : LoyaltySettingEntity) : Prop :=
  0 < settings.earnAmountPerPoint ∧ IsSafe settings.earnAmountPerPoint

theorem calculateEarnedPoints_present (applicable : db.settings.Applicable) (present : (db.customer customerId).isSome = true)
    (spend : 0 ≤ eligible) (exact : IsSafe eligible) : calculateEarnedPoints eligible db.settings =
      .ok ⟨db.earns customerId eligible, eligible, db.settings.earnAmountPerPoint⟩ := by
  obtain ⟨positive, whole⟩ := applicable
  have points : (if db.settings.isEnabled = false ∨ eligible ≤ 0 then 0 else max 0 (eligible / db.settings.earnAmountPerPoint)) =
      db.earns customerId eligible := by
    have least := ediv_nonneg spend (le_of_lt positive)
    rw [earns]
    cases enabled : db.settings.isEnabled with
    | false => simp
    | true =>
      by_cases nothing : eligible ≤ 0
      · obtain rfl : eligible = 0 := by omega
        simp
      · simp [present, nothing, least]
  have rate : parseVndBigInt db.settings.earnAmountPerPoint false = .ok db.settings.earnAmountPerPoint :=
    parseVndBigInt_eq_ok.mpr ⟨whole, le_of_lt positive, .inr (ne_of_gt positive), rfl⟩
  refine bind_eq_ok.mpr ⟨_, parseVndBigInt_whole exact spend, bind_eq_ok.mpr ⟨_, rate,
    bind_eq_ok.mpr ⟨_, toVndNumber_eq_ok.mpr ⟨exact, rfl⟩, bind_eq_ok.mpr ⟨_, toVndNumber_eq_ok.mpr ⟨whole, rfl⟩, ?_⟩⟩⟩⟩
  rw [points]
  rfl

theorem earns_sold (customerId : Uuid) (applicable : db.settings.Applicable) (spend : 0 ≤ eligible) (exact : IsSafe eligible) :
    Sold eligible (db.earns customerId eligible) := by
  refine ⟨?_, fun gained => ?_, exact⟩
  · rw [earns]
    split
    · exact ediv_nonneg spend (le_of_lt applicable.1)
    · exact le_refl 0
  · rcases lt_or_eq_of_le spend with positive | nothing
    · exact positive
    · rw [earns, ← nothing, zero_ediv, ite_self] at gained
      omega

theorem processCompletedSale_again (gained : 0 < earned) (own : sale.orderId = orderId)
    (progress : Progress start customerId orderId told eligible earned refunded awaited db) : processCompletedSale db sale = .ok db := by
  obtain ⟨_, row, first, earns⟩ := progress.ledger.earned gained
  have stored : (db.transaction (.earnOrder sale.orderId)).isSome = true :=
    find?_isSome.mpr ⟨row, mem_of_find?_eq_some first, decide_eq_true (own ▸ earns.key)⟩
  obtain ⟨existing, found⟩ := isSome_iff_exists.mp stored
  rw [processCompletedSale, found]
  cases db.customer sale.customerId <;> rfl

theorem Progress.sold (progress : Progress start customerId orderId told eligible 0 refunded awaited db)
    (earnedPoints : EarnedPoints) (customer : sale.customerId = customerId) :
    ((db.projections.lookup orderId).map (·.returnedAmount)).getD 0 = refunded ∧
      (sale.projection earnedPoints (db.projections.lookup orderId)).reversedPoints = 0 ∧
      ∀ earned points, (earned = 0 → points = 0) → Seen customerId earned refunded awaited
        { sale.projection earnedPoints (db.projections.lookup orderId) with reversedPoints := points } := by
  cases found : db.projections.lookup orderId with
  | none =>
    obtain ⟨_, rfl, _⟩ := progress.unseen found
    exact ⟨rfl, rfl, fun _ _ untouched => ⟨rfl, customer, untouched, fun _ _ => nofun⟩⟩
  | some projection =>
    have seen := progress.seen projection found
    exact ⟨seen.returned, seen.untouched rfl, fun _ _ untouched => ⟨seen.returned, customer, untouched, fun _ _ => nofun⟩⟩

theorem processCompletedSale_told (applicable : start.settings.Applicable) (spend : 0 ≤ sale.eligibleNetSpendVnd)
    (exact : IsSafe sale.eligibleNetSpendVnd) (back : 0 ≤ refunded) (safe : IsSafe refunded) (own : sale.orderId = orderId)
    (customer : sale.customerId = customerId)
    (progress : Progress start customerId orderId told sale.eligibleNetSpendVnd 0 refunded awaited db) :
    ∃ after, processCompletedSale db sale = .ok after ∧ Progress start customerId orderId True sale.eligibleNetSpendVnd
      (start.earns customerId sale.eligibleNetSpendVnd) refunded awaited after := by
  subst own customer
  have sameCustomer : db.customer sale.customerId = start.customer sale.customerId := by
    rw [customer, customer, progress.ledger.customers]
  have unsold := (progress.ledger.unearned rfl).2.1.transaction
  rw [processCompletedSale, unsold]
  cases known : db.customer sale.customerId with
  | none =>
    refine ⟨db, rfl, ?_⟩
    have nothing : start.earns sale.customerId sale.eligibleNetSpendVnd = 0 := by
      rw [earns, ← sameCustomer, known, if_neg fun both => Bool.noConfusion both.2]
    rw [nothing]
    refine ⟨progress.ledger, fun missing => ?_, progress.seen⟩
    obtain ⟨unsold, unreturned, _⟩ := progress.unseen missing
    exact ⟨unsold, unreturned, fun _ => sameCustomer.symm.trans known⟩
  | some profile =>
    have listed : (db.customers.lookup sale.customerId).isSome = true := by
      cases missing : db.customers.lookup sale.customerId with
      | none =>
        rw [customer, missing] at known
        cases known
      | some _ => rfl
    obtain ⟨ensuredDb, account, ensured⟩ := ensureAccount_present db listed
    have step := ensureAccount_ok ensured
    obtain ⟨standing, _⟩ := progress.ledger.ensured step
    have settings : ensuredDb.settings = start.settings := standing.settings
    have customers : ensuredDb.customers = start.customers := standing.customers
    have points : calculateEarnedPoints sale.eligibleNetSpendVnd ensuredDb.settings = .ok ⟨start.earns sale.customerId
        sale.eligibleNetSpendVnd, sale.eligibleNetSpendVnd, start.settings.earnAmountPerPoint⟩ := by
      rw [settings]
      refine calculateEarnedPoints_present applicable ?_ spend exact
      rw [← sameCustomer, known]
      rfl
    have sold := earns_sold sale.customerId applicable spend exact
    obtain ⟨returned, untouched, seen⟩ := progress.sold
      ⟨start.earns sale.customerId sale.eligibleNetSpendVnd, sale.eligibleNetSpendVnd, start.settings.earnAmountPerPoint⟩ rfl
    have projections : ensuredDb.projections = db.projections := by rw [step.frame]
    rw [← projections] at returned untouched seen
    let found := sale.projection ⟨start.earns sale.customerId sale.eligibleNetSpendVnd, sale.eligibleNetSpendVnd,
      start.settings.earnAmountPerPoint⟩ (ensuredDb.projections.lookup sale.orderId)
    rcases lt_or_eq_of_le sold.gained with gained | nothing
    · rw [reversedPoints_zero] at standing
      obtain ⟨after, reversed, earned, kept⟩ := earn_told start.settings.earnAmountPerPoint sold gained back safe rfl rfl
        step.found (by rw [customers, ← progress.ledger.customers]; exact listed) untouched standing
      let written : LoyaltyDb := { after with
        projections := after.projections.insert sale.orderId { found with reversedPoints := reversed } }
      refine ⟨written, bind_eq_ok.mpr ⟨_, ensured, bind_eq_ok.mpr ⟨_, points,
        bind_eq_ok.mpr ⟨(after, { found with reversedPoints := reversed }), ?_, rfl⟩⟩⟩,
        kept.progress (seen _ reversed (fun none => absurd none (ne_of_gt gained))) (lookup_insert_self ..) rfl⟩
      rw [returned]
      exact earned
    · let written : LoyaltyDb := { ensuredDb with projections := ensuredDb.projections.insert sale.orderId found }
      have same : found = { found with reversedPoints := 0 } := by rw [← untouched]
      have nothingEarned : ¬0 < start.earns sale.customerId sale.eligibleNetSpendVnd := by omega
      refine ⟨written, bind_eq_ok.mpr ⟨_, ensured, bind_eq_ok.mpr ⟨_, points, bind_eq_ok.mpr ⟨(ensuredDb, found), ?_, rfl⟩⟩⟩, ?_⟩
      · exact if_neg nothingEarned
      · rw [← nothing]
        refine standing.progress (seen 0 0 fun _ => rfl) ?_ rfl
        exact (lookup_insert_self ..).trans (congrArg some same)

def SalePayload.eligibleSpend (p : SalePayload) : Int :=
  eligibleNetSpend (if p.subtotal = 0 then max 0 p.totalAmount else p.subtotal) p.discountTotal

def Amount (amount : Int) : Prop := 0 ≤ amount ∧ IsSafe amount

structure OrderStory where
  p : SalePayload
  customerId : Uuid
  returns : List CompletedReturn
  customer : p.customerId = some customerId
  amounts : Amount p.subtotal ∧ Amount p.discountTotal ∧ Amount p.grandTotal ∧ Amount p.totalAmount
  own : ∀ ret ∈ returns, ret.orderId = p.orderId ∧ ret.customerId = some customerId ∧ 0 ≤ ret.refundAmountVnd
  once : (returns.map (·.returnId)).Nodup
  refunds : IsSafe (returns.map (·.refundAmountVnd)).sum

def SalesEvent.returned : SalesEvent → Option CompletedReturn
  | .returnCompleted _ ret => some ret
  | .orderCompleted .. | .checkoutCompleted .. => none

inductive OrderStory.Tells (story : OrderStory) : SalesEvent → Prop
  | orderCompleted (eventId : Uuid) : story.Tells (.orderCompleted eventId story.p)
  | checkoutCompleted (eventId : Uuid) : story.Tells (.checkoutCompleted eventId story.p)
  | returnCompleted (eventId : Uuid) {ret} (member : ret ∈ story.returns) : story.Tells (.returnCompleted eventId ret)

theorem eligibleNetSpend_amount {subtotalVnd discountVnd} (subtotal : Amount subtotalVnd) (discount : Amount discountVnd) :
    Amount (eligibleNetSpend subtotalVnd discountVnd) := by
  rw [eligibleNetSpend]
  obtain ⟨least, safe⟩ := subtotal
  split
  · exact ⟨by omega, safe_below (by omega) (sub_le_self _ discount.1) safe⟩
  · exact ⟨le_refl 0, safe_below (le_refl 0) least safe⟩

theorem columnOr_amount {column other} (amount : Amount column) : columnOr column other = .ok (if column = 0 then other else column) := by
  rw [columnOr]
  split
  · rfl
  · exact parseVndBigInt_whole amount.2 amount.1

variable {story : OrderStory}

theorem OrderStory.eligible_amount (story : OrderStory) : Amount story.p.eligibleSpend := by
  obtain ⟨subtotal, discount, _, total⟩ := story.amounts
  rw [SalePayload.eligibleSpend]
  split
  · rw [max_eq_right total.1]
    exact eligibleNetSpend_amount total discount
  · exact eligibleNetSpend_amount subtotal discount

theorem onSalesOrderCompleted_sale (db : LoyaltyDb) (story : OrderStory) (eventId : Uuid) : ∃ sale : CompletedSale,
    onSalesOrderCompleted db eventId story.p = processCompletedSale db sale ∧ sale.orderId = story.p.orderId ∧
      sale.customerId = story.customerId ∧ sale.eligibleNetSpendVnd = story.p.eligibleSpend := by
  obtain ⟨subtotal, discount, grand, total⟩ := story.amounts
  have counts := story.eligible_amount
  have whole : Amount (if story.p.grandTotal = 0 then max 0 story.p.totalAmount else story.p.grandTotal) := by
    split
    · rw [max_eq_right total.1]
      exact total
    · exact grand
  have discounted : (if story.p.discountTotal = 0 then 0 else story.p.discountTotal) = story.p.discountTotal := by
    split
    · next none => exact none.symm
    · rfl
  refine ⟨story.p.sale eventId story.customerId "POS"
    (if story.p.grandTotal = 0 then max 0 story.p.totalAmount else story.p.grandTotal) story.p.eligibleSpend, ?_, rfl, rfl, rfl⟩
  rw [onSalesOrderCompleted, story.customer]
  rw [columnOr_amount subtotal, columnOr_amount discount, columnOr_amount grand, discounted]
  show (do
    let originalOrderTotalVnd ← toVndNumber (if story.p.grandTotal = 0 then max 0 story.p.totalAmount else story.p.grandTotal)
    let spend ← toVndNumber story.p.eligibleSpend
    processCompletedSale db (story.p.sale eventId story.customerId "POS" originalOrderTotalVnd spend)) = _
  rw [toVndNumber_eq_ok.mpr ⟨whole.2, rfl⟩, toVndNumber_eq_ok.mpr ⟨counts.2, rfl⟩]
  rfl

theorem onSalesCheckoutCompleted_sale (db : LoyaltyDb) (story : OrderStory) (eventId : Uuid) : ∃ sale : CompletedSale,
    onSalesCheckoutCompleted db eventId story.p = processCompletedSale db sale ∧ sale.orderId = story.p.orderId ∧
      sale.customerId = story.customerId ∧ (sale.eligibleNetSpendVnd = story.p.eligibleSpend ∨ sale.eligibleNetSpendVnd = 0) := by
  obtain ⟨subtotal, discount, grand, _⟩ := story.amounts
  have counts := eligibleNetSpend_amount subtotal discount
  refine ⟨story.p.sale eventId story.customerId story.p.channelType story.p.grandTotal
    (eligibleNetSpend story.p.subtotal story.p.discountTotal), ?_, rfl, rfl, ?_⟩
  · rw [onSalesCheckoutCompleted, story.customer]
    rw [parseVndBigInt_whole subtotal.2 subtotal.1, parseVndBigInt_whole discount.2 discount.1,
      parseVndBigInt_whole grand.2 grand.1]
    show (do
      let originalOrderTotalVnd ← toVndNumber story.p.grandTotal
      let spend ← toVndNumber (eligibleNetSpend story.p.subtotal story.p.discountTotal)
      processCompletedSale db (story.p.sale eventId story.customerId story.p.channelType originalOrderTotalVnd spend)) = _
    rw [toVndNumber_eq_ok.mpr ⟨grand.2, rfl⟩, toVndNumber_eq_ok.mpr ⟨counts.2, rfl⟩]
    rfl
  · show eligibleNetSpend _ _ = _ ∨ eligibleNetSpend _ _ = 0
    by_cases free : story.p.subtotal = 0
    · rw [free, eligibleNetSpend, if_neg (not_lt.mpr discount.1)]
      exact .inr rfl
    · rw [SalePayload.eligibleSpend, if_neg free]
      exact .inl rfl

theorem Progress.respent {spend} (progress : Progress start customerId orderId told eligible 0 refunded awaited db) :
    Progress start customerId orderId told spend 0 refunded awaited db := by
  obtain ⟨ledger, unseen, seen⟩ := progress
  rw [reversedPoints_zero] at ledger
  refine ⟨?_, unseen, seen⟩
  rw [reversedPoints_zero]
  exact { ledger with earned := fun gained => absurd gained (lt_irrefl 0) }

theorem earns_nothing (db : LoyaltyDb) (customerId : Uuid) : db.earns customerId 0 = 0 := by
  rw [earns, zero_ediv, ite_self]

theorem sale_told (applicable : start.settings.Applicable) (spend : Amount eligible) (back : 0 ≤ refunded)
    (safe : IsSafe refunded) (own : sale.orderId = orderId) (customer : sale.customerId = customerId)
    (agrees : sale.eligibleNetSpendVnd = eligible ∨ sale.eligibleNetSpendVnd = 0)
    (reached : earned = 0 ∨ earned = start.earns customerId eligible)
    (progress : Progress start customerId orderId told eligible earned refunded awaited db) :
    ∃ after now, processCompletedSale db sale = .ok after ∧
      Progress start customerId orderId True eligible now refunded awaited after ∧
      (now = 0 ∨ now = start.earns customerId eligible) ∧
      (earned = start.earns customerId eligible ∨ sale.eligibleNetSpendVnd = eligible → now = start.earns customerId eligible) := by
  have least := (earns_sold customerId applicable spend.1 spend.2).gained
  by_cases gained : 0 < earned
  · have all : earned = start.earns customerId eligible := by omega
    refine ⟨db, earned, processCompletedSale_again gained own progress, ⟨progress.ledger, fun missing => ?_, progress.seen⟩,
      reached, fun _ => all⟩
    obtain ⟨unsold, _⟩ := progress.unseen missing
    omega
  · obtain rfl : earned = 0 := by omega
    by_cases whole : sale.eligibleNetSpendVnd = eligible
    · subst whole
      obtain ⟨after, processed, kept⟩ := processCompletedSale_told applicable spend.1 spend.2 back safe own customer progress
      exact ⟨after, _, processed, kept, .inr rfl, fun _ => rfl⟩
    · have nothing : sale.eligibleNetSpendVnd = 0 := agrees.resolve_left whole
      obtain ⟨after, processed, kept⟩ := processCompletedSale_told applicable (le_of_eq nothing.symm)
        (safe_below (le_of_eq nothing.symm) (nothing ▸ spend.1) spend.2) back safe own customer progress.respent
      rw [nothing, earns_nothing] at kept
      exact ⟨after, 0, processed, kept.respent, .inl rfl, fun either => either.resolve_right whole⟩

def refundsOf (events : List SalesEvent) : Int := ((events.filterMap returned).map (·.refundAmountVnd)).sum

def returnsOf (events : List SalesEvent) : List Uuid := (events.filterMap returned).map (·.returnId)

theorem refundsOf_nonneg {events} (each : ∀ event ∈ events, story.Tells event) : 0 ≤ refundsOf events := by
  refine sum_nonneg (forall_mem_map.mpr fun ret listed => ?_)
  obtain ⟨event, inside, returned⟩ := mem_filterMap.mp listed
  cases each event inside with
  | orderCompleted => cases returned
  | checkoutCompleted => cases returned
  | returnCompleted eventId own =>
    cases returned
    exact (story.own _ own).2.2

theorem events_told {events} (each : ∀ event ∈ events, story.Tells event) (once : (returnsOf events).Nodup)
    (applicable : start.settings.Applicable) (back : 0 ≤ refunded) (safe : IsSafe (refunded + refundsOf events))
    (reached : earned = 0 ∨ earned = start.earns story.customerId story.p.eligibleSpend)
    (progress : Progress start story.customerId story.p.orderId told story.p.eligibleSpend earned refunded (returnsOf events) db) :
    ∃ now heard, Progress start story.customerId story.p.orderId heard story.p.eligibleSpend now (refunded + refundsOf events) []
        (Run.after deliverSales db events) ∧ (told → heard) ∧
      (earned = start.earns story.customerId story.p.eligibleSpend → now = start.earns story.customerId story.p.eligibleSpend) ∧
      ∀ eventId, .orderCompleted eventId story.p ∈ events → heard ∧ now = start.earns story.customerId story.p.eligibleSpend := by
  induction events generalizing db earned refunded told with
  | nil =>
    rw [refundsOf, filterMap_nil, map_nil, sum_nil, add_zero]
    exact ⟨earned, told, progress, id, id, nofun⟩
  | cons event events inner =>
    have rest : ∀ other ∈ events, story.Tells other := fun other member => each other (.tail _ member)
    have spend := story.eligible_amount
    have more := refundsOf_nonneg rest
    cases each event (.head _) with
    | orderCompleted eventId =>
      obtain ⟨sale, same, own, customer, whole⟩ := onSalesOrderCompleted_sale db story eventId
      obtain ⟨after, now, processed, kept, among, points⟩ := sale_told applicable spend back (safe_below back
        (le_add_of_nonneg_right more) safe) own customer (.inl whole) reached progress
      have delivered : deliverSales db (.orderCompleted eventId story.p) = after := by
        rw [deliverSales, same, processed]
        rfl
      rw [← delivered] at kept
      obtain ⟨last, heard, ended, hears, stays, told⟩ := inner rest once back safe among kept
      have all := stays (points (.inr whole))
      exact ⟨last, heard, ended, fun _ => hears trivial, fun _ => all, fun _ _ => ⟨hears trivial, all⟩⟩
    | checkoutCompleted eventId =>
      obtain ⟨sale, same, own, customer, agrees⟩ := onSalesCheckoutCompleted_sale db story eventId
      obtain ⟨after, now, processed, kept, among, points⟩ := sale_told applicable spend back (safe_below back
        (le_add_of_nonneg_right more) safe) own customer agrees reached progress
      have delivered : deliverSales db (.checkoutCompleted eventId story.p) = after := by
        rw [deliverSales, same, processed]
        rfl
      rw [← delivered] at kept
      obtain ⟨last, heard, ended, hears, stays, told⟩ := inner rest once back safe among kept
      exact ⟨last, heard, ended, fun _ => hears trivial, fun all => stays (points (.inl all)), fun other member =>
        told other ((mem_cons.mp member).resolve_left nofun)⟩
    | @returnCompleted eventId ret listed =>
      obtain ⟨own, customer, amount⟩ := story.own ret listed
      obtain ⟨fresh, onceMore⟩ := nodup_cons.mp once
      have sum : refunded + refundsOf (.returnCompleted eventId ret :: events) =
          refunded + ret.refundAmountVnd + refundsOf events := (add_assoc ..).symm
      rw [sum] at safe ⊢
      have sold : Sold story.p.eligibleSpend earned := by
        rcases reached with nothing | all
        · subst nothing
          exact ⟨le_refl 0, fun gained => absurd gained (lt_irrefl 0), spend.2⟩
        · subst all
          exact earns_sold _ applicable spend.1 spend.2
      have now : 0 ≤ refunded + ret.refundAmountVnd := add_nonneg back amount
      obtain ⟨after, outcome, processed, kept⟩ := processCompletedReturn_told sold back amount (safe_below now
        (le_add_of_nonneg_right more) safe) fresh own customer progress
      have delivered : deliverSales db (.returnCompleted eventId ret) = after := by
        rw [deliverSales, processed]
        rfl
      rw [← delivered] at kept
      obtain ⟨last, heard, ended, hears, stays, told⟩ := inner rest onceMore now safe reached kept
      exact ⟨last, heard, ended, hears, stays, fun other member => told other ((mem_cons.mp member).resolve_left nofun)⟩

/-- No event of the order was applied before, and the account is one that the table admits. -/
structure LoyaltyDb.Untold (db : LoyaltyDb) (story : OrderStory) : Prop where
  account : ((db.accounts.lookup story.customerId).getD {}).Legal
  projection : db.projections.lookup story.p.orderId = none
  points : ∀ row ∈ db.transactions, row.orderId = some story.p.orderId →
    row.transactionType ≠ .earn ∧ row.transactionType ≠ .earnReversal
  sale : Vacant db .earn (.order story.p.orderId) (.earnOrder story.p.orderId)
  deferred : Vacant db .earnReversal (.deferred story.p.orderId) (.reversalDeferred story.p.orderId)
  returns : ∀ returnId ∈ story.returns.map (·.returnId), Vacant db .earnReversal (.ofReturn returnId) (.reversalReturn returnId)

theorem LoyaltyDb.Untold.progress (untold : db.Untold story) : Progress db story.customerId story.p.orderId False
    story.p.eligibleSpend 0 0 (story.returns.map (·.returnId)) db := by
  refine ⟨⟨rfl, rfl, untold.account, ?_, ?_, fun _ => ⟨?_, untold.sale, untold.deferred⟩, fun gained =>
    absurd gained (lt_irrefl 0), untold.returns⟩, fun _ => ⟨rfl, rfl, False.elim⟩, fun projection found => ?_⟩
  · rw [reversedPoints_zero]
    omega
  · rw [reversedPoints_zero, reversedOf, filter_eq_nil_iff.mpr]
    · rfl
    · intro row member both
      obtain ⟨own, kind⟩ := of_decide_eq_true both
      exact (untold.points row member own).2 kind
  · apply find?_eq_none.mpr
    intro row member both
    obtain ⟨own, kind⟩ := of_decide_eq_true both
    exact (untold.points row member own).1 kind
  · rw [untold.projection] at found
    cases found

/-- The events that tell of an order: its completion, its checkout and each of its returns. -/
def OrderStory.events (story : OrderStory) (orderEvent checkoutEvent : Uuid) (returnEvent : Uuid → Uuid) : List SalesEvent :=
  .orderCompleted orderEvent story.p :: .checkoutCompleted checkoutEvent story.p ::
    story.returns.map fun ret => .returnCompleted (returnEvent ret.returnId) ret

theorem OrderStory.events_returned (story : OrderStory) (orderEvent checkoutEvent : Uuid) (returnEvent : Uuid → Uuid) :
    (story.events orderEvent checkoutEvent returnEvent).filterMap returned = story.returns := by
  show (story.returns.map _).filterMap returned = story.returns
  rw [filterMap_map]
  exact filterMap_some

def OrderStory.refundTotal (story : OrderStory) : Int := (story.returns.map (·.refundAmountVnd)).sum

/-- Whatever order the sale and the returns of an order are told in, its customer ends with the points of the spend less those
of the refunds, and its projection with the refunds. -/
theorem points_in_any_order (story : OrderStory) {db : LoyaltyDb} (untold : db.Untold story)
    (applicable : db.settings.Applicable) (orderEvent checkoutEvent : Uuid) (returnEvent : Uuid → Uuid)
    {events : List SalesEvent} (told : events.Perm (story.events orderEvent checkoutEvent returnEvent)) :
    (Run.after deliverSales db events).posted story.customerId = db.posted story.customerId +
        db.earns story.customerId story.p.eligibleSpend -
        reversedPoints (db.earns story.customerId story.p.eligibleSpend) story.p.eligibleSpend story.refundTotal ∧
      (((Run.after deliverSales db events).projections.lookup story.p.orderId).map (·.returnedAmount)).getD 0 = story.refundTotal ∧
      ((db.customer story.customerId).isSome = true →
        ((Run.after deliverSales db events).projections.lookup story.p.orderId).isSome = true) := by
  have returns := told.filterMap returned
  rw [story.events_returned] at returns
  have each : ∀ event ∈ events, story.Tells event := by
    intro event member
    rcases mem_cons.mp (told.mem_iff.mp member) with rfl | other
    · exact .orderCompleted orderEvent
    · rcases mem_cons.mp other with rfl | back
      · exact .checkoutCompleted checkoutEvent
      · obtain ⟨ret, listed, rfl⟩ := mem_map.mp back
        exact .returnCompleted _ listed
  have once : (returnsOf events).Nodup := (returns.map _).nodup_iff.mpr story.once
  have sum : 0 + refundsOf events = story.refundTotal := by
    rw [zero_add]
    exact (returns.map _).sum_eq
  have start := untold.progress
  have narrowed : Progress db story.customerId story.p.orderId False story.p.eligibleSpend 0 0 (returnsOf events) db :=
    ⟨start.ledger.narrow fun returnId member => (returns.map _).mem_iff.mp member, start.unseen, fun projection found => by
      rw [untold.projection] at found
      cases found⟩
  obtain ⟨now, heard, ended, _, _, all⟩ := events_told each once applicable (le_refl 0) (sum ▸ story.refunds) (.inl rfl) narrowed
  rw [sum] at ended
  obtain ⟨hears, rfl⟩ := all orderEvent (told.mem_iff.mpr (.head _))
  refine ⟨ended.ledger.posted, ?_, fun known => ?_⟩
  · cases found : (Run.after deliverSales db events).projections.lookup story.p.orderId with
    | none => exact (ended.unseen found).2.1.symm
    | some projection => exact (ended.seen projection found).returned
  · cases found : (Run.after deliverSales db events).projections.lookup story.p.orderId with
    | none =>
      rw [(ended.unseen found).2.2 hears] at known
      cases known
    | some projection => rfl

instance (amount : Int) : Decidable (Amount amount) := inferInstanceAs (Decidable (_ ∧ _))

private def basket : OrderStory where
  p := { orderId := 9, code := "HD000001", customerId := some 1, subtotal := 110000, discountTotal := 10000,
         grandTotal := 100000, totalAmount := 100000 }
  customerId := 1
  returns := [
    { returnId := 5, orderId := 9, customerId := some 1, refundAmountVnd := 33333 },
    { returnId := 6, orderId := 9, customerId := some 1, refundAmountVnd := 50000 }]
  customer := rfl
  amounts := by decide
  own := by decide
  once := by decide
  refunds := by decide

private def programme (isEnabled : Bool) : LoyaltyDb where
  customers := AList.insert 1 { code := "KH000001" } ∅
  settings := { isEnabled }

private theorem programme_untold (isEnabled : Bool) : (programme isEnabled).Untold basket := by
  have vacant : ∀ transactionType source key, Vacant (programme isEnabled) transactionType source key := fun _ _ _ =>
    ⟨fun _ member => absurd member not_mem_nil, fun _ member => absurd member not_mem_nil⟩
  refine ⟨⟨le_refl 0, le_refl 0, le_refl 0, le_refl 0⟩, rfl, fun _ member => absurd member not_mem_nil,
    vacant .., vacant .., fun _ _ => vacant ..⟩

/-- One return comes before the sale, the other between its two events. -/
theorem early_returns_agree :
    (Run.after deliverSales (programme true) [.returnCompleted 75 basket.returns[0], .checkoutCompleted 71 basket.p,
      .returnCompleted 76 basket.returns[1], .orderCompleted 70 basket.p]).posted 1 = 2 := by
  have told : [returnCompleted 75 basket.returns[0], .checkoutCompleted 71 basket.p,
      .returnCompleted 76 basket.returns[1], .orderCompleted 70 basket.p].Perm (basket.events 70 71 (70 + ·)) := by
    have first : [returnCompleted 75 basket.returns[0], .checkoutCompleted 71 basket.p,
        .returnCompleted 76 basket.returns[1]].Perm _ := .swap ..
    exact (first.append_right [.orderCompleted 70 basket.p]).trans perm_append_comm
  have ended := (points_in_any_order basket (programme_untold true) ⟨by decide, by decide⟩ 70 71 (70 + ·) told).1
  exact ended.trans (by decide +kernel)

/-- An order earns nothing while the programme is off, whatever its spend. -/
theorem no_points_while_off : ¬∀ (story : OrderStory) (db : LoyaltyDb), db.Untold story → db.settings.Applicable →
    ∀ (orderEvent checkoutEvent : Uuid) (returnEvent : Uuid → Uuid) (events : List SalesEvent),
      events.Perm (story.events orderEvent checkoutEvent returnEvent) →
        (Run.after deliverSales db events).posted story.customerId = db.posted story.customerId +
          story.p.eligibleSpend / db.settings.earnAmountPerPoint - reversedPoints
            (story.p.eligibleSpend / db.settings.earnAmountPerPoint) story.p.eligibleSpend story.refundTotal := by
  intro claim
  have earned := claim basket (programme false) (programme_untold false) ⟨by decide, by decide⟩ 70 71 (70 + ·) _ (.refl _)
  exact absurd earned (by decide +kernel)

end Customer
