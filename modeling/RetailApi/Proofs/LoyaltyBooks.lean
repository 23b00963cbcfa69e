import RetailApi.Base.Run
import RetailApi.Customer.Purchases

/-! The books of the loyalty programme: what the accounts say is what their ledger and their holds
add up to, whatever was earned, redeemed, taken back and merged. -/

namespace Customer

open Transaction LoyaltyDb LoyaltyHoldEntity Option Except Prod Table

namespace LoyaltyDb

def posted (db : LoyaltyDb) (customerId : Uuid) : Int :=
  ((db.accounts.lookup customerId).map (·.postedPointsBalance)).getD 0

def heldOf (db : LoyaltyDb) (customerId : Uuid) : Int := ((db.accounts.lookup customerId).map (·.heldPoints)).getD 0

end LoyaltyDb

structure LoyaltyTransactionEntity.Named (row : LoyaltyTransactionEntity) : Prop where
  earned : row.transactionType = .earn → ∀ orderId, row.orderId = some orderId → row.idempotencyKey = .earnOrder orderId
  returned : ∀ returnId, row.returnId = some returnId → row.idempotencyKey = .reversalReturn returnId
  redeemed : ∀ holdId, row.holdId = some holdId → row.idempotencyKey = .redeemHold holdId

structure LoyaltyTransactionEntity.Filed (row : LoyaltyTransactionEntity) : Prop extends row.Named where
  math : row.balanceBefore + row.pointsDelta = row.balanceAfter

structure LoyaltyDb.Balanced (db : LoyaltyDb) : Prop where
  ledger : ∀ customerId, db.posted customerId = db.ledgerSum customerId
  held : ∀ customerId, db.heldOf customerId = db.activeHoldsSum customerId
  positive : ∀ holdId hold, db.holds.lookup holdId = some hold → 0 < hold.points
  filed : ∀ row ∈ db.transactions, row.Filed
  distinct : (db.transactions.map (·.idempotencyKey)).Nodup

variable {db after : LoyaltyDb} {customerId : Uuid} {account new : LoyaltyAccountEntity}

theorem posted_of_lookup (found : db.accounts.lookup customerId = some account) :
    db.posted customerId = account.postedPointsBalance := by
  rw [posted, found, map_some, getD_some]

theorem heldOf_of_lookup (found : db.accounts.lookup customerId = some account) : db.heldOf customerId = account.heldPoints := by
  rw [heldOf, found, map_some, getD_some]

theorem posted_insert (db : LoyaltyDb) {after : LoyaltyDb} (accounts : after.accounts = db.accounts.insert customerId new) (other : Uuid) :
    after.posted other = if other = customerId then new.postedPointsBalance else db.posted other := by
  rw [posted, accounts, lookup_insert_if]
  split <;> rfl

theorem heldOf_insert (db : LoyaltyDb) {after : LoyaltyDb} (accounts : after.accounts = db.accounts.insert customerId new) (other : Uuid) :
    after.heldOf other = if other = customerId then new.heldPoints else db.heldOf other := by
  rw [heldOf, accounts, lookup_insert_if]
  split <;> rfl

theorem ledgerSum_append (db : LoyaltyDb) {after : LoyaltyDb} {row} (rows : after.transactions = db.transactions ++ [row]) (other : Uuid) :
    after.ledgerSum other = db.ledgerSum other + if row.customerId = other then row.pointsDelta else 0 := by
  rw [ledgerSum, ledgerSum, rows, Keyed.total_append, Keyed.total_cons, Keyed.total_nil, add_zero]

def LoyaltyHoldEntity.counts (hold : LoyaltyHoldEntity) (customerId : Uuid) : Int :=
  if hold.customerId = customerId ∧ hold.state = .held then hold.points else 0

theorem activeHoldsSum_replaced {holdId old hold} (found : db.holds.lookup holdId = some old)
    (holds : after.holds = db.holds.insert holdId hold) (other : Uuid) :
    after.activeHoldsSum other = db.activeHoldsSum other - old.counts other + hold.counts other := by
  rw [activeHoldsSum, activeHoldsSum, holds, sumBy_insert_existing found]
  rfl

theorem activeHoldsSum_new (db : LoyaltyDb) {after : LoyaltyDb} {holdId hold} (fresh : db.holds.lookup holdId = none)
    (holds : after.holds = db.holds.insert holdId hold) (other : Uuid) :
    after.activeHoldsSum other = db.activeHoldsSum other + hold.counts other := by
  rw [activeHoldsSum, activeHoldsSum, holds, sumBy_insert_fresh fresh]
  rfl

theorem LoyaltyDb.Balanced.of_same (balanced : db.Balanced) (posted : ∀ other, after.posted other = db.posted other)
    (held : ∀ other, after.heldOf other = db.heldOf other) (rows : after.transactions = db.transactions)
    (holds : after.holds = db.holds) : after.Balanced := by
  constructor
  · intro other
    rw [posted, balanced.ledger, ledgerSum, ledgerSum, rows]
  · intro other
    rw [held, balanced.held, activeHoldsSum, activeHoldsSum, holds]
  · rw [holds]
    exact balanced.positive
  · rw [rows]
    exact balanced.filed
  · rw [rows]
    exact balanced.distinct

structure Ensured (db : LoyaltyDb) (customerId : Uuid) (account : LoyaltyAccountEntity) (after : LoyaltyDb) : Prop where
  frame : after = { db with accounts := after.accounts }
  found : after.accounts.lookup customerId = some account
  old : (db.accounts.lookup customerId).getD {} = account
  others : ∀ other, other ≠ customerId → after.accounts.lookup other = db.accounts.lookup other

theorem ensureAccount_ok (ran : db.ensureAccount customerId = .ok (after, account)) : Ensured db customerId account after := by
  unfold ensureAccount at ran
  split at ran
  · next existing found =>
    obtain ⟨rfl, rfl⟩ := mk.inj (ok.inj ran)
    exact ⟨rfl, found, by rw [found, getD_some], fun _ _ => rfl⟩
  · next missing =>
    simp only [eq_ok] at ran
    obtain ⟨_, _, same⟩ := ran
    obtain ⟨rfl, rfl⟩ := mk.inj same
    refine ⟨rfl, lookup_insert_self .., by rw [missing, getD_none], fun other apart => ?_⟩
    exact (lookup_insert_if ..).trans (if_neg apart)

section

variable (ensured : Ensured db customerId account after)
include ensured

theorem Ensured.posted (other : Uuid) : after.posted other = db.posted other := by
  by_cases same : other = customerId
  · subst same
    rw [posted_of_lookup ensured.found, ← ensured.old, LoyaltyDb.posted]
    cases db.accounts.lookup other <;> rfl
  · rw [LoyaltyDb.posted, ensured.others other same]
    rfl

theorem Ensured.heldOf (other : Uuid) : after.heldOf other = db.heldOf other := by
  by_cases same : other = customerId
  · subst same
    rw [heldOf_of_lookup ensured.found, ← ensured.old, LoyaltyDb.heldOf]
    cases db.accounts.lookup other <;> rfl
  · rw [LoyaltyDb.heldOf, ensured.others other same]
    rfl

theorem Ensured.balanced (balanced : db.Balanced) : after.Balanced :=
  balanced.of_same ensured.posted ensured.heldOf (by rw [ensured.frame]) (by rw [ensured.frame])

end

theorem saveAccount_ok (saved : db.saveAccount customerId new = .ok after) :
    after = { db with accounts := db.accounts.insert customerId new } := by
  simp only [saveAccount, eq_ok] at saved
  obtain ⟨_, _, rfl⟩ := saved
  rfl

theorem saveTransaction_ok {row} (saved : db.saveTransaction row = .ok after) :
    after = { db with transactions := db.transactions ++ [row] } ∧ row.balanceBefore + row.pointsDelta = row.balanceAfter ∧
      ∀ other ∈ db.transactions, other.idempotencyKey ≠ row.idempotencyKey := by
  simp only [saveTransaction, eq_ok] at saved
  obtain ⟨_, fresh, _, _, _, _, _, math, rfl⟩ := saved
  exact ⟨rfl, math, fresh⟩

theorem LoyaltyDb.Balanced.posting (balanced : db.Balanced) {row : LoyaltyTransactionEntity}
    (found : db.accounts.lookup row.customerId = some account) (accounts : after.accounts = db.accounts.insert row.customerId new)
    (rows : after.transactions = db.transactions ++ [row])
    (posted : new.postedPointsBalance = account.postedPointsBalance + row.pointsDelta)
    (held : ∀ other, after.activeHoldsSum other = db.activeHoldsSum other +
      if row.customerId = other then new.heldPoints - account.heldPoints else 0)
    (positive : ∀ holdId hold, after.holds.lookup holdId = some hold → 0 < hold.points)
    (math : row.balanceBefore + row.pointsDelta = row.balanceAfter) (named : row.Named)
    (fresh : ∀ other ∈ db.transactions, other.idempotencyKey ≠ row.idempotencyKey) : after.Balanced := by
  have before := balanced.ledger row.customerId
  have heldBefore := balanced.held row.customerId
  rw [posted_of_lookup found] at before
  rw [heldOf_of_lookup found] at heldBefore
  constructor
  · intro other
    rw [posted_insert db accounts, ledgerSum_append db rows]
    by_cases same : other = row.customerId
    · rw [if_pos same, if_pos same.symm, same]
      omega
    · rw [if_neg same, if_neg (Ne.symm same), add_zero]
      exact balanced.ledger other
  · intro other
    rw [heldOf_insert db accounts, held]
    by_cases same : other = row.customerId
    · rw [if_pos same, if_pos same.symm, same]
      omega
    · rw [if_neg same, if_neg (Ne.symm same), add_zero]
      exact balanced.held other
  · exact positive
  · rw [rows]
    exact forall_concat balanced.filed ⟨named, math⟩
  · rw [rows]
    exact Keyed.nodup_append balanced.distinct fresh

structure Posted (db : LoyaltyDb) (account new : LoyaltyAccountEntity) (row : LoyaltyTransactionEntity) (after : LoyaltyDb) : Prop where
  frame : after = { db with
    accounts := db.accounts.insert row.customerId new, transactions := db.transactions ++ [row] }
  same : new = account.posted row.pointsDelta
  math : row.balanceBefore + row.pointsDelta = row.balanceAfter
  fresh : ∀ other ∈ db.transactions, other.idempotencyKey ≠ row.idempotencyKey

theorem post_ok {row} (ran : db.post account row = .ok (after, new)) : Posted db account new row after := by
  simp only [post, eq_ok] at ran
  obtain ⟨middle, saved, last, filed, same⟩ := ran
  obtain ⟨rfl, rfl⟩ := mk.inj same
  obtain rfl := saveAccount_ok saved
  obtain ⟨frame, math, fresh⟩ := saveTransaction_ok filed
  exact ⟨frame, rfl, math, fresh⟩

theorem Posted.balanced {row} (posting : Posted db account new row after) (balanced : db.Balanced)
    (found : db.accounts.lookup row.customerId = some account) (named : row.Named) : after.Balanced := by
  obtain ⟨frame, same, math, fresh⟩ := posting
  refine balanced.posting found (by rw [frame]) (by rw [frame]) (by rw [same]; rfl) (fun other => ?_) ?_ math named fresh
  · have kept : after.activeHoldsSum other = db.activeHoldsSum other := by
      rw [activeHoldsSum, activeHoldsSum, frame]
    have held : new.heldPoints = account.heldPoints := by rw [same]; rfl
    rw [kept, held, sub_self, ite_self, add_zero]
  · rw [frame]
    exact balanced.positive

/-- What an operation keeps of the holds: none goes, and one that has left HELD stays as it is. -/
structure LoyaltyStep (db after : LoyaltyDb) : Prop where
  balanced : after.Balanced
  holds : ∀ holdId hold, db.holds.lookup holdId = some hold → ∃ later, after.holds.lookup holdId = some later ∧
    (hold.state ≠ .held → later = hold)

theorem LoyaltyStep.of_holds (balanced : after.Balanced) (holds : after.holds = db.holds) : LoyaltyStep db after :=
  ⟨balanced, fun _ hold found => ⟨hold, by rw [holds, found], fun _ => rfl⟩⟩

theorem LoyaltyStep.refl (balanced : db.Balanced) : LoyaltyStep db db := .of_holds balanced rfl

theorem LoyaltyStep.trans {first second third} (earlier : LoyaltyStep first second) (later : LoyaltyStep second third) :
    LoyaltyStep first third := by
  refine ⟨later.balanced, fun holdId hold found => ?_⟩
  obtain ⟨middle, present, kept⟩ := earlier.holds holdId hold found
  obtain ⟨last, ended, stays⟩ := later.holds holdId middle present
  refine ⟨last, ended, fun left => ?_⟩
  obtain rfl := kept left
  exact stays left

theorem Ensured.step (ensured : Ensured db customerId account after) (balanced : db.Balanced) : LoyaltyStep db after :=
  .of_holds (ensured.balanced balanced) (by rw [ensured.frame])

theorem Posted.step {row} (posting : Posted db account new row after) (balanced : db.Balanced)
    (found : db.accounts.lookup row.customerId = some account) (named : row.Named) : LoyaltyStep db after :=
  .of_holds (posting.balanced balanced found named) (by rw [posting.frame])

theorem adjustPoints_step {dto} (balanced : db.Balanced)
    (ran : adjustPoints db customerId dto = .ok after) : LoyaltyStep db after := by
  simp only [adjustPoints, eq_ok] at ran
  obtain ⟨_, _, _, _, ran⟩ := ran
  split at ran
  · simp only [eq_ok] at ran
    obtain ⟨⟨ensuredDb, account⟩, ensured, rfl⟩ := ran
    exact (ensureAccount_ok ensured).step balanced
  · simp only [eq_ok] at ran
    obtain ⟨_, _, ⟨ensuredDb, account⟩, ensured, _, _, saved, stored, filed⟩ := ran
    have first := ensureAccount_ok ensured
    obtain rfl := saveAccount_ok stored
    obtain ⟨frame, math, fresh⟩ := saveTransaction_ok filed
    exact (first.step balanced).trans (Posted.step ⟨frame, rfl, math, fresh⟩ (first.balanced balanced) first.found
      ⟨by rintro ⟨⟩, by rintro _ ⟨⟩, by rintro _ ⟨⟩⟩)

theorem validatePointRedemption_ok {requested posted held discount settings}
    (passed : validatePointRedemption requested posted held settings = .ok discount) : 0 < requested := by
  simp only [validatePointRedemption, eq_ok] at passed
  obtain ⟨_, _, _, positive, _⟩ := passed
  exact positive

variable {now returned : Int} {state : LoyaltyHoldState} {orderId : Option Uuid} {sale : CompletedSale} {earned : EarnedPoints}
  {projection last : PurchaseProjection} {ret : CompletedReturn} {outcome : ReturnOutcome} {sourceId targetId : Uuid}

theorem holdPoints_step {holdId dto} (balanced : db.Balanced)
    (ran : holdPoints db now holdId dto = .ok after) : LoyaltyStep db after := by
  simp only [holdPoints, eq_ok] at ran
  obtain ⟨⟨ensuredDb, account⟩, ensured, _, _, discount, valid, saved, stored, _, fresh, _, _, rfl⟩ := ran
  have first := ensureAccount_ok ensured
  have positive := validatePointRedemption_ok valid
  have kept := first.balanced balanced
  obtain rfl := saveAccount_ok stored
  have sameHolds : ensuredDb.holds = db.holds := by rw [first.frame]
  refine ⟨⟨fun other => ?_, fun other => ?_, ?_, kept.filed, kept.distinct⟩, fun other hold found => ?_⟩
  · rw [posted_insert _ rfl]
    split
    · next same =>
      rw [same, ← posted_of_lookup first.found]
      exact kept.ledger dto.customerId
    · exact kept.ledger other
  · rw [heldOf_insert _ rfl, activeHoldsSum_new ensuredDb fresh rfl]
    have before := kept.held other
    by_cases same : other = dto.customerId
    · subst same
      rw [heldOf_of_lookup first.found] at before
      rw [if_pos rfl, counts, if_pos ⟨rfl, rfl⟩]
      dsimp only
      omega
    · rw [if_neg same, counts, if_neg fun both => same both.1.symm, add_zero]
      exact before
  · exact forall_insert positive kept.positive
  · refine ⟨hold, ?_, fun _ => rfl⟩
    simp only [saveHold]
    rw [← sameHolds] at found
    have apart : other ≠ holdId := by
      intro same
      rw [same] at found
      cases fresh.symm.trans found
    rw [lookup_insert_if, if_neg apart]
    exact found

theorem createHold_step {holdId dto} (balanced : db.Balanced)
    (ran : createHold db now holdId dto = .ok after) : LoyaltyStep db after := by
  simp only [createHold, eq_ok] at ran
  obtain ⟨_, _, ran⟩ := ran
  split at ran
  · simp only [replayHold, eq_ok] at ran
    obtain ⟨_, _, ⟨ensuredDb, account⟩, ensured, rfl⟩ := ran
    exact (ensureAccount_ok ensured).step balanced
  · simp only [eq_ok] at ran
    obtain ⟨_, _, ran⟩ := ran
    exact holdPoints_step balanced ran

variable {holdId : Uuid} {hold : LoyaltyHoldEntity}

theorem LoyaltyDb.Balanced.covers (balanced : db.Balanced) (found : db.holds.lookup holdId = some hold) (held : hold.state = .held) :
    hold.points ≤ db.heldOf hold.customerId := by
  rw [balanced.held]
  have counted : hold.counts hold.customerId = hold.points := if_pos ⟨rfl, held⟩
  rw [← counted]
  refine le_sumBy (fun _ row => counts row hold.customerId) found fun other row present => ?_
  have positive := balanced.positive other row present
  unfold counts
  split
  · exact positive.le
  · exact le_rfl

theorem LoyaltyDb.Balanced.freed (balanced : db.Balanced) (found : db.holds.lookup holdId = some hold) (held : hold.state = .held)
    (present : db.accounts.lookup hold.customerId = some account) : account.freed (max 0) hold.points = account.freed id hold.points := by
  have covers := balanced.covers found held
  rw [heldOf_of_lookup present] at covers
  have above : max 0 (account.heldPoints - hold.points) = account.heldPoints - hold.points := max_eq_right (by omega)
  rw [LoyaltyAccountEntity.freed, LoyaltyAccountEntity.freed, above, id_eq]

theorem counts_moved (held : hold.state = .held) (left : state ≠ .held)
    (holds : after.holds = db.holds.insert holdId (hold.moved state)) (found : db.holds.lookup holdId = some hold) (other : Uuid) :
    after.activeHoldsSum other = db.activeHoldsSum other - if hold.customerId = other then hold.points else 0 := by
  rw [activeHoldsSum_replaced found holds]
  have ended : (hold.moved state).counts other = 0 := if_neg fun both => left both.2
  rw [ended, add_zero, counts]
  simp only [held, and_true]

theorem positive_moved {holds : Table Uuid LoyaltyHoldEntity} (found : holds.lookup holdId = some hold)
    (positive : ∀ other row, holds.lookup other = some row → 0 < row.points) :
    ∀ other row, (holds.insert holdId (hold.moved state)).lookup other = some row → 0 < row.points :=
  forall_insert (positive holdId hold found) positive

theorem holds_moved (found : db.holds.lookup holdId = some hold) (held : hold.state = .held)
    (other : Uuid) (row : LoyaltyHoldEntity) (present : db.holds.lookup other = some row) :
    ∃ later, (db.holds.insert holdId (hold.moved state)).lookup other = some later ∧ (row.state ≠ .held → later = row) := by
  rw [lookup_insert_if]
  by_cases same : other = holdId
  · subst same
    cases found.symm.trans present
    exact ⟨_, if_pos rfl, fun left => absurd held left⟩
  · exact ⟨row, (if_neg same).trans present, fun _ => rfl⟩

theorem held_ensured {ensured} (found : db.holds.lookup holdId = some hold)
    (present : db.ensureAccount hold.customerId = .ok (ensured, account)) : ensured.holds.lookup holdId = some hold := by
  rw [(ensureAccount_ok present).frame]
  exact found

section

variable (balanced : db.Balanced)

include balanced

theorem freeHold_step (found : db.holds.lookup holdId = some hold)
    (held : hold.state = .held) (left : state ≠ .held) (present : db.accounts.lookup hold.customerId = some account)
    (ran : db.freeHold id holdId hold account state = .ok after) : LoyaltyStep db after := by
  simp only [freeHold, eq_ok] at ran
  obtain ⟨saved, stored, rfl⟩ := ran
  obtain rfl := saveAccount_ok stored
  refine ⟨⟨fun other => ?_, fun other => ?_, positive_moved found balanced.positive, balanced.filed, balanced.distinct⟩,
    holds_moved found held⟩
  · refine (posted_insert db rfl other).trans ?_
    split
    · next same =>
      rw [same]
      exact (posted_of_lookup present).symm.trans (balanced.ledger hold.customerId)
    · exact balanced.ledger other
  · refine (heldOf_insert db rfl other).trans ?_
    rw [counts_moved held left rfl found]
    have before := balanced.held other
    by_cases same : other = hold.customerId
    · subst same
      rw [heldOf_of_lookup present] at before
      rw [if_pos rfl, if_pos rfl, LoyaltyAccountEntity.freed, id_eq]
      dsimp only
      omega
    · rw [if_neg same, if_neg (Ne.symm same), sub_zero]
      exact before

/-- What a request does with a hold under its lock does not depend on the floor of `freed`: an open hold is reserved in full. -/
theorem floor_unused {rest other : LoyaltyHoldEntity → LoyaltyDb × LoyaltyAccountEntity → Except Failure LoyaltyDb}
    (open_ : ∀ hold ensured, ensured.2.freed (max 0) hold.points = ensured.2.freed id hold.points →
      rest hold ensured = other hold ensured)
    (ended : ∀ hold ensured, hold.state ≠ .held → rest hold ensured = other hold ensured) :
    (lockHold db holdId >>= fun hold => db.ensureAccount hold.customerId >>= rest hold) =
      lockHold db holdId >>= fun hold => db.ensureAccount hold.customerId >>= other hold := by
  cases locked : lockHold db holdId with
  | error _ => rfl
  | ok hold =>
    cases present : db.ensureAccount hold.customerId with
    | error _ => simp only [bind, Except.bind, present]
    | ok ensured =>
      simp only [bind, Except.bind, present]
      by_cases held : hold.state = .held
      · have first := ensureAccount_ok present
        have found := held_ensured (required_eq_ok.mp locked) present
        exact open_ hold ensured ((first.balanced balanced).freed found held first.found)
      · exact ended hold ensured held

theorem releaseHold_floor : releaseHold db holdId = releaseHoldWith id db holdId := by
  apply floor_unused balanced
  · intro hold ensured same
    simp only [freeHold, same]
  · intro hold ensured left
    cases state : hold.state with
    | held => exact absurd state left
    | committed | released | expired => simp [bind, Except.bind, ensure]

theorem commitHold_floor : commitHold db now holdId orderId = commitHoldWith id db now holdId orderId := by
  apply floor_unused balanced
  · intro hold ensured same
    simp only [same]
  · intro hold ensured left
    cases state : hold.state with
    | held => exact absurd state left
    | committed | released | expired => simp [bind, Except.bind, ensure]

theorem releaseHold_step (ran : releaseHold db holdId = .ok after) : LoyaltyStep db after := by
  rw [releaseHold_floor balanced, releaseHoldWith, bind_eq_ok] at ran
  obtain ⟨hold, locked, ran⟩ := ran
  rw [bind_eq_ok] at ran
  obtain ⟨⟨ensuredDb, account⟩, ensured, ran⟩ := ran
  have first := ensureAccount_ok ensured
  have step := first.step balanced
  dsimp only at ran
  split at ran
  · exact pure_eq_ok.mp ran ▸ step
  · next going =>
    simp only [eq_ok] at ran
    obtain ⟨_, uncommitted, ran⟩ := ran
    have held : hold.state = .held := by
      cases state : hold.state <;> simp_all
    have found := held_ensured (required_eq_ok.mp locked) ensured
    exact step.trans (freeHold_step (first.balanced balanced) found held (by simp) first.found ran)

theorem commitHold_step (ran : commitHold db now holdId orderId = .ok after) : LoyaltyStep db after := by
  rw [commitHold_floor balanced, commitHoldWith, bind_eq_ok] at ran
  obtain ⟨hold, locked, ran⟩ := ran
  rw [bind_eq_ok] at ran
  obtain ⟨⟨ensuredDb, account⟩, ensured, ran⟩ := ran
  have first := ensureAccount_ok ensured
  have step := first.step balanced
  dsimp only at ran
  split at ran
  · exact pure_eq_ok.mp ran ▸ step
  · next open_ =>
    simp only [eq_ok] at ran
    obtain ⟨_, unreleased, _, unexpired, saved, stored, filed⟩ := ran
    have held : hold.state = .held := by
      cases state : hold.state <;> simp_all
    have found := held_ensured (required_eq_ok.mp locked) ensured
    have kept := first.balanced balanced
    obtain rfl := saveAccount_ok stored
    obtain ⟨rfl, math, fresh⟩ := saveTransaction_ok filed
    refine step.trans ⟨kept.posting first.found rfl rfl ?_ (fun other => ?_) ?_ math ⟨by rintro ⟨⟩, by rintro _ ⟨⟩, ?_⟩ fresh, ?_⟩
    · exact sub_eq_add_neg _ _
    · rw [counts_moved held (by simp) rfl found]
      dsimp only [LoyaltyAccountEntity.freed, id_eq]
      split <;> omega
    · exact positive_moved found kept.positive
    · intro other same
      rw [← some.inj same]
    · exact holds_moved found held

theorem expireHold_floor : expireHoldWith (max 0) db holdId = expireHoldWith id db holdId := by
  unfold expireHoldWith
  cases found : db.holds.lookup holdId with
  | none => rfl
  | some hold =>
    by_cases held : hold.state = .held
    · cases ensured : db.ensureAccount hold.customerId with
      | error _ => simp only [held, ↓reduceIte, bind, Except.bind, ensured]
      | ok result =>
        have first := ensureAccount_ok ensured
        have present := held_ensured found ensured
        simp only [held, ↓reduceIte, bind, Except.bind, ensured, freeHold,
          (first.balanced balanced).freed present held first.found]
    · simp only [held, ↓reduceIte]

theorem expireHold_step (ran : expireHoldWith (max 0) db holdId = .ok after) : LoyaltyStep db after := by
  rw [expireHold_floor balanced] at ran
  unfold expireHoldWith at ran
  split at ran
  · next hold found =>
    split at ran
    · next held =>
      rw [bind_eq_ok] at ran
      obtain ⟨⟨ensuredDb, account⟩, ensured, ran⟩ := ran
      have first := ensureAccount_ok ensured
      have present := held_ensured found ensured
      exact (first.step balanced).trans (freeHold_step (first.balanced balanced) present held (by simp) first.found ran)
    · rw [← ok.inj ran]
      exact .refl balanced
  · rw [← ok.inj ran]
    exact .refl balanced

theorem expireOverdueHolds_step {rows limit} (ran : expireOverdueHolds db now rows limit = .ok after) : LoyaltyStep db after := by
  refine foldlM_preserves (LoyaltyStep db) (fun row _ before next step stepped => ?_) (.refl balanced) ran
  exact step.trans (expireHold_step step.balanced stepped)

theorem expireOverdueHolds_floor {rows limit} :
    expireOverdueHolds db now rows limit = expireOverdueHoldsWith id db now rows limit := by
  unfold expireOverdueHolds expireOverdueHoldsWith
  generalize (rows.filter (db.overdue now)).take limit = chosen
  induction chosen generalizing db with
  | nil => rfl
  | cons row chosen inner =>
    rw [List.foldlM_cons, List.foldlM_cons, ← expireHold_floor balanced]
    cases expired : expireHoldWith (max 0) db row with
    | error _ => rfl
    | ok next => exact inner (expireHold_step balanced expired).balanced

theorem reverseDeferred_step (found : db.accounts.lookup sale.customerId = some account)
    (ran : reverseDeferred db sale earned account projection returned = .ok (after, last)) : LoyaltyStep db after := by
  simp only [reverseDeferred, eq_ok] at ran
  obtain ⟨amount, _, ran⟩ := ran
  split at ran
  · simp only [eq_ok] at ran
    obtain ⟨points, _, ran⟩ := ran
    split at ran
    · simp only [eq_ok] at ran
      obtain ⟨⟨postedDb, new⟩, posted, same⟩ := ran
      obtain ⟨rfl, _⟩ := mk.inj same
      exact (post_ok posted).step balanced found ⟨by rintro ⟨⟩, by rintro _ ⟨⟩, by rintro _ ⟨⟩⟩
    · obtain ⟨rfl, _⟩ := mk.inj (pure_eq_ok.mp ran)
      exact .refl balanced
  · obtain ⟨rfl, _⟩ := mk.inj (pure_eq_ok.mp ran)
    exact .refl balanced

theorem earn_step (found : db.accounts.lookup sale.customerId = some account)
    (ran : earn db sale earned account projection returned = .ok (after, last)) : LoyaltyStep db after := by
  unfold earn at ran
  split at ran
  · rw [bind_eq_ok] at ran
    obtain ⟨⟨postedDb, new⟩, posted, ran⟩ := ran
    have posting := post_ok posted
    have named : (sale.earnRow earned account).Named := by
      refine ⟨fun _ orderId same => ?_, nofun, nofun⟩
      rw [← some.inj same]
      rfl
    have present : postedDb.accounts.lookup sale.customerId = some new := by
      rw [posting.frame]
      exact lookup_insert_self ..
    exact (posting.step balanced found named).trans (reverseDeferred_step (posting.balanced balanced found named) present ran)
  · obtain ⟨rfl, _⟩ := mk.inj (pure_eq_ok.mp ran)
    exact .refl balanced

end

theorem LoyaltyStep.projected {projections} (step : LoyaltyStep db after) : LoyaltyStep db { after with projections } :=
  ⟨step.balanced.of_same (fun _ => rfl) (fun _ => rfl) rfl rfl, step.holds⟩

theorem processCompletedSale_step (balanced : db.Balanced)
    (ran : processCompletedSale db sale = .ok after) : LoyaltyStep db after := by
  unfold processCompletedSale at ran
  split at ran
  · rw [← ok.inj ran]
    exact .refl balanced
  · rw [← ok.inj ran]
    exact .refl balanced
  · simp only [eq_ok] at ran
    obtain ⟨⟨ensuredDb, account⟩, ensured, earned, _, ⟨earnedDb, projection⟩, earning, rfl⟩ := ran
    have first := ensureAccount_ok ensured
    exact ((first.step balanced).trans (earn_step (first.balanced balanced) first.found earning)).projected

theorem reverseEarned_step {earnTx refund} (balanced : db.Balanced)
    (ran : reverseEarned db ret projection earnTx refund = .ok (after, outcome)) : LoyaltyStep db after := by
  simp only [reverseEarned, eq_ok] at ran
  obtain ⟨points, _, ran⟩ := ran
  have projected : LoyaltyStep db { db with
      projections := db.projections.insert ret.orderId { projection with reversedPoints := db.reversedOf ret.orderId + points } } :=
    (LoyaltyStep.refl balanced).projected
  split at ran
  · obtain ⟨rfl, _⟩ := mk.inj (pure_eq_ok.mp ran)
    exact projected
  · simp only [eq_ok] at ran
    obtain ⟨⟨ensuredDb, account⟩, ensured, ⟨postedDb, new⟩, posted, same⟩ := ran
    obtain ⟨rfl, _⟩ := mk.inj same
    have first := ensureAccount_ok ensured
    have named : (ret.reversalRow projection.customerId account earnTx points).Named := by
      refine ⟨by rintro ⟨⟩, fun returnId same => ?_, by rintro _ ⟨⟩⟩
      rw [← some.inj same]
      rfl
    exact projected.trans ((first.step projected.balanced).trans
      ((post_ok posted).step (first.balanced projected.balanced) first.found named))

theorem processCompletedReturn_step (balanced : db.Balanced)
    (ran : processCompletedReturn db ret = .ok (after, outcome)) : LoyaltyStep db after := by
  unfold processCompletedReturn at ran
  split at ran
  · obtain ⟨rfl, _⟩ := mk.inj (ok.inj ran)
    exact .refl balanced
  · rw [bind_eq_ok] at ran
    obtain ⟨refund, _, ran⟩ := ran
    split at ran
    · split at ran
      · obtain ⟨rfl, _⟩ := mk.inj (pure_eq_ok.mp ran)
        exact .refl balanced
      · obtain ⟨rfl, _⟩ := mk.inj (pure_eq_ok.mp ran)
        exact (LoyaltyStep.refl balanced).projected
    · split at ran
      · obtain ⟨rfl, _⟩ := mk.inj (pure_eq_ok.mp ran)
        exact .refl balanced
      · simp only [eq_ok] at ran
        obtain ⟨previous, _, returned, _, ran⟩ := ran
        split at ran
        · obtain ⟨rfl, _⟩ := mk.inj (pure_eq_ok.mp ran)
          exact (LoyaltyStep.refl balanced).projected
        · exact reverseEarned_step balanced ran

theorem LoyaltyDb.Balanced.resaved (balanced : db.Balanced) (found : (db.accounts.lookup customerId).getD {} = account)
    (posted : new.postedPointsBalance = account.postedPointsBalance) (held : new.heldPoints = account.heldPoints) :
    ({ db with accounts := db.accounts.insert customerId new } : LoyaltyDb).Balanced := by
  have samePosted : db.posted customerId = account.postedPointsBalance := by
    rw [← found, LoyaltyDb.posted]
    cases db.accounts.lookup customerId <;> rfl
  have sameHeld : db.heldOf customerId = account.heldPoints := by
    rw [← found, LoyaltyDb.heldOf]
    cases db.accounts.lookup customerId <;> rfl
  refine balanced.of_same (fun other => ?_) (fun other => ?_) rfl rfl
  · rw [posted_insert _ rfl]
    split
    · next same => rw [same, samePosted, posted]
    · rfl
  · rw [heldOf_insert _ rfl]
    split
    · next same => rw [same, sameHeld, held]
    · rfl

theorem mergeRow_named {transactionType} (other : transactionType ≠ .earn) (customerId otherId : Uuid)
    (key : LoyaltyKey) (before pointsDelta : Int) : (mergeRow transactionType customerId otherId key before pointsDelta).Named :=
  ⟨fun earned => absurd earned other, nofun, nofun⟩

structure Transferred (db : LoyaltyDb) (sourceId targetId : Uuid) (points : Int) (after : LoyaltyDb) : Prop where
  frame : after = { db with transactions := after.transactions }
  ledger : ∀ other, after.ledgerSum other =
    db.ledgerSum other + (if sourceId = other then -points else 0) + if targetId = other then points else 0
  filed : ∀ row ∈ after.transactions, row.Filed
  distinct : (after.transactions.map (·.idempotencyKey)).Nodup

theorem saveTransaction_filed {row} (filed : ∀ row ∈ db.transactions, row.Filed)
    (distinct : (db.transactions.map (·.idempotencyKey)).Nodup) (named : row.Named) (saved : db.saveTransaction row = .ok after) :
    (∀ row ∈ after.transactions, row.Filed) ∧ (after.transactions.map (·.idempotencyKey)).Nodup := by
  obtain ⟨rfl, math, fresh⟩ := saveTransaction_ok saved
  exact ⟨forall_concat filed ⟨named, math⟩, Keyed.nodup_append distinct fresh⟩

theorem transfer_ok {key source target} (balanced : db.Balanced)
    (ran : db.transfer sourceId targetId key source target = .ok after) :
    Transferred db sourceId targetId source.postedPointsBalance after := by
  unfold transfer at ran
  split at ran
  · next nothing =>
    rw [← ok.inj ran, nothing]
    exact ⟨rfl, fun other => by simp, balanced.filed, balanced.distinct⟩
  · rw [bind_eq_ok] at ran
    obtain ⟨middle, out, into⟩ := ran
    obtain ⟨filed, distinct⟩ := saveTransaction_filed balanced.filed balanced.distinct (mergeRow_named (by simp) _ _ _ _ _) out
    obtain ⟨filedBoth, distinctBoth⟩ := saveTransaction_filed filed distinct (mergeRow_named (by simp) _ _ _ _ _) into
    obtain ⟨first, _, _⟩ := saveTransaction_ok out
    obtain ⟨second, _, _⟩ := saveTransaction_ok into
    refine ⟨by rw [second, first], fun other => ?_, filedBoth, distinctBoth⟩
    rw [ledgerSum_append middle (by rw [second]), ledgerSum_append db (by rw [first])]
    rfl

theorem joinAccounts_step {key transferred} (balanced : db.Balanced)
    (apart : sourceId ≠ targetId) (ran : db.joinAccounts sourceId targetId key = .ok (after, transferred)) :
    LoyaltyStep db after := by
  unfold joinAccounts at ran
  split at ran
  · simp only [eq_ok] at ran
    obtain ⟨saved, stored, same⟩ := ran
    obtain ⟨rfl, _⟩ := mk.inj same
    obtain rfl := saveAccount_ok stored
    exact .of_holds (balanced.resaved rfl rfl rfl) rfl
  · next source found =>
    simp only [eq_ok] at ran
    obtain ⟨moved, transfer, emptied, first, joined, second, same⟩ := ran
    obtain ⟨rfl, _⟩ := mk.inj same
    obtain rfl := saveAccount_ok first
    obtain rfl := saveAccount_ok second
    obtain ⟨frame, ledger, filed, distinct⟩ := transfer_ok balanced transfer
    have sourcePosted := (posted_of_lookup found).symm.trans (balanced.ledger sourceId)
    have sourceHeld := heldOf_of_lookup found
    have targetPosted : db.posted targetId = ((db.accounts.lookup targetId).getD {}).postedPointsBalance := by
      rw [posted]
      cases db.accounts.lookup targetId <;> rfl
    have targetHeld : db.heldOf targetId = ((db.accounts.lookup targetId).getD {}).heldPoints := by
      rw [heldOf]
      cases db.accounts.lookup targetId <;> rfl
    have holds : moved.holds = db.holds := by rw [frame]
    have accounts : moved.accounts = db.accounts := by rw [frame]
    refine ⟨⟨fun other => ?_, fun other => ?_, ?_, filed, distinct⟩, fun other hold present => ⟨hold, ?_, fun _ => rfl⟩⟩
    · rw [posted_insert { moved with accounts := moved.accounts.insert sourceId source.emptied } rfl,
        posted_insert moved rfl]
      have unmoved : moved.posted other = db.posted other := by rw [posted, posted, accounts]
      have before := balanced.ledger other
      refine Eq.trans ?_ (ledger other).symm
      by_cases isTarget : other = targetId
      · subst isTarget
        rw [if_pos rfl, if_neg apart, if_pos rfl, LoyaltyAccountEntity.joined]
        dsimp only
        omega
      · by_cases isSource : other = sourceId
        · subst isSource
          rw [if_neg isTarget, if_pos rfl, if_pos rfl, if_neg (Ne.symm isTarget), LoyaltyAccountEntity.emptied]
          dsimp only
          omega
        · rw [if_neg isTarget, if_neg isSource, if_neg (Ne.symm isSource), if_neg (Ne.symm isTarget), unmoved]
          omega
    · rw [heldOf_insert { moved with accounts := moved.accounts.insert sourceId source.emptied } rfl,
        heldOf_insert moved rfl]
      have unmoved : moved.heldOf other = db.heldOf other := by rw [heldOf, heldOf, accounts]
      have same : moved.activeHoldsSum other = db.activeHoldsSum other := by
        rw [activeHoldsSum, activeHoldsSum, holds]
      refine Eq.trans ?_ ((balanced.held other).trans same.symm)
      by_cases isTarget : other = targetId
      · subst isTarget
        rw [if_pos rfl, targetHeld]
        rfl
      · by_cases isSource : other = sourceId
        · subst isSource
          rw [if_neg isTarget, if_pos rfl, sourceHeld]
          rfl
        · rw [if_neg isTarget, if_neg isSource, unmoved]
    · intro other hold present
      exact balanced.positive other hold (holds ▸ present)
    · exact holds ▸ present

theorem mergeCustomers_step {dto} (balanced : db.Balanced) (ran : mergeCustomers db dto = .ok after) :
    LoyaltyStep db after := by
  simp only [mergeCustomers, eq_ok] at ran
  obtain ⟨_, apart, ran⟩ := ran
  split at ran
  · simp only [eq_ok] at ran
    obtain ⟨_, _, rfl⟩ := ran
    exact .refl balanced
  · split at ran
    · rw [← pure_eq_ok.mp ran]
      exact .refl balanced
    · simp only [recordMerge, eq_ok] at ran
      obtain ⟨⟨source, target⟩, _, ⟨joined, transferred⟩, moved, _, _, rfl⟩ := ran
      have step := joinAccounts_step balanced apart moved
      exact ⟨step.balanced.of_same (fun _ => rfl) (fun _ => rfl) rfl rfl, step.holds⟩

theorem performLoyalty_step (balanced : db.Balanced) (operation : LoyaltyOperation) :
    LoyaltyStep db (performLoyalty db operation) := by
  have start : LoyaltyStep db db := .refl balanced
  cases operation with
  | putCustomer customerId customer => exact ⟨balanced.of_same (fun _ => rfl) (fun _ => rfl) rfl rfl, start.holds⟩
  | putSettings settings => exact ⟨balanced.of_same (fun _ => rfl) (fun _ => rfl) rfl rfl, start.holds⟩
  | adjustPoints customerId dto => exact commit_preserves _ start fun _ ran => adjustPoints_step balanced ran
  | createHold now holdId dto => exact commit_preserves _ start fun _ ran => createHold_step balanced ran
  | commitHold now holdId orderId => exact commit_preserves _ start fun _ ran => commitHold_step balanced ran
  | releaseHold holdId => exact commit_preserves _ start fun _ ran => releaseHold_step balanced ran
  | expireOverdueHolds now rows limit =>
    exact commit_preserves _ start fun _ ran => expireOverdueHolds_step balanced ran
  | processCompletedSale sale => exact commit_preserves _ start fun _ ran => processCompletedSale_step balanced ran
  | processCompletedReturn ret =>
    refine commit_preserves _ start fun _ ran => ?_
    cases processed : Customer.processCompletedReturn db ret with
    | error _ =>
      rw [processed] at ran
      cases ran
    | ok result =>
      rw [processed] at ran
      rw [← ok.inj ran]
      exact processCompletedReturn_step balanced processed
  | mergeCustomers dto => exact commit_preserves _ start fun _ ran => mergeCustomers_step balanced ran

theorem balanced_empty : ({} : LoyaltyDb).Balanced := by
  constructor
  · intro customerId
    rfl
  · intro customerId
    rfl
  · intro holdId hold found
    cases found
  · intro row member
    cases member
  · exact List.nodup_nil

theorem loyaltyAfter_balanced (operations : List LoyaltyOperation) : (loyaltyAfter operations).Balanced :=
  Run.invariant Balanced (fun _ operation balanced => (performLoyalty_step balanced operation).balanced) balanced_empty
    operations

theorem loyaltyAfter_hold (earlier later : List LoyaltyOperation) {holdId hold}
    (found : (loyaltyAfter earlier).holds.lookup holdId = some hold) (left : hold.state ≠ .held) :
    (loyaltyAfter (earlier ++ later)).holds.lookup holdId = some hold := by
  have kept : (Run.after performLoyalty (loyaltyAfter earlier) later).Balanced ∧
      (Run.after performLoyalty (loyaltyAfter earlier) later).holds.lookup holdId = some hold := by
    refine Run.invariant (fun db : LoyaltyDb => db.Balanced ∧ db.holds.lookup holdId = some hold) ?_
      ⟨loyaltyAfter_balanced earlier, found⟩ later
    intro db operation ⟨balanced, present⟩
    have step := performLoyalty_step balanced operation
    obtain ⟨last, ended, stays⟩ := step.holds holdId hold present
    exact ⟨step.balanced, ended.trans (congrArg some (stays left))⟩
  rw [loyaltyAfter, List.foldl_append]
  exact kept.2

theorem once_of_key {rows : List LoyaltyTransactionEntity} (distinct : (rows.map (·.idempotencyKey)).Nodup)
    {about} {key} (named : ∀ row ∈ rows, about row = true → row.idempotencyKey = key) :
    (rows.filter about).length ≤ 1 := by
  have keys : ((rows.filter about).map (·.idempotencyKey)).Nodup := distinct.sublist (List.filter_sublist.map _)
  have same : ∀ other ∈ (rows.filter about).map (·.idempotencyKey), other = key := by
    rw [List.forall_mem_map]
    intro row inside
    obtain ⟨listed, chosen⟩ := List.mem_filter.mp inside
    exact named row listed chosen
  rw [List.eq_replicate_of_mem same, List.nodup_replicate, List.length_map] at keys
  exact keys

/-- The return that an operation takes into account; none where it was applied before or is no known customer's. -/
def returnTaken (db : LoyaltyDb) : LoyaltyOperation → Option Uuid
  | .processCompletedReturn ret =>
    match processCompletedReturn db ret with
    | .ok (after, outcome) =>
      if outcome.replayed = false ∧ (after.projections.lookup ret.orderId).isSome = true then some ret.returnId else none
    | .error _ => none
  | _ => none

/-- The tables with the returns that were taken into account, one after the other. -/
structure LoyaltyTrace where
  db : LoyaltyDb := {}
  taken : List Uuid := []

def LoyaltyTrace.step (trace : LoyaltyTrace) (operation : LoyaltyOperation) : LoyaltyTrace where
  db := performLoyalty trace.db operation
  taken := trace.taken ++ (returnTaken trace.db operation).toList

/-- A return that comes again has a reversal of its own, or is the last that its order saw. -/
def Remembered (trace : LoyaltyTrace) : LoyaltyOperation → Prop
  | .processCompletedReturn ret => ret.returnId ∈ trace.taken →
      (trace.db.transaction (.reversalReturn ret.returnId)).isSome = true ∨
        ∃ projection ∈ trace.db.projections.lookup ret.orderId, projection.lastEventId = .ofReturn ret.returnId
  | _ => True

instance (trace : LoyaltyTrace) : ∀ operation, Decidable (Remembered trace operation)
  | .processCompletedReturn ret => inferInstanceAs (Decidable (ret.returnId ∈ trace.taken →
      (trace.db.transaction (.reversalReturn ret.returnId)).isSome = true ∨
        ∃ projection ∈ trace.db.projections.lookup ret.orderId, projection.lastEventId = .ofReturn ret.returnId))
  | .putCustomer .. | .putSettings .. | .adjustPoints .. | .createHold .. | .commitHold .. | .releaseHold .. |
    .expireOverdueHolds .. | .processCompletedSale .. | .mergeCustomers .. => isTrue trivial

theorem returnTaken_remembered (remembered : (db.transaction (.reversalReturn ret.returnId)).isSome = true ∨
      ∃ projection ∈ db.projections.lookup ret.orderId, projection.lastEventId = .ofReturn ret.returnId) :
    returnTaken db (.processCompletedReturn ret) = none := by
  rw [returnTaken]
  split
  · next after outcome processed =>
    have replayed : outcome.replayed = true := by
      unfold processCompletedReturn at processed
      split at processed
      · rw [← (mk.inj (ok.inj processed)).2]
      · next missing =>
        obtain ⟨projection, found, last⟩ : ∃ projection ∈ db.projections.lookup ret.orderId,
            projection.lastEventId = .ofReturn ret.returnId := by
          rcases remembered with row | last
          · rw [missing] at row
            cases row
          · exact last
        rw [bind_eq_ok] at processed
        obtain ⟨refund, _, processed⟩ := processed
        rw [mem_def.mp found] at processed
        dsimp only at processed
        rw [if_pos last] at processed
        rw [← (mk.inj (pure_eq_ok.mp processed)).2]
    rw [if_neg fun both => Bool.noConfusion (replayed.symm.trans both.1)]
  · rfl

open LoyaltyTrace

theorem LoyaltyTrace.step_nodup {trace} (once : trace.taken.Nodup) {operation}
    (remembered : Remembered trace operation) : (trace.step operation).taken.Nodup := by
  rw [step]
  cases taken : returnTaken trace.db operation with
  | none =>
    rw [toList_none, List.append_nil]
    exact once
  | some returnId =>
    rw [toList_some, List.nodup_append]
    refine ⟨once, List.nodup_singleton _, fun earlier member last single same => ?_⟩
    rw [List.mem_singleton.mp single] at same
    subst same
    cases operation with
    | processCompletedReturn ret =>
      have own : ret.returnId = earlier := by
        rw [returnTaken] at taken
        split at taken
        · split at taken
          · exact some.inj taken
          · cases taken
        · cases taken
      rw [returnTaken_remembered (remembered (own.symm ▸ member))] at taken
      cases taken
    | _ => cases taken

/-- After any operations every account says what its ledger and its holds add up to, no floor under held points is reached, a
hold that has left HELD stays as it is, and each order, hold and return is booked under its own key once at most. A return is
taken into account once at most while one that comes again has a reversal of its own or is the last that its order saw. -/
theorem loyalty_reconciles (operations : List LoyaltyOperation) :
    (∀ customerId account, (loyaltyAfter operations).accounts.lookup customerId = some account →
      account.postedPointsBalance = (loyaltyAfter operations).ledgerSum customerId ∧
      account.heldPoints = (loyaltyAfter operations).activeHoldsSum customerId) ∧
    (∀ row ∈ (loyaltyAfter operations).transactions, row.balanceBefore + row.pointsDelta = row.balanceAfter) ∧
    reconcileTenantLoyalty (loyaltyAfter operations) = [] ∧
    (∀ holdId now orderId, commitHold (loyaltyAfter operations) now holdId orderId =
        commitHoldWith id (loyaltyAfter operations) now holdId orderId ∧
      releaseHold (loyaltyAfter operations) holdId = releaseHoldWith id (loyaltyAfter operations) holdId) ∧
    (∀ now rows limit, expireOverdueHolds (loyaltyAfter operations) now rows limit =
      expireOverdueHoldsWith id (loyaltyAfter operations) now rows limit) ∧
    (∀ holdId hold later, (loyaltyAfter operations).holds.lookup holdId = some hold → hold.state ≠ .held →
      (loyaltyAfter (operations ++ later)).holds.lookup holdId = some hold) ∧
    (∀ orderId, ((loyaltyAfter operations).transactions.filter fun row =>
      row.transactionType = .earn ∧ row.orderId = some orderId).length ≤ 1) ∧
    (∀ holdId, ((loyaltyAfter operations).transactions.filter (·.holdId = some holdId)).length ≤ 1) ∧
    (∀ returnId, ((loyaltyAfter operations).transactions.filter (·.returnId = some returnId)).length ≤ 1) ∧
    (Run.Meets step Remembered {} operations → (Run.after step {} operations).taken.Nodup) := by
  have balanced := loyaltyAfter_balanced operations
  have agree : ∀ customerId account, (loyaltyAfter operations).accounts.lookup customerId = some account →
      account.postedPointsBalance = (loyaltyAfter operations).ledgerSum customerId ∧
      account.heldPoints = (loyaltyAfter operations).activeHoldsSum customerId := by
    intro customerId account found
    rw [← balanced.ledger, ← balanced.held, posted_of_lookup found, heldOf_of_lookup found]
    exact ⟨rfl, rfl⟩
  refine ⟨agree, fun row member => (balanced.filed row member).math, ?_,
    fun holdId now orderId => ⟨commitHold_floor balanced, releaseHold_floor balanced⟩,
    fun now rows limit => expireOverdueHolds_floor balanced,
    fun holdId hold later found left => loyaltyAfter_hold operations later found left, ?_, ?_, ?_, ?_⟩
  · apply List.filter_eq_nil_iff.mpr
    rw [List.forall_mem_map]
    intro entry listed
    obtain ⟨posted, held⟩ := agree entry.1 entry.2 (AList.mem_lookup_iff.mpr listed)
    simp [posted, held]
  · intro orderId
    apply once_of_key balanced.distinct
    intro row member about
    obtain ⟨earned, order⟩ := of_decide_eq_true about
    exact (balanced.filed row member).earned earned orderId order
  · intro holdId
    apply once_of_key balanced.distinct
    intro row member about
    exact (balanced.filed row member).redeemed holdId (of_decide_eq_true about)
  · intro returnId
    apply once_of_key balanced.distinct
    intro row member about
    exact (balanced.filed row member).returned returnId (of_decide_eq_true about)
  · intro remembered
    exact Run.invariant_of_meets (fun trace : LoyaltyTrace => trace.taken.Nodup)
      (fun _ _ condition once => step_nodup once condition) remembered List.nodup_nil

private def regular : LoyaltyOperation := .putCustomer 1 { code := "KH000001" }

private def tenPoints : LoyaltyOperation :=
  .processCompletedSale {
    eventId := 60, customerId := 1, orderId := 9, orderCode := "HD000001", originalOrderTotalVnd := 100000
    eligibleNetSpendVnd := 100000 }

private def halfBack : LoyaltyOperation :=
  .processCompletedReturn { returnId := 5, orderId := 9, customerId := some 1, refundAmountVnd := 50000 }

/-- A return that is told twice after its sale is taken once. -/
theorem return_taken_once : (Run.after step {} [regular, tenPoints, halfBack, halfBack]).taken.Nodup := by
  obtain ⟨_, _, _, _, _, _, _, _, _, once⟩ := loyalty_reconciles [regular, tenPoints, halfBack, halfBack]
  apply once
  decide +kernel

/-- A return that came before its sale, and comes again after it, takes the points of its half twice. -/
theorem return_taken_twice : ¬∀ operations, (Run.after step {} operations).taken.Nodup := by
  intro claim
  have once := claim [regular, halfBack, tenPoints, halfBack]
  exact absurd once (by decide +kernel)

end Customer
