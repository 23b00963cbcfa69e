import RetailApi.Customer.Loyalty

/-! A commit of an overdue hold frees its points and then throws, in one transaction. -/

namespace Customer

open Transaction

/-- The body of `commitHold`: what it has written when it returns or throws, and how it ends. -/
def commitHoldBody (db : LoyaltyDb) (now : Int) (holdId : Uuid) (orderId : Option Uuid) : LoyaltyDb × Except Failure Unit :=
  match lockHold db holdId with
  | .error failure => (db, .error failure)
  | .ok hold =>
    match db.ensureAccount hold.customerId with
    | .error failure => (db, .error failure)
    | .ok (ensured, account) =>
      if hold.state = .held ∧ hold.expiresAt ≤ now then
        match ensured.freeHold (max 0) holdId hold account .expired with
        | .error failure => (ensured, .error failure)
        | .ok freed => (freed, .error (.domain .loyaltyHoldExpired s!"Loyalty hold {holdId} has expired and cannot be committed" 409))
      else
        match commitHold db now holdId orderId with
        | .error failure => (ensured, .error failure)
        | .ok after => (after, .ok ())

/-- A transaction whose body throws is rolled back by the database layer. -/
def rollback (db : LoyaltyDb) (ended : LoyaltyDb × Except Failure Unit) : LoyaltyDb × Except Failure Unit :=
  match ended.2 with
  | .ok _ => ended
  | .error failure => (db, .error failure)

/-- The overdue hold is refused as expired, is stored as expired, and holds no points any more. -/
structure RefusedAndFreed (db : LoyaltyDb) (holdId : Uuid) (hold : LoyaltyHoldEntity) (ended : LoyaltyDb × Except Failure Unit) :
    Prop where
  answer : ∃ message, ended.2 = .error (.domain .loyaltyHoldExpired message 409)
  expired : ∃ stored, ended.1.holds.lookup holdId = some stored ∧ stored.state = .expired
  freed : ((ended.1.accounts.lookup hold.customerId).getD {}).heldPoints =
    ((db.accounts.lookup hold.customerId).getD {}).heldPoints - hold.points

variable {db : LoyaltyDb} {now : Int} {holdId : Uuid}

/-- Whatever the state, the hold stays HELD with its points, and so after every repetition of the call. -/
theorem overdue_hold_never_freed (db : LoyaltyDb) (now : Int) (holdId : Uuid) (orderId : Option Uuid) (hold : LoyaltyHoldEntity)
    (found : db.holds.lookup holdId = some hold) (held : hold.state = .held) (overdue : hold.expiresAt ≤ now) :
    (rollback db (commitHoldBody db now holdId orderId)).1 = db ∧
      ¬ RefusedAndFreed db holdId hold (rollback db (commitHoldBody db now holdId orderId)) := by
  have same : (rollback db (commitHoldBody db now holdId orderId)).1 = db := by
    have locked : lockHold db holdId = .ok hold := required_eq_ok.mpr found
    rw [commitHoldBody, locked]
    simp only
    split
    · rfl
    · rw [if_pos ⟨held, overdue⟩]
      split <;> rfl
  refine ⟨same, fun claimed => ?_⟩
  obtain ⟨stored, stays, expired⟩ := claimed.expired
  rw [same, found] at stays
  cases stays
  cases held.symm.trans expired

def overdueHold : LoyaltyHoldEntity where
  customerId := 1
  callerService := "sales"
  idempotencyKey := "checkout-1"
  sourceRefType := "CHECKOUT"
  sourceRefId := "1"
  points := 50
  discountValueVnd := 50000
  state := .held
  expiresAt := 10

def overdueDb : LoyaltyDb where
  accounts := (∅ : Table Uuid LoyaltyAccountEntity).insert 1 { postedPointsBalance := 80, heldPoints := 50 }
  holds := (∅ : Table Uuid LoyaltyHoldEntity).insert 7 overdueHold

theorem overdue_hold_stays : (rollback overdueDb (commitHoldBody overdueDb 20 7 none)).1 = overdueDb ∧
    ¬ RefusedAndFreed overdueDb 7 overdueHold (rollback overdueDb (commitHoldBody overdueDb 20 7 none)) :=
  overdue_hold_never_freed overdueDb 20 7 none overdueHold rfl rfl (by decide)

/-- The body has freed the 50 points by the time it throws; the rollback holds them again. -/
theorem freed_points_held_again :
    let body := commitHoldBody overdueDb 20 7 none
    ((body.1.accounts.lookup 1).map (·.heldPoints) = some 0 ∧ (body.1.holds.lookup 7).map (·.state) = some .expired) ∧
      ((rollback overdueDb body).1.accounts.lookup 1).map (·.heldPoints) = some 50 ∧
      ((rollback overdueDb body).1.holds.lookup 7).map (·.state) = some .held ∧
      ¬ RefusedAndFreed overdueDb 7 overdueHold (rollback overdueDb body) := by
  refine ⟨⟨rfl, rfl⟩, rfl, rfl, fun claimed => ?_⟩
  obtain ⟨stored, stays, expired⟩ := claimed.expired
  cases stays
  cases expired

end Customer
