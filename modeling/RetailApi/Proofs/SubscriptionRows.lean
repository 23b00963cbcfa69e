import RetailApi.Base.PartialIndex
import RetailApi.Platform.Subscriptions

/-! What the transactions on the subscriptions of a store may have written, and what is committed of it: one current
subscription, once there is one, and paid periods that do not overlap. -/

namespace Platform

open RowLocks SubscriptionEntity SubscriptionStage SubscriptionRun Option AList

/-- The subscription ran out more than the days of grace ago, on a plan that costs something. -/
def SubscriptionEntity.Lapsed (row : SubscriptionEntity) (settings : SubscriptionSettings) (now : Int) (graceDays : Nat) : Prop :=
  (∃ expiresAt, row.expiresAt = some expiresAt ∧ expiresAt + graceDays * dayMs ≤ now) ∧
    ∃ plan, settings.plans.lookup row.planCode = some plan ∧ 0 < plan.priceMonthly

def SubscriptionStage.clock (stage : SubscriptionStage) : Option (Int × Nat) := stage.job.map fun job => (job.now, job.graceDays)

/-- A row is closed in the transaction, and `free` not started yet. -/
def SubscriptionStage.closing : SubscriptionStage → Bool
  | .startFree .. => true
  | _ => false

/-- What a transaction may do to a row: end it where it has lapsed by the clock of its job, and never revive it. -/
structure Keeps (settings : SubscriptionSettings) (clock : Option (Int × Nat)) (before after : SubscriptionEntity) : Prop where
  expired : before.status = .expired → after.status = .expired
  closes : before.isCurrent = true → after.isCurrent = false →
    ∃ time ∈ clock, before.Lapsed settings time.1 time.2
  dates : clock.isSome = true → after.planCode = before.planCode ∧ after.expiresAt = before.expiresAt

theorem Keeps.refl (settings : SubscriptionSettings) (clock : Option (Int × Nat)) (row : SubscriptionEntity) :
    Keeps settings clock row row :=
  ⟨id, fun current closed => absurd current (by rw [closed]; exact Bool.false_ne_true), fun _ => ⟨rfl, rfl⟩⟩

variable {settings : SubscriptionSettings} {run : SubscriptionRun} {call : Nat} {tx next : SubscriptionTransaction}
  {rows : Table Uuid SubscriptionEntity} {payments : List SubscriptionPaymentEntity} {stage : SubscriptionStage} {id : Uuid}
  {row : SubscriptionEntity}

theorem SubscriptionEntity.not_expired (current : isCurrent row = true) : row.status ≠ .expired := by
  intro expired
  rw [isCurrent, expired] at current
  cases current

theorem Keeps.current {before after} (live : before.status ≠ .expired) (current : after.isCurrent = true) :
    Keeps settings none before after :=
  ⟨fun expired => absurd expired live, fun _ closed => absurd current (by rw [closed]; exact Bool.false_ne_true),
    fun impossible => absurd impossible Bool.false_ne_true⟩

/-- The two payments do not cover one day of a subscription twice. -/
def SubscriptionPaymentEntity.Apart (first second : SubscriptionPaymentEntity) : Prop :=
  first.subscriptionId = second.subscriptionId →
    first.periodEnd ≤ second.periodStart ∨ second.periodEnd ≤ first.periodStart

theorem SubscriptionPaymentEntity.Apart.symm {first second : SubscriptionPaymentEntity} (apart : first.Apart second) :
    second.Apart first := fun same => (apart same.symm).symm

def RecordPaymentReqDto.payment (request : RecordPaymentReqDto) : SubscriptionPaymentEntity :=
  ⟨request.subscriptionId, request.periodStart, request.periodEnd⟩

/-- The row is locked and unchanged. -/
def LocksRow (locks : Locks Uuid SubscriptionEntity) (id : Uuid) (row : SubscriptionEntity) : Prop :=
  locks.lookup id = some ⟨some row, some row⟩

/-- What a transaction knows between two statements. -/
def SubscriptionStage.Fits (locks : Locks Uuid SubscriptionEntity) (payments : List SubscriptionPaymentEntity) :
    SubscriptionStage → Prop
  | .checkPaid request | .renew request => ∃ row, LocksRow locks request.subscriptionId row ∧ row.isCurrent = true
  | .insertPayment request => (∃ row, LocksRow locks request.subscriptionId row ∧ row.isCurrent = true) ∧
      ∀ payment ∈ payments, request.payment.Apart payment
  | .lockPaid _ | .findCurrent _ | .lockCurrent .. => locks = ∅
  | .movePlan _ id => ∃ row, LocksRow locks id row
  | _ => True

/-- What a transaction that is running keeps, whatever the others do beside it. -/
structure SubscriptionTransaction.Sound (settings : SubscriptionSettings) (rows : Table Uuid SubscriptionEntity)
    (payments : List SubscriptionPaymentEntity) (tx : SubscriptionTransaction) : Prop where
  occupied : tx.stage.closing = false → (∃ id, (seen tx.locks rows id).isSome = true) →
    Occupied isCurrent (seen tx.locks rows)
  versions : ∀ id version, tx.locks.lookup id = some version → ∃ after, version.after = some after ∧
    ∀ before, version.before = some before → Keeps settings tx.stage.clock before after
  fits : tx.stage.Fits tx.locks payments
  pending : ∀ payment, tx.payment = some payment → (tx.locks.lookup payment.subscriptionId).isSome = true ∧
    ∀ other ∈ payments, payment.Apart other

def SubscriptionRun.locksOf (run : SubscriptionRun) (call : Nat) : Locks Uuid SubscriptionEntity :=
  ((run.calls.lookup call).map (·.locks)).getD ∅

/-- The invariant: at most one current subscription, one at least from the first on, no period paid twice. -/
structure SubscriptionRun.Kept (settings : SubscriptionSettings) (run : SubscriptionRun) : Prop where
  indexed : Indexed isCurrent run.rows run.locksOf
  started : (∃ id, (run.rows.lookup id).isSome = true) → Occupied isCurrent run.rows.lookup
  sound : ∀ call tx, run.calls.lookup call = some (.running tx) →
    tx.Sound settings run.rows run.payments
  payments : run.payments.Pairwise SubscriptionPaymentEntity.Apart

namespace SubscriptionTransaction.Sound

section

variable (sound : tx.Sound settings rows payments)

include sound

theorem keeps (held : Held tx.locks rows)
    (sees : seen tx.locks rows id = some row) {before} (stored : rows.lookup id = some before) :
    Keeps settings tx.stage.clock before row := by
  cases locked : tx.locks.lookup id with
  | none =>
    rw [seen_free locked, stored] at sees
    cases sees
    exact Keeps.refl ..
  | some version =>
    obtain ⟨after, made, keeps⟩ := sound.versions id version locked
    rw [seen_locked locked, made] at sees
    cases sees
    exact keeps before ((held id version locked).symm.trans stored)

theorem seen_isSome (stored : (rows.lookup id).isSome = true) : (seen tx.locks rows id).isSome = true := by
  cases locked : tx.locks.lookup id with
  | none =>
    rw [seen_free locked]
    exact stored
  | some version =>
    obtain ⟨after, made, -⟩ := sound.versions id version locked
    rw [seen_locked locked, made]
    rfl

theorem goTo (before : tx.stage.closing = false)
    (clock : stage.clock = tx.stage.clock) (fits : stage.Fits tx.locks payments) :
    Sound settings rows payments { tx with stage } :=
  ⟨fun _ => sound.occupied before, fun id version locked => by
    obtain ⟨after, made, keeps⟩ := sound.versions id version locked
    exact ⟨after, made, fun before stored => clock ▸ keeps before stored⟩, fits, sound.pending⟩

theorem write (held : Held tx.locks rows) (clock : stage.clock = tx.stage.clock)
    (keeps : ∀ before, rows.lookup id = some before → Keeps settings tx.stage.clock before row)
    (occupied : stage.closing = true ∨ row.isCurrent = true ∨
      tx.stage.closing = false ∧ seen tx.locks rows id = some row)
    (fits : stage.Fits (RowLocks.write tx.locks rows id (some row)) payments) :
    Sound settings rows payments { tx with stage, locks := RowLocks.write tx.locks rows id (some row) } := by
  refine ⟨?_, ?_, fits, ?_⟩
  · intro unclosed known
    rcases occupied with closing | current | ⟨before, same⟩
    · cases closing.symm.trans unclosed
    · exact ⟨id, row, by rw [seen_write, if_pos rfl], current⟩
    · have view : seen (RowLocks.write tx.locks rows id (some row)) rows = seen tx.locks rows := by
        funext other
        rw [seen_write]
        split
        · next here => rw [here, same]
        · rfl
      replace known : ∃ id', (seen (RowLocks.write tx.locks rows id (some row)) rows id').isSome = true := known
      rw [view] at known ⊢
      exact sound.occupied before known
  · intro other version locked
    replace locked : (RowLocks.write tx.locks rows id (some row)).lookup other = some version := locked
    rw [lookup_write, held.before] at locked
    by_cases here : other = id
    · rw [if_pos here] at locked
      cases locked
      exact ⟨row, rfl, fun before stored => clock ▸ keeps before stored⟩
    · rw [if_neg here] at locked
      obtain ⟨after, made, kept⟩ := sound.versions other version locked
      exact ⟨after, made, fun before stored => clock ▸ kept before stored⟩
  · intro payment pays
    obtain ⟨locked, apart⟩ := sound.pending payment pays
    refine ⟨?_, apart⟩
    rw [lookup_write]
    split
    · rfl
    · exact locked

end

end SubscriptionTransaction.Sound

theorem locksRow_write (held : Held tx.locks rows) (stored : rows.lookup id = some row) :
    LocksRow (write tx.locks rows id (some row)) id row := by
  rw [LocksRow, lookup_write, if_pos rfl, held.before, stored]

theorem locksOf_running (found : run.calls.lookup call = some (.running tx)) : run.locksOf call = tx.locks := by
  rw [locksOf, found]
  rfl

theorem locksOf_put (run : SubscriptionRun) (call : Nat) (state : SubscriptionCall) (other : Nat) :
    (run.put call state).locksOf other = if other = call then state.locks else run.locksOf other := by
  rw [SubscriptionRun.locksOf, SubscriptionRun.put, Table.lookup_insert_if]
  split <;> rfl

theorem locksOf_others (run : SubscriptionRun) (call : Nat) (state : SubscriptionCall) :
    ∀ other, other ≠ call → (run.put call state).locksOf other = run.locksOf other := by
  intro other apart
  rw [locksOf_put, if_neg apart]

theorem mem_lockedBeside {other} (apart : other ≠ call) {state}
    (found : run.calls.lookup other = some state) : state.locks ∈ run.lockedBeside call := by
  rw [lockedBeside, List.mem_map]
  refine ⟨⟨other, state⟩, List.mem_filter.mpr ⟨mem_lookup_iff.mp found, ?_⟩, rfl⟩
  exact decide_eq_true apart

theorem isFree_beside (free : isFree (run.lockedBeside call) id = true) {other} (apart : other ≠ call) :
    (run.locksOf other).lookup id = none := by
  rw [isFree, List.all_eq_true] at free
  cases found : run.calls.lookup other with
  | none =>
    rw [locksOf, found]
    rfl
  | some state =>
    rw [locksOf, found]
    exact isNone_iff_eq_none.mp (free _ (mem_lockedBeside apart found))

/-- A row that one transaction has locked no other has. -/
theorem SubscriptionRun.Kept.sole (kept : run.Kept settings) (found : run.calls.lookup call = some (.running tx))
    (locked : (tx.locks.lookup id).isSome = true) {other} (apart : other ≠ call) :
    (run.locksOf other).lookup id = none := by
  refine (kept.indexed.apart call other (Ne.symm apart) id).resolve_left ?_
  rw [locksOf_running found]
  exact fun none => by rw [none] at locked; cases locked

theorem hasCurrentBeside_false {locks} (alone : run.hasCurrentBeside locks id = false) {other}
    (apart : other ≠ id) {otherRow} (sees : seen locks run.rows other = some otherRow) : otherRow.isCurrent = false := by
  rw [hasCurrentBeside, List.any_eq_false] at alone
  have listed : other ∈ run.rows.keys ++ locks.keys := by
    rw [List.mem_append]
    cases locked : locks.lookup other with
    | none =>
      rw [seen_free locked] at sees
      exact .inl (mem_keys.mpr (lookup_isSome.mp (by rw [sees]; rfl)))
    | some version => exact .inr (mem_keys.mpr (lookup_isSome.mp (by rw [locked]; rfl)))
  have uncovered := alone other listed
  rw [sees, any_some, Bool.and_eq_true, not_and, Bool.not_eq_true] at uncovered
  exact uncovered (decide_eq_true apart)

/-- A row that becomes current passed the unique index: no other is, nor is about to be. -/
theorem save_goes {stage} (free : ∀ other, other ≠ call → (run.locksOf other).lookup id = none)
    (went : run.save (run.lockedBeside call) tx id row stage = .goes next) :
    next = { tx with stage, locks := write tx.locks run.rows id (some row) } ∧
      (row.isCurrent = true → (∀ other, other ≠ call → ∀ key, ¬Raises isCurrent (run.locksOf other) key) ∧
        ∀ other otherRow, other ≠ id → seen tx.locks run.rows other = some otherRow → otherRow.isCurrent = false) := by
  rw [save] at went
  split at went
  · cases went
  · next settled =>
    split at went
    · cases went
    · next alone =>
      cases went
      refine ⟨rfl, ?_⟩
      intro current
      rw [current, Bool.true_and] at settled alone
      refine ⟨?_, fun other otherRow apart sees => hasCurrentBeside_false (Bool.not_eq_true _ ▸ alone) apart sees⟩
      rintro other apart key ⟨version, locked, after, before⟩
      -- a row that is being brought under the index makes the statement wait
      apply settled
      cases found : run.calls.lookup other with
      | none =>
        rw [locksOf, found] at locked
        cases locked
      | some state =>
        have own : run.locksOf other = state.locks := by
          rw [locksOf, found]
          rfl
        refine List.any_eq_true.mpr ⟨state.locks, mem_lockedBeside apart found, ?_⟩
        refine List.any_eq_true.mpr ⟨⟨key, version⟩, mem_lookup_iff.mp (own ▸ locked), ?_⟩
        have different : key ≠ id := by
          rintro rfl
          rw [free other apart] at locked
          cases locked
        have changed : version.before ≠ version.after := by
          intro same
          rw [same, after] at before
          cases before
        rw [Bool.and_eq_true]
        exact ⟨decide_eq_true different, decide_eq_true ⟨changed, .inr after⟩⟩

/-- A statement may leave the transaction so. -/
structure SubscriptionRun.Goes (settings : SubscriptionSettings) (run : SubscriptionRun) (call : Nat)
    (next : SubscriptionTransaction) : Prop where
  sound : next.Sound settings run.rows run.payments
  indexed : Indexed isCurrent run.rows (run.put call (.running next)).locksOf

namespace SubscriptionRun.Kept

section Goes

variable (kept : run.Kept settings) (found : run.calls.lookup call = some (.running tx))
include kept found

theorem held : Held tx.locks run.rows := locksOf_running found ▸ kept.indexed.held call

theorem goes_same (same : next.locks = tx.locks) (sound : next.Sound settings run.rows run.payments) :
    run.Goes settings call next := by
  refine ⟨sound, ?_⟩
  have unchanged : (run.put call (.running next)).locksOf = run.locksOf := by
    funext other
    rw [locksOf_put]
    split
    · next here =>
      rw [here, locksOf_running found]
      exact same
    · rfl
  rw [unchanged]
  exact kept.indexed

theorem goes_to (before : tx.stage.closing = false) (clock : stage.clock = tx.stage.clock)
    (fits : stage.Fits tx.locks run.payments) : run.Goes settings call { tx with stage } :=
  kept.goes_same found rfl ((kept.sound call tx found).goTo before clock fits)

theorem goes_lock (unlocked : tx.locks = ∅) (unheld : ¬(!isFree (run.lockedBeside call) id) = true)
    (stored : run.rows.lookup id = some row) (before : tx.stage.closing = false) (clock : stage.clock = tx.stage.clock)
    (fits : LocksRow (write tx.locks run.rows id (some row)) id row →
      stage.Fits (write tx.locks run.rows id (some row)) run.payments) :
    run.Goes settings call { tx with stage, locks := write tx.locks run.rows id (some row) } := by
  rw [Bool.not_eq_true, Bool.not_eq_false'] at unheld
  have free : ∀ other, other ≠ call → (run.locksOf other).lookup id = none := fun other apart => isFree_beside unheld apart
  have sees : seen tx.locks run.rows id = some row := by
    rw [unlocked]
    exact stored
  have sound := kept.sound call tx found
  have fits := fits (locksRow_write (kept.held found) stored)
  refine ⟨sound.write (kept.held found) clock ?_ (.inr (.inr ⟨before, sees⟩)) fits, ?_⟩
  · intro committed same
    cases stored.symm.trans same
    exact Keeps.refl ..
  · refine kept.indexed.write (locksOf_others run call _) row free ?_ ?_
    · intro current
      refine ⟨?_, ?_⟩
      · -- nobody brings a row under the index beside one that is committed
        rintro other apart key ⟨version, locked, after, before⟩
        obtain ⟨raised, made, covered⟩ := (any_eq_true _ _).mp after
        have view := kept.indexed.views other key id raised row ((seen_locked locked).trans made)
          ((seen_free (free other apart)).trans stored) covered current
        rw [view, free other apart] at locked
        cases locked
      · intro other otherRow apart otherSees
        by_contra covered
        rw [Bool.not_eq_false] at covered
        rw [← locksOf_running found] at sees
        exact apart (kept.indexed.views call other id otherRow row otherSees sees covered current)
    · rw [locksOf_put, if_pos rfl, locksOf_running found]
      rfl

theorem goes_save (free : ∀ other, other ≠ call → (run.locksOf other).lookup id = none)
    (clock : stage.clock = tx.stage.clock)
    (keeps : ∀ before, run.rows.lookup id = some before →
      (row.isCurrent = true → ∀ other otherRow, other ≠ id → seen tx.locks run.rows other = some otherRow →
        otherRow.isCurrent = false) → Keeps settings tx.stage.clock before row)
    (occupied : stage.closing = true ∨ row.isCurrent = true)
    (fits : stage.Fits (write tx.locks run.rows id (some row)) run.payments)
    (went : run.save (run.lockedBeside call) tx id row stage = .goes next) : run.Goes settings call next := by
  obtain ⟨rfl, unique⟩ := save_goes free went
  have sound := kept.sound call tx found
  refine ⟨sound.write (kept.held found) clock (fun before stored => keeps before stored fun current => (unique current).2)
    (occupied.imp_right .inl) fits, ?_⟩
  refine kept.indexed.write (locksOf_others run call _) row free ?_ ?_
  · intro current
    refine ⟨(unique current).1, ?_⟩
    rw [locksOf_running found]
    exact (unique current).2
  · rw [locksOf_put, if_pos rfl, locksOf_running found]
    rfl

end Goes

section Statements

variable (kept : run.Kept settings) (found : run.calls.lookup call = some (.running tx))
include kept found

theorem insert_goes {drawn planCode} (clock : stage.clock = tx.stage.clock)
    (fits : ∀ locks, stage.Fits locks run.payments)
    (went : run.insert settings (run.lockedBeside call) tx drawn planCode stage = .goes next) :
    run.Goes settings call next := by
  rw [insert] at went
  split at went
  · cases went
  · split at went
    · cases went
    · next fresh =>
      simp only [Bool.or_eq_true, not_or, Bool.not_eq_true, Bool.not_eq_false'] at fresh
      obtain ⟨⟨absent, -⟩, free⟩ := fresh
      refine kept.goes_save found (fun other apart => isFree_beside free apart) clock ?_ (.inr rfl) (fits _) went
      intro before stored
      rw [isSome_eq_false_iff, isNone_iff_eq_none] at absent
      cases absent.symm.trans stored

theorem lockPaid_goes {request} (here : tx.stage = .lockPaid request)
    (went : run.lockPaid settings (run.lockedBeside call) tx request = .goes next) : run.Goes settings call next := by
  have unlocked : Fits tx.locks run.payments (.lockPaid request) := here ▸ (kept.sound call tx found).fits
  rw [lockPaid] at went
  split at went
  · cases went
  · next free =>
    split at went
    · cases went
    · next row stored =>
      split at went
      · cases went
      · split at went
        · cases went
        · next payable =>
          rw [not_or, Bool.not_eq_false] at payable
          split at went
          · cases went
          · cases went
            exact kept.goes_lock found unlocked free stored (by rw [here]; rfl) (by rw [here]; rfl)
              fun locked => ⟨row, locked, payable.2⟩

theorem lockCurrent_goes {request} (here : tx.stage = .lockCurrent request id)
    (went : run.lockCurrent settings (run.lockedBeside call) tx request id = .goes next) : run.Goes settings call next := by
  have unlocked : Fits tx.locks run.payments (.lockCurrent request id) := here ▸ (kept.sound call tx found).fits
  rw [lockCurrent] at went
  split at went
  · cases went
  · next free =>
    split at went
    · cases went
    · next row stored =>
      split at went
      · cases went
      · split at went
        · cases went
        · split at went
          · cases went
          · cases went
            exact kept.goes_lock found unlocked free stored (by rw [here]; rfl) (by rw [here]; rfl) fun locked => ⟨row, locked⟩

theorem checkPaid_goes {request} (here : tx.stage = .checkPaid request)
    (went : run.checkPaid tx request = .goes next) : run.Goes settings call next := by
  rw [checkPaid] at went
  split at went
  · cases went
  · next clear =>
    cases went
    have fits := (kept.sound call tx found).fits
    rw [here] at fits
    refine kept.goes_to found (by rw [here]; rfl) (by rw [here]; rfl) ⟨fits, ?_⟩
    intro payment paid same
    rw [Bool.not_eq_true, List.any_eq_false] at clear
    have apart := clear payment paid
    rw [decide_eq_true_iff] at apart
    by_contra overlap
    rw [not_or, not_le, not_le] at overlap
    exact apart ⟨same.symm, overlap.1, overlap.2⟩

theorem insertPayment_goes {request} (here : tx.stage = .insertPayment request)
    (went : run.insertPayment tx request = .goes next) : run.Goes settings call next := by
  rw [insertPayment] at went
  split at went
  · cases went
  · cases went
    have sound := kept.sound call tx found
    obtain ⟨⟨row, locked, current⟩, apart⟩ : Fits tx.locks run.payments (.insertPayment request) :=
      here ▸ sound.fits
    refine kept.goes_same found rfl ⟨fun _ => sound.occupied (by rw [here]; rfl), ?_, ?_, ?_⟩
    · intro id version locked
      obtain ⟨after, made, keeps⟩ := sound.versions id version locked
      refine ⟨after, made, fun before stored => ?_⟩
      have kept := keeps before stored
      rw [here] at kept
      split <;> exact kept
    · show Fits _ _ (if _ then _ else _)
      split
      · trivial
      · exact ⟨row, locked, current⟩
    · rintro _ ⟨⟩
      exact ⟨by rw [locked]; rfl, apart⟩

theorem renew_goes {request} (here : tx.stage = .renew request)
    (went : run.renew (run.lockedBeside call) tx request = .goes next) : run.Goes settings call next := by
  obtain ⟨row, locked, current⟩ : Fits tx.locks run.payments (.renew request) :=
    here ▸ (kept.sound call tx found).fits
  have sees : seen tx.locks run.rows request.subscriptionId = some row := seen_locked locked
  rw [renew, sees] at went
  refine kept.goes_save found (fun other apart => kept.sole found (by rw [locked]; rfl) apart) (by rw [here]; rfl) ?_ (.inr rfl)
    (by trivial) went
  intro before stored _
  have same : some row = some before := (kept.held found _ _ locked).symm.trans stored
  cases same
  rw [here]
  exact Keeps.current (not_expired current) rfl

theorem findCurrent_goes {request} (here : tx.stage = .findCurrent request)
    (went : run.findCurrent tx request = .goes next) : run.Goes settings call next := by
  rw [findCurrent] at went
  split at went
  · cases went
  · cases went
    have fits := (kept.sound call tx found).fits
    rw [here] at fits
    exact kept.goes_to found (by rw [here]; rfl) (by rw [here]; rfl) fits

theorem movePlan_goes {request} (here : tx.stage = .movePlan request id)
    (went : run.movePlan (run.lockedBeside call) tx request id = .goes next) : run.Goes settings call next := by
  have sound := kept.sound call tx found
  obtain ⟨row, locked⟩ : Fits tx.locks run.payments (.movePlan request id) := here ▸ sound.fits
  refine kept.goes_save found (fun other apart => kept.sole found (by rw [locked]; rfl) apart) (by rw [here]; rfl) ?_ (.inr rfl)
    (by trivial) went
  intro before stored alone
  have same : some row = some before := (kept.held found _ _ locked).symm.trans stored
  cases same
  rw [here]
  refine Keeps.current (fun expired => ?_) rfl
  have sees : seen tx.locks run.rows id = some row := seen_locked locked
  obtain ⟨other, otherRow, otherSees, current⟩ := sound.occupied (by rw [here]; rfl) ⟨id, by rw [sees]; rfl⟩
  have apart : other ≠ id := by
    rintro rfl
    cases sees.symm.trans otherSees
    exact not_expired current expired
  rw [alone rfl other otherRow apart otherSees] at current
  cases current

variable {status : SubscriptionStatus}

omit kept found in
theorem isDue_iff {now graceDays} :
    isDue settings status now graceDays row = true ↔ row.status = status ∧ row.Lapsed settings now graceDays := by
  rw [isDue, decide_eq_true_iff, Lapsed]
  refine and_congr_right fun _ => and_congr ?_ ?_
  · rw [any_eq_true]
    refine exists_congr fun expiresAt => and_congr_right fun _ => ?_
    rw [decide_eq_true_iff]
    omega
  · rw [any_eq_true]
    exact exists_congr fun plan => and_congr_right fun _ => decide_eq_true_iff

omit kept found in
theorem due_row {now graceDays} {version}
    (tested : version.filter (isDue settings status now graceDays) = some row) :
    version = some row ∧ row.status = status ∧ row.Lapsed settings now graceDays := by
  obtain ⟨found, due⟩ := filter_eq_some_iff.mp tested
  exact ⟨found, isDue_iff.mp due⟩

/-- One row that is past due, as the statement sees it after it waited for the lock. -/
theorem movePast_goes {job ids} (here : tx.stage = .movePast job ids)
    (went : run.movePast settings (run.lockedBeside call) tx job ids = .goes next) : run.Goes settings call next := by
  have before : tx.stage.closing = false := by rw [here]; rfl
  cases ids with
  | nil =>
    cases went
    exact kept.goes_to found before (by rw [here]; rfl) trivial
  | cons id ids =>
    rw [movePast] at went
    split at went
    · cases went
    · next free =>
      rw [Bool.not_eq_true, Bool.not_eq_false'] at free
      split at went
      · cases went
        exact kept.goes_to found before (by rw [here]; rfl) trivial
      · next row tested =>
        obtain ⟨sees, active, -⟩ := due_row tested
        refine kept.goes_save found (fun other apart => isFree_beside free apart) (by rw [here]; rfl) ?_ (.inr rfl)
          (by trivial) went
        intro committed stored _
        have keeps := (kept.sound call tx found).keeps (kept.held found) sees stored
        refine ⟨fun expired => ?_, fun _ closed => ?_, keeps.dates⟩
        · rw [keeps.expired expired] at active
          cases active
        · cases closed

theorem closeAll_goes {job ids} (here : tx.stage = .closeAll job ids)
    (went : run.closeAll settings (run.lockedBeside call) tx job ids = .goes next) : run.Goes settings call next := by
  have before : tx.stage.closing = false := by rw [here]; rfl
  cases ids with
  | nil =>
    cases went
    exact kept.goes_to found before (by rw [here]; rfl) trivial
  | cons id ids =>
    rw [closeAll] at went
    split at went
    · cases went
    · next free =>
      rw [Bool.not_eq_true, Bool.not_eq_false'] at free
      split at went
      · cases went
        exact kept.goes_to found before (by rw [here]; rfl) trivial
      · next row tested =>
        obtain ⟨sees, -, lapsed⟩ := due_row tested
        refine kept.goes_save found (fun other apart => isFree_beside free apart) (by rw [here]; rfl) ?_ (.inl rfl)
          (by trivial) went
        intro committed stored _
        have keeps := (kept.sound call tx found).keeps (kept.held found) sees stored
        have clock : tx.stage.clock = some (job.now, job.graceDays) := by rw [here]; rfl
        refine ⟨fun _ => rfl, fun _ _ => ⟨(job.now, job.graceDays), clock, ?_⟩, keeps.dates⟩
        obtain ⟨plan, dates⟩ := keeps.dates (by rw [clock]; rfl)
        rw [Lapsed, ← plan, ← dates]
        exact lapsed

/-- One lemma per statement above; this one puts them together. -/
theorem statement_goes {drawn}
    (went : run.statement settings (run.lockedBeside call) drawn tx = .goes next) : run.Goes settings call next := by
  rw [statement] at went
  split at went
  · next planCode here => exact kept.insert_goes found (by rw [here]; rfl) (fun _ => by trivial) went
  · next request here => exact kept.lockPaid_goes found here went
  · next request here => exact kept.checkPaid_goes found here went
  · next request here => exact kept.insertPayment_goes found here went
  · next request here => exact kept.renew_goes found here went
  · next request here => exact kept.findCurrent_goes found here went
  · next request id here => exact kept.lockCurrent_goes found here went
  · next request id here => exact kept.movePlan_goes found here went
  · next job here =>
    cases went
    exact kept.goes_to found (by rw [here]; rfl) (by rw [here]; rfl) trivial
  · next job ids here => exact kept.movePast_goes found here went
  · next job here =>
    cases went
    exact kept.goes_to found (by rw [here]; rfl) (by rw [here]; rfl) trivial
  · next job ids here => exact kept.closeAll_goes found here went
  · next job ids here => exact kept.insert_goes found (by rw [here]; rfl) (fun _ => by trivial) went
  · cases went

end Statements

section Commit

variable {result : SubscriptionResult} (kept : run.Kept settings)
  (found : run.calls.lookup call = some (.running tx)) (here : tx.stage = .commit result)
include kept found here

variable {beside : SubscriptionTransaction}

theorem occupied_beside {other} (apart : other ≠ call)
    (otherFound : run.calls.lookup other = some (.running beside)) (before : beside.stage.closing = false)
    (known : ∃ id, (seen beside.locks (apply tx.locks run.rows) id).isSome = true) :
    Occupied isCurrent (seen beside.locks (apply tx.locks run.rows)) := by
  have sound := kept.sound call tx found
  have otherSound := kept.sound other beside otherFound
  have own := locksOf_running found
  have its := locksOf_running otherFound
  have sees : ∀ id, (beside.locks.lookup id).isSome = true → (seen beside.locks run.rows id).isSome = true := by
    intro id locked
    obtain ⟨version, stored⟩ := isSome_iff_exists.mp locked
    obtain ⟨after, made, -⟩ := otherSound.versions id version stored
    rw [seen_locked stored, made]
    rfl
  have keepsView : Occupied isCurrent (seen tx.locks run.rows) →
      Occupied isCurrent (seen beside.locks run.rows) →
      Occupied isCurrent (seen beside.locks (apply tx.locks run.rows)) := by
    rw [← own, ← its]
    exact kept.indexed.occupied_commit apart
  by_cases occupied : Occupied isCurrent (seen tx.locks run.rows)
  · obtain ⟨id, row, current, covered⟩ := occupied
    by_cases locked : (beside.locks.lookup id).isSome = true
    · exact keepsView ⟨id, row, current, covered⟩ (otherSound.occupied before ⟨id, sees id locked⟩)
    · exact ⟨id, row, by rw [seen_apply, if_neg locked]; exact current, covered⟩
  · -- nothing is committed, so the other transaction sees what it has written itself
    have nothing : ∀ id, seen tx.locks run.rows id = none := by
      intro id
      rw [← not_isSome_iff_eq_none]
      exact fun some => occupied (sound.occupied (by rw [here]; rfl) ⟨id, some⟩)
    obtain ⟨id, some⟩ := known
    rw [seen_apply] at some
    by_cases locked : (beside.locks.lookup id).isSome = true
    · obtain ⟨wanted, row, current, covered⟩ := otherSound.occupied before ⟨id, sees id locked⟩
      refine ⟨wanted, row, ?_, covered⟩
      rw [seen_apply]
      split
      · exact current
      · next free =>
        rw [seen_free (not_isSome_iff_eq_none.mp free)] at current
        have gone := sound.seen_isSome (by rw [current]; rfl)
        rw [nothing wanted] at gone
        cases gone
    · rw [if_neg locked, nothing id] at some
      cases some

omit here in
theorem payments_apart {other} (apart : other ≠ call)
    (otherFound : run.calls.lookup other = some (.running beside)) {payment own : SubscriptionPaymentEntity}
    (locked : (beside.locks.lookup payment.subscriptionId).isSome = true) (pays : tx.payment = some own) :
    payment.Apart own := by
  intro same
  have mine := ((kept.sound call tx found).pending own pays).1
  have free := kept.sole found mine apart
  rw [locksOf_running otherFound, ← same] at free
  rw [free] at locked
  cases locked

/-- The versions of a transaction become the rows that all see. -/
theorem commit : (run.commit call tx result).Kept settings := by
  have sound := kept.sound call tx found
  have own := locksOf_running found
  refine ⟨?_, ?_, ?_, ?_⟩
  · have indexed := kept.indexed.commit (locksOf_others run call (.finished (.ok result)))
      (by rw [locksOf_put, if_pos rfl]; rfl)
    rw [own] at indexed
    exact indexed
  · rintro ⟨id, some⟩
    have sees := lookup_apply tx.locks run.rows
    obtain ⟨current, row, found, covered⟩ := sound.occupied (by rw [here]; rfl) ⟨id, by rw [← sees]; exact some⟩
    exact ⟨current, row, (sees current).trans found, covered⟩
  · intro other beside otherFound
    rcases Table.of_lookup_insert otherFound with ⟨-, impossible⟩ | ⟨apart, earlier⟩
    · cases impossible
    · have otherSound := kept.sound other beside earlier
      have paid : ∀ payment : SubscriptionPaymentEntity, (beside.locks.lookup payment.subscriptionId).isSome = true →
          (∀ old ∈ run.payments, payment.Apart old) → ∀ old ∈ run.payments ++ tx.payment.toList, payment.Apart old := by
        intro payment locked old other member
        rcases List.mem_append.mp member with listed | new
        · exact old other listed
        · exact kept.payments_apart found apart earlier locked (mem_toList.mp new)
      refine ⟨fun before => kept.occupied_beside found here apart earlier before, otherSound.versions, ?_, ?_⟩
      · have fits := otherSound.fits
        cases stage : beside.stage with
        | insertPayment request =>
          rw [stage] at fits
          obtain ⟨⟨row, locked, current⟩, clear⟩ := fits
          exact ⟨⟨row, locked, current⟩, paid request.payment (by rw [RecordPaymentReqDto.payment, locked]; rfl) clear⟩
        | _ =>
          rw [stage] at fits
          exact fits
      · intro payment pays
        obtain ⟨locked, clear⟩ := otherSound.pending payment pays
        exact ⟨locked, paid payment locked clear⟩
  · refine List.pairwise_append.mpr ⟨kept.payments, ?_, ?_⟩
    · cases tx.payment <;> simp
    · intro old listed payment new
      exact ((sound.pending payment (mem_toList.mp new)).2 old listed).symm

end Commit

variable {state : SubscriptionCall} {input : SubscriptionInput}

section

variable (kept : run.Kept settings)

include kept

theorem put (indexed : Indexed isCurrent run.rows (run.put call state).locksOf)
    (sound : ∀ tx, state = .running tx → tx.Sound settings run.rows run.payments) :
    (run.put call state).Kept settings := by
  refine ⟨indexed, kept.started, ?_, kept.payments⟩
  intro other tx found
  rcases Table.of_lookup_insert found with ⟨-, same⟩ | ⟨-, earlier⟩
  · exact sound tx same.symm
  · exact kept.sound other tx earlier

theorem putIdle (empty : state.locks = ∅)
    (sound : ∀ tx, state = .running tx → tx.Sound settings run.rows run.payments) :
    (run.put call state).Kept settings :=
  kept.put (kept.indexed.drop (locksOf_others run call state) (by rw [locksOf_put, if_pos rfl, empty])) sound

theorem finish (outcome : Except SubscriptionError SubscriptionResult) : (run.put call (.finished outcome)).Kept settings :=
  kept.putIdle rfl fun tx same => by cases same

theorem begins (fits : stage.Fits ∅ run.payments) : (run.put call (.running { stage })).Kept settings := by
  refine kept.putIdle rfl ?_
  rintro _ ⟨⟩
  refine ⟨fun _ => kept.started, fun id version locked => ?_, fits, fun payment pays => ?_⟩
  · cases locked
  · cases pays

theorem begin (begun : settings.begin run input = some (call, state)) : (run.put call state).Kept settings := by
  cases input with
  | start _ planCode allowHidden =>
    cases begun
    split
    · exact kept.begins trivial
    · exact kept.finish _
  | recordPayment _ request =>
    cases begun
    split
    · exact kept.finish _
    · exact kept.begins rfl
  | changePlan _ request =>
    cases begun
    split
    · exact kept.finish _
    · split
      · exact kept.begins rfl
      · exact kept.finish _
  | expire _ now graceDays =>
    cases begun
    split
    · exact kept.finish _
    · exact kept.begins trivial
  | next | lose | tick => cases begun

theorem next_kept {drawn} (found : run.calls.lookup call = some (.running tx)) :
    (run.next settings call drawn tx).Kept settings := by
  rw [next]
  split
  · next result here => exact kept.commit found here
  · split
    · exact kept
    · exact kept.finish _
    · next transaction' went =>
      obtain ⟨sound, indexed⟩ := kept.statement_goes found went
      refine kept.put indexed ?_
      rintro _ ⟨⟩
      exact sound

end

theorem step (kept : run.Kept settings) : (run.step settings input).Kept settings := by
  cases input with
  | next call drawn =>
    rw [step]
    split
    · next found => exact kept.next_kept found
    · exact kept
  | lose call =>
    rw [step]
    split
    · exact kept.finish _
    · exact kept
  | tick milliseconds => exact ⟨kept.indexed, kept.started, kept.sound, kept.payments⟩
  | start call planCode allowHidden | recordPayment call request | changePlan call request | expire call now graceDays =>
    unfold step
    dsimp only
    split
    · next begun =>
      split
      · exact kept
      · exact kept.begin begun
    · exact kept

theorem empty (now : Int) : Kept settings { now } := by
  refine ⟨⟨fun _ _ _ found => ?_, fun _ _ _ _ => .inl rfl, ?_, fun _ => ?_, ?_⟩, ?_, ?_, .nil⟩
  · cases found
  · intro key other row otherRow found
    cases found
  · intro key other row otherRow found
    cases found
  · rintro one two key other - ⟨version, found, -⟩
    cases found
  · rintro ⟨id, some⟩
    cases some
  · intro call tx found
    cases found

end SubscriptionRun.Kept

end Platform
