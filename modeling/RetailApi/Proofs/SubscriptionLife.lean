import RetailApi.Base.Run
import RetailApi.Proofs.SubscriptionRows

/-! The life of a store's subscriptions over every interleaving: what a step may do to a committed row, and what a second run
of the expiry job finds left to do. -/

namespace Platform

open RowLocks SubscriptionRun Option Run Table List
open SubscriptionRun (isDue)

variable {settings : SubscriptionSettings} {run : SubscriptionRun} {call : Nat} {tx : SubscriptionTransaction}
  {rows : Table Uuid SubscriptionEntity} {payments : List SubscriptionPaymentEntity} {stage : SubscriptionStage} {id : Uuid}
  {row : SubscriptionEntity} {now : Int} {graceDays : Nat}

theorem runs_kept (settings : SubscriptionSettings) (now : Int) (inputs : List SubscriptionInput) :
    (after (step settings) { now } inputs).Kept settings :=
  invariant (Kept settings) (fun _ _ kept => kept.step) (.empty now) inputs

theorem step_rows (settings : SubscriptionSettings) (run : SubscriptionRun) (input : SubscriptionInput) :
    (run.step settings input).rows = run.rows ∨ ∃ call drawn tx result, input = .next call drawn ∧
      run.calls.lookup call = some (.running tx) ∧ tx.stage = .commit result ∧
      (run.step settings input).rows = apply tx.locks run.rows := by
  cases input with
  | next call drawn =>
    rw [step]
    split
    · next tx found =>
      rw [SubscriptionRun.next]
      split
      · next result here => exact .inr ⟨call, drawn, tx, result, rfl, found, here, rfl⟩
      · left
        split <;> rfl
    · exact .inl rfl
  | lose call =>
    left
    rw [step]
    split <;> rfl
  | tick milliseconds => exact .inl rfl
  | start call planCode allowHidden | recordPayment call request | changePlan call request | expire call now graceDays =>
    left
    unfold step
    dsimp only
    split
    · split <;> rfl
    · rfl

theorem SubscriptionRun.Kept.step_row (kept : run.Kept settings) (input : SubscriptionInput)
    (stored : run.rows.lookup id = some row) : ∃ after, (run.step settings input).rows.lookup id = some after ∧ (after = row ∨
      ∃ call drawn tx result, input = .next call drawn ∧ run.calls.lookup call = some (.running tx) ∧
        tx.stage = .commit result ∧ Keeps settings tx.stage.clock row after) := by
  rcases step_rows settings run input with same | ⟨call, drawn, tx, result, rfl, found, here, rows⟩
  · exact ⟨row, by rw [same]; exact stored, .inl rfl⟩
  · have sound := kept.sound call tx found
    have there : (run.rows.lookup id).isSome = true := by rw [stored]; rfl
    obtain ⟨after, sees⟩ := isSome_iff_exists.mp (sound.seen_isSome there)
    refine ⟨after, by rw [rows, lookup_apply]; exact sees, .inr ⟨call, drawn, tx, result, rfl, found, here, ?_⟩⟩
    exact sound.keeps (kept.held found) sees stored

theorem SubscriptionRun.Kept.expired (kept : run.Kept settings) (stored : run.rows.lookup id = some row)
    (expired : row.status = .expired) (inputs : List SubscriptionInput) :
    ∃ after, (Run.after (SubscriptionRun.step settings) run inputs).rows.lookup id = some after ∧ after.status = .expired := by
  refine (Run.invariant (fun run : SubscriptionRun => run.Kept settings ∧
    ∃ after, run.rows.lookup id = some after ∧ after.status = .expired) ?_ ⟨kept, row, stored, expired⟩ inputs).2
  rintro run input ⟨kept, row, stored, expired⟩
  refine ⟨kept.step, ?_⟩
  obtain ⟨after, found, rfl | ⟨_, _, _, _, -, -, -, keeps⟩⟩ := kept.step_row input stored
  · exact ⟨after, found, expired⟩
  · exact ⟨after, found, keeps.expired expired⟩

theorem SubscriptionRun.Kept.closed (kept : run.Kept settings) {input} (stored : run.rows.lookup id = some row)
    (current : row.isCurrent = true)
    (closed : ∀ after, (run.step settings input).rows.lookup id = some after → after.isCurrent = false) :
    ∃ call drawn tx job, input = .next call drawn ∧ run.calls.lookup call = some (.running tx) ∧
      tx.stage = .commit (.ran job) ∧ row.Lapsed settings job.now job.graceDays := by
  obtain ⟨after, found, same | ⟨call, drawn, tx, result, next, running, here, keeps⟩⟩ := kept.step_row input stored
  · rw [same] at found
    rw [closed row found] at current
    cases current
  · obtain ⟨time, clock, lapsed⟩ := keeps.closes current (closed after found)
    rw [here] at clock
    cases result with
    | ran job =>
      cases clock
      exact ⟨call, drawn, tx, job, next, running, here, lapsed⟩
    | started | paid | changed | skipped => cases clock

def SubscriptionInput.Only (call : Nat) : SubscriptionInput → Prop
  | .next other _ => other = call
  | .tick _ => True
  | _ => False

def NoneDue (settings : SubscriptionSettings) (view : Uuid → Option SubscriptionEntity) (status : SubscriptionStatus) (now : Int)
    (graceDays : Nat) : Prop :=
  ∀ id row, view id = some row → isDue settings status now graceDays row = false

/-- What a run of the job has seen to at its statement, while nobody else commits. -/
def SubscriptionStage.SeenTo (settings : SubscriptionSettings) (rows : Table Uuid SubscriptionEntity)
    (view : Uuid → Option SubscriptionEntity) (now : Int) (graceDays : Nat) (stage : SubscriptionStage) : Prop :=
  stage.clock = some (now, graceDays) ∧
  match stage with
  | .duePast _ => ∀ id row, view id = some row → (rows.lookup id).isSome = true
  | .movePast _ ids => (∀ id row, view id = some row → (rows.lookup id).isSome = true) ∧
      ∀ id row, view id = some row → isDue settings .active now 0 row = true → id ∈ ids
  | .dueGrace _ => (∀ id row, view id = some row → (rows.lookup id).isSome = true) ∧ NoneDue settings view .active now 0
  | .closeAll _ ids | .startFree _ ids => NoneDue settings view .active now 0 ∧
      ∀ id row, view id = some row → isDue settings .pastDue now graceDays row = true → id ∈ ids
  | .commit (.ran _) => NoneDue settings view .active now 0 ∧ NoneDue settings view .pastDue now graceDays
  | _ => False

/-- The subscription that follows a closed one is not due by the clock of the job: `free` has no price, or the clock is not
ahead of the time that `start` dates it by. -/
def FreeLasts (settings : SubscriptionSettings) (now time : Int) : Prop :=
  (∀ plan, settings.plans.lookup freePlanCode = some plan → plan.priceMonthly = 0) ∨
    (∀ time, time < settings.nextMonth time) ∧ now ≤ time

variable {status : SubscriptionStatus} {next : SubscriptionTransaction} {others : List (Locks Uuid SubscriptionEntity)}
  {drawn : Uuid}

theorem mem_due {locks} (stored : (run.rows.lookup id).isSome = true)
    (sees : seen locks run.rows id = some row) (due : isDue settings status now graceDays row = true) :
    id ∈ run.due settings locks status now graceDays := by
  rw [SubscriptionRun.due, mem_filter, sees]
  exact ⟨AList.mem_keys.mpr (AList.lookup_isSome.mp stored), due⟩

theorem save_view (went : run.save others tx id row stage = .goes next) :
    next.stage = stage ∧ next.payment = tx.payment ∧
      ∀ wanted, seen next.locks run.rows wanted = if wanted = id then some row else seen tx.locks run.rows wanted := by
  rw [save] at went
  split at went
  · cases went
  · split at went
    · cases went
    · cases went
      exact ⟨rfl, rfl, fun wanted => seen_write _ _ _ wanted _⟩

theorem isDue_status (due : isDue settings status now graceDays row = true) : row.status = status := by
  rw [isDue, decide_eq_true_iff] at due
  exact due.1

theorem free_not_due {plan} (found : settings.plans.lookup freePlanCode = some plan)
    (lasts : FreeLasts settings now run.now) (status : SubscriptionStatus) : isDue settings status now graceDays
      { planCode := freePlanCode, status := .active, startedAt := run.now,
        expiresAt := if plan.priceMonthly = 0 then none else some (settings.nextMonth run.now) } = false := by
  rw [← Bool.not_eq_true, isDue, decide_eq_true_iff]
  rintro ⟨-, due, -⟩
  split at due
  · cases due
  · next priced =>
    rcases lasts with free | ⟨later, notAhead⟩
    · exact priced (free plan found)
    · have reached : settings.nextMonth run.now ≤ now - graceDays * dayMs := of_decide_eq_true due
      have ahead := later run.now
      have forward : (0 : Int) ≤ graceDays * dayMs := Int.mul_nonneg (Int.natCast_nonneg _) (by decide)
      omega

theorem NoneDue.save {view after : Uuid → Option SubscriptionEntity} {ids : List Uuid}
    (listed : ∀ id row, view id = some row → isDue settings status now graceDays row = true → id ∈ ids)
    (undue : isDue settings status now graceDays row = false)
    (saved : ∀ wanted, after wanted = if wanted = id then some row else view wanted) :
    ∀ other found, after other = some found → isDue settings status now graceDays found = true → other ≠ id ∧ other ∈ ids := by
  intro other found sees due
  rw [saved] at sees
  by_cases here : other = id
  · rw [if_pos here] at sees
    cases sees
    cases undue.symm.trans due
  · rw [if_neg here] at sees
    exact ⟨here, listed other found sees due⟩

theorem noneDue_iff {view} : NoneDue settings view status now graceDays ↔
      ∀ id row, view id = some row → isDue settings status now graceDays row = true → id ∈ ([] : List Uuid) := by
  constructor
  · intro none id row sees due
    rw [none id row sees] at due
    cases due
  · intro listed id row sees
    rw [← Bool.not_eq_true]
    exact fun due => absurd (listed id row sees due) not_mem_nil

theorem not_due_of_status (different : row.status ≠ status) : isDue settings status now graceDays row = false := by
  rw [← Bool.not_eq_true]
  exact fun due => different (isDue_status due)

section Statements

variable {next : SubscriptionTransaction} {others : List (Locks Uuid SubscriptionEntity)} {job : ExpiryRun} {ids : List Uuid}
  (seenTo : tx.stage.SeenTo settings run.rows (seen tx.locks run.rows) now graceDays)

include seenTo

open NoneDue

theorem movePast_seenTo (here : tx.stage = .movePast job ids)
    (went : run.movePast settings others tx job ids = .goes next) :
    next.stage.SeenTo settings run.rows (seen next.locks run.rows) now graceDays ∧ next.payment = tx.payment := by
  rw [here] at seenTo
  obtain ⟨clock, known, listed⟩ := seenTo
  cases ids with
  | nil =>
    cases went
    exact ⟨⟨clock, known, noneDue_iff.mpr listed⟩, rfl⟩
  | cons id ids =>
    rw [movePast] at went
    split at went
    · cases went
    · split at went
      · next tested =>
        cases went
        refine ⟨⟨clock, known, fun other row sees due => mem_of_ne_of_mem ?_ (listed other row sees due)⟩, rfl⟩
        rintro rfl
        rw [sees, filter_eq_none_iff] at tested
        rw [(Prod.mk.inj (some.inj clock)).1] at tested
        exact tested row rfl due
      · next row tested =>
        obtain ⟨stage, payment, view⟩ := save_view went
        have sees := (Kept.due_row tested).1
        refine ⟨?_, payment⟩
        rw [stage]
        refine ⟨clock, ?_, ?_⟩
        · intro other found shown
          rw [view] at shown
          split at shown
          · next same => exact same ▸ known id row sees
          · exact known other found shown
        · intro other found shown due
          obtain ⟨apart, member⟩ := save listed (not_due_of_status (by simp)) view other found shown due
          exact mem_of_ne_of_mem apart member

theorem closeAll_seenTo (here : tx.stage = .closeAll job ids)
    (went : run.closeAll settings others tx job ids = .goes next) :
    next.stage.SeenTo settings run.rows (seen next.locks run.rows) now graceDays ∧ next.payment = tx.payment := by
  rw [here] at seenTo
  obtain ⟨clock, none, listed⟩ := seenTo
  cases ids with
  | nil =>
    cases went
    exact ⟨⟨clock, none, noneDue_iff.mpr listed⟩, rfl⟩
  | cons id ids =>
    obtain ⟨nowIs, graceIs⟩ := Prod.mk.inj (some.inj clock)
    rw [closeAll] at went
    split at went
    · cases went
    · split at went
      · next tested =>
        cases went
        refine ⟨⟨clock, none, fun other row sees due => mem_of_ne_of_mem ?_ (listed other row sees due)⟩, rfl⟩
        rintro rfl
        rw [sees, filter_eq_none_iff, nowIs, graceIs] at tested
        exact tested row rfl due
      · next row tested =>
        obtain ⟨stage, payment, view⟩ := save_view went
        refine ⟨?_, payment⟩
        rw [stage]
        refine ⟨clock, noneDue_iff.mpr ?_, ?_⟩
        · intro other found shown due
          exact (save (noneDue_iff.mp none) (not_due_of_status (by simp)) view other found shown due).2
        · intro other found shown due
          obtain ⟨apart, member⟩ := save listed (not_due_of_status (by simp)) view other found shown due
          exact mem_of_ne_of_mem apart member

theorem startFree_seenTo {drawn : Uuid} (here : tx.stage = .startFree job ids) (lasts : FreeLasts settings now run.now)
    (went : run.insert settings others tx drawn freePlanCode (.closeAll job ids) = .goes next) :
    next.stage.SeenTo settings run.rows (seen next.locks run.rows) now graceDays ∧ next.payment = tx.payment := by
  rw [here] at seenTo
  obtain ⟨clock, none, listed⟩ := seenTo
  rw [SubscriptionRun.insert] at went
  split at went
  · cases went
  · next plan found =>
    split at went
    · cases went
    · obtain ⟨stage, payment, view⟩ := save_view went
      refine ⟨?_, payment⟩
      rw [stage]
      refine ⟨clock, noneDue_iff.mpr ?_, ?_⟩
      · intro other row shown due
        exact (save (noneDue_iff.mp none) (free_not_due found lasts .active) view other row shown due).2
      · intro other row shown due
        exact (save listed (free_not_due found lasts .pastDue) view other row shown due).2

theorem statement_seenTo {drawn} (lasts : FreeLasts settings now run.now)
    (went : run.statement settings others drawn tx = .goes next) :
    next.stage.SeenTo settings run.rows (seen next.locks run.rows) now graceDays ∧ next.payment = tx.payment := by
  rw [statement] at went
  split at went
  -- the statements of the requests are not the job's
  iterate 8
    · next here =>
      rw [here] at seenTo
      exact seenTo.2.elim
  · next job here =>
    rw [here] at seenTo
    obtain ⟨clock, known⟩ := seenTo
    cases went
    refine ⟨⟨clock, known, fun id row sees due => ?_⟩, rfl⟩
    rw [(Prod.mk.inj (some.inj clock)).1]
    exact mem_due (known id row sees) sees due
  · next job ids here => exact movePast_seenTo seenTo here went
  · next job here =>
    rw [here] at seenTo
    obtain ⟨clock, known, none⟩ := seenTo
    obtain ⟨nowIs, graceIs⟩ := Prod.mk.inj (some.inj clock)
    cases went
    refine ⟨⟨clock, none, fun id row sees due => ?_⟩, rfl⟩
    rw [nowIs, graceIs]
    exact mem_due (known id row sees) sees due
  · next job ids here => exact closeAll_seenTo seenTo here went
  · next job ids here => exact startFree_seenTo seenTo here lasts went
  · cases went

end Statements

def Settled (settings : SubscriptionSettings) (rows : Table Uuid SubscriptionEntity) (now : Int) (graceDays : Nat) : Prop :=
  NoneDue settings rows.lookup .active now 0 ∧ NoneDue settings rows.lookup .pastDue now graceDays

def JobState (settings : SubscriptionSettings) (now : Int) (graceDays : Nat) (run : SubscriptionRun) : SubscriptionCall → Prop
  | .running tx => tx.stage.SeenTo settings run.rows (seen tx.locks run.rows) now graceDays ∧
      tx.payment = none
  | .finished (.ok (.ran _)) => Settled settings run.rows now graceDays
  | .finished _ => True

theorem FreeLasts.tick {time} (lasts : FreeLasts settings now time) (milliseconds : Nat) :
    FreeLasts settings now (time + milliseconds) :=
  lasts.imp_right fun priced => ⟨priced.1, by omega⟩

theorem next_jobState (lasts : FreeLasts settings now run.now)
    (seenTo : tx.stage.SeenTo settings run.rows (seen tx.locks run.rows) now graceDays)
    (unpaid : tx.payment = none) (found : run.calls.lookup call = some (.running tx)) :
    ∃ state, (run.next settings call drawn tx).calls.lookup call = some state ∧
      JobState settings now graceDays (run.next settings call drawn tx) state := by
  rw [SubscriptionRun.next]
  split
  · next result here =>
    refine ⟨.finished (.ok result), lookup_insert_self _ _ _, ?_⟩
    rw [here] at seenTo
    obtain ⟨-, settled⟩ := seenTo
    cases result with
    | ran job =>
      have committed : (run.commit call tx (.ran job)).rows.lookup = seen tx.locks run.rows :=
        funext (lookup_apply tx.locks run.rows)
      rw [JobState, Settled, committed]
      exact settled
    | started | paid | changed | skipped => exact settled.elim
  · split
    · exact ⟨.running tx, found, seenTo, unpaid⟩
    · next error _ => exact ⟨.finished (.error error), lookup_insert_self _ _ _, trivial⟩
    · next next went =>
      obtain ⟨later, payment⟩ := statement_seenTo seenTo lasts went
      exact ⟨.running next, lookup_insert_self _ _ _, later, payment.trans unpaid⟩

theorem job_alone (inputs : List SubscriptionInput) (only : ∀ input ∈ inputs, input.Only call)
    (start : FreeLasts settings now run.now ∧ ∃ state, run.calls.lookup call = some state ∧ JobState settings now graceDays run state) :
    ∃ state, (after (step settings) run inputs).calls.lookup call = some state ∧
      JobState settings now graceDays (after (step settings) run inputs) state := by
  refine (invariant_of_meets (fun run : SubscriptionRun => FreeLasts settings now run.now ∧
    ∃ state, run.calls.lookup call = some state ∧ JobState settings now graceDays run state) ?_
    (meets_of_inputs only) start).2
  rintro run input only ⟨lasts, state, found, fits⟩
  cases input with
  | tick milliseconds => exact ⟨lasts.tick milliseconds, state, found, by cases state <;> exact fits⟩
  | next other drawn =>
    cases only
    rw [step, found]
    cases state with
    | running tx =>
      have time : (run.next settings call drawn tx).now = run.now := by
        rw [SubscriptionRun.next]
        split
        · rfl
        · split <;> rfl
      exact ⟨time ▸ lasts, next_jobState lasts fits.1 fits.2 found⟩
    | finished result => exact ⟨lasts, _, found, fits⟩
  | start | recordPayment | changePlan | expire | lose => cases only

def SubscriptionStage.Idle (now : Int) (graceDays : Nat) (stage : SubscriptionStage) : Prop :=
  stage.clock = some (now, graceDays) ∧
  match stage with
  | .duePast _ | .dueGrace _ | .commit (.ran _) => True
  | .movePast _ ids | .closeAll _ ids => ids = []
  | _ => False

def IdleState (now : Int) (graceDays : Nat) : SubscriptionCall → Prop
  | .running tx => tx.locks = ∅ ∧ tx.payment = none ∧ tx.stage.Idle now graceDays
  | .finished _ => True

theorem due_eq_nil (none : NoneDue settings run.rows.lookup status now graceDays) :
    run.due settings ∅ status now graceDays = [] := by
  rw [due, filter_eq_nil_iff]
  intro id _ due
  obtain ⟨row, found, due⟩ := (any_eq_true _ _).mp due
  rw [none id row found] at due
  cases due

theorem statement_idle (settled : Settled settings run.rows now graceDays) (idle : IdleState now graceDays (.running tx))
    (went : run.statement settings others drawn tx = .goes next) : IdleState now graceDays (.running next) := by
  obtain ⟨locks, payment, clock, stage⟩ := idle
  rw [statement] at went
  split at went
  iterate 8
    · next here =>
      rw [here] at stage
      exact stage.elim
  · next job here =>
    rw [here] at clock
    cases went
    refine ⟨locks, payment, clock, ?_⟩
    rw [locks, (Prod.mk.inj (some.inj clock)).1]
    exact due_eq_nil settled.1
  · next job ids here =>
    rw [here] at clock stage
    cases stage
    cases went
    exact ⟨locks, payment, clock, trivial⟩
  · next job here =>
    rw [here] at clock
    obtain ⟨nowIs, graceIs⟩ := Prod.mk.inj (some.inj clock)
    cases went
    refine ⟨locks, payment, clock, ?_⟩
    rw [locks, nowIs, graceIs]
    exact due_eq_nil settled.2
  · next job ids here =>
    rw [here] at clock stage
    cases stage
    cases went
    exact ⟨locks, payment, clock, trivial⟩
  · next here =>
    rw [here] at stage
    exact stage.elim
  · cases went

theorem next_idle (sameRows : run.rows = rows) (samePayments : run.payments = payments)
    (settled : Settled settings rows now graceDays) (idle : IdleState now graceDays (.running tx))
    (found : run.calls.lookup call = some (.running tx)) :
    (run.next settings call drawn tx).rows = rows ∧ (run.next settings call drawn tx).payments = payments ∧
      ∃ state, (run.next settings call drawn tx).calls.lookup call = some state ∧ IdleState now graceDays state := by
  rw [SubscriptionRun.next]
  split
  · next result here =>
    obtain ⟨locks, payment, -⟩ := idle
    refine ⟨?_, ?_, .finished (.ok result), lookup_insert_self _ _ _, trivial⟩
    · rw [commit, locks]
      exact sameRows
    · rw [commit, payment, toList_none, append_nil]
      exact samePayments
  · split
    · exact ⟨sameRows, samePayments, _, found, idle⟩
    · next error _ => exact ⟨sameRows, samePayments, .finished (.error error), lookup_insert_self _ _ _, trivial⟩
    · next next went =>
      exact ⟨sameRows, samePayments, .running next, lookup_insert_self _ _ _, statement_idle (sameRows ▸ settled) idle went⟩

theorem job_idle (inputs : List SubscriptionInput) (only : ∀ input ∈ inputs, input.Only call)
    (settled : Settled settings rows now graceDays)
    (start : run.rows = rows ∧ run.payments = payments ∧
      ∃ state, run.calls.lookup call = some state ∧ IdleState now graceDays state) :
    (after (step settings) run inputs).rows = rows ∧
      (after (step settings) run inputs).payments = payments := by
  have kept := invariant_of_meets (fun run : SubscriptionRun => run.rows = rows ∧ run.payments = payments ∧
    ∃ state, run.calls.lookup call = some state ∧ IdleState now graceDays state) ?_

    (show Meets (step settings) _ run inputs from meets_of_inputs only) start
  · exact ⟨kept.1, kept.2.1⟩
  · rintro run input only ⟨sameRows, samePayments, state, found, idle⟩
    cases input with
    | tick milliseconds => exact ⟨sameRows, samePayments, state, found, idle⟩
    | next other drawn =>
      cases only
      rw [step, found]
      cases state with
      | finished result => exact ⟨sameRows, samePayments, _, found, idle⟩
      | running tx =>
        exact next_idle sameRows samePayments settled idle found
    | start | recordPayment | changePlan | expire | lose => cases only

theorem expire_begins (run : SubscriptionRun) (unused : run.calls.lookup call = none) :
    run.step settings (.expire call now graceDays) = run.put call (.finished (.ok .skipped)) ∨
      run.step settings (.expire call now graceDays) = run.put call (.running { stage := .duePast { now, graceDays } }) := by
  show (if (run.calls.lookup call).isSome = true then run else run.put call (if _ then _ else _)) = _ ∨
    (if (run.calls.lookup call).isSome = true then run else run.put call (if _ then _ else _)) = _
  rw [unused, isSome_none, if_neg Bool.false_ne_true]
  split
  · exact .inl rfl
  · exact .inr rfl

theorem job_twice {first second ran firstInputs secondInputs after}
    (ended : Run.after (step settings) run (.expire first now graceDays :: firstInputs) = after)
    (lasts : FreeLasts settings now run.now) (unused : run.calls.lookup first = none)
    (firstOnly : ∀ input ∈ firstInputs, input.Only first) (secondOnly : ∀ input ∈ secondInputs, input.Only second)
    (done : after.calls.lookup first = some (.finished (.ok (.ran ran)))) (fresh : after.calls.lookup second = none) :
    let twice := Run.after (step settings) after (.expire second now graceDays :: secondInputs)
    twice.rows = after.rows ∧ twice.payments = after.payments := by
  subst ended
  have settled : Settled settings (Run.after (step settings) run (.expire first now graceDays :: firstInputs)).rows now graceDays := by
    have begun : FreeLasts settings now (run.step settings (.expire first now graceDays)).now ∧
        ∃ state, (run.step settings (.expire first now graceDays)).calls.lookup first = some state ∧
          JobState settings now graceDays (run.step settings (.expire first now graceDays)) state := by
      rcases expire_begins run unused with skipped | started
      · rw [skipped]
        exact ⟨lasts, _, lookup_insert_self _ _ _, trivial⟩
      · rw [started]
        refine ⟨lasts, _, lookup_insert_self _ _ _, ⟨rfl, fun id row sees => ?_⟩, rfl⟩
        replace sees : run.rows.lookup id = some row := sees
        show (run.rows.lookup id).isSome = true
        rw [sees]
        rfl
    obtain ⟨state, found, fits⟩ := job_alone firstInputs firstOnly begun
    have same : some state = some _ := found.symm.trans done
    cases same
    exact fits
  refine job_idle secondInputs secondOnly settled ?_
  rcases expire_begins _ fresh with skipped | started
  · rw [skipped]
    exact ⟨rfl, rfl, _, lookup_insert_self _ _ _, trivial⟩
  · rw [started]
    exact ⟨rfl, rfl, _, lookup_insert_self _ _ _, rfl, rfl, rfl, trivial⟩

/-- Whatever calls overlap, statement by statement: at most one subscription is current, and one is once there is any; expired
ones stay so; paid periods do not overlap; the job alone closes a plan, past its end and grace; and where the `free` it starts
is not due by its clock, a second run at that clock changes nothing. -/
theorem subscription_life (settings : SubscriptionSettings) (start : Int) (inputs : List SubscriptionInput) :
    let run := Run.after (SubscriptionRun.step settings) { now := start } inputs
    Single SubscriptionEntity.isCurrent run.rows.lookup ∧
    ((∃ id, (run.rows.lookup id).isSome = true) → Occupied SubscriptionEntity.isCurrent run.rows.lookup) ∧
    (∀ id row, run.rows.lookup id = some row → row.status = .expired → ∀ later, ∃ after,
      (Run.after (SubscriptionRun.step settings) run later).rows.lookup id = some after ∧ after.status = .expired) ∧
    run.payments.Pairwise SubscriptionPaymentEntity.Apart ∧
    (∀ input id row, run.rows.lookup id = some row → row.isCurrent = true →
      (∀ after, (run.step settings input).rows.lookup id = some after → after.isCurrent = false) →
      ∃ call drawn tx job, input = .next call drawn ∧ run.calls.lookup call = some (.running tx) ∧
        tx.stage = .commit (.ran job) ∧ row.Lapsed settings job.now job.graceDays) ∧
    ∀ first second now graceDays ran firstInputs secondInputs, FreeLasts settings now run.now →
      run.calls.lookup first = none → (∀ input ∈ firstInputs, input.Only first) → (∀ input ∈ secondInputs, input.Only second) →
      (Run.after (SubscriptionRun.step settings) run (.expire first now graceDays :: firstInputs)).calls.lookup first =
        some (.finished (.ok (.ran ran))) →
      (Run.after (SubscriptionRun.step settings) run (.expire first now graceDays :: firstInputs)).calls.lookup second = none →
      (Run.after (SubscriptionRun.step settings) run
          (.expire first now graceDays :: firstInputs ++ .expire second now graceDays :: secondInputs)).rows =
        (Run.after (SubscriptionRun.step settings) run (.expire first now graceDays :: firstInputs)).rows ∧
      (Run.after (SubscriptionRun.step settings) run
          (.expire first now graceDays :: firstInputs ++ .expire second now graceDays :: secondInputs)).payments =
        (Run.after (SubscriptionRun.step settings) run (.expire first now graceDays :: firstInputs)).payments := by
  have kept := runs_kept settings start inputs
  refine ⟨kept.indexed.single, kept.started, ?_, kept.payments, ?_, ?_⟩
  · exact fun id row stored expired later => kept.expired stored expired later
  · exact fun input id row stored current closed => kept.closed stored current closed
  · intro first second now graceDays ran firstInputs secondInputs lasts unused firstOnly secondOnly done fresh
    rw [Run.after_append]
    exact job_twice rfl lasts unused firstOnly secondOnly done fresh

/-- A store on `pro` since 15 January 2026, with `free` at a price or without. -/
def proSettings (freePrice : Nat) : SubscriptionSettings where
  plans := ((∅ : Table String PlanEntity).insert "free" ⟨freePrice, true⟩).insert "pro" ⟨599000, true⟩
  nextMonth time := time + 31 * dayMs

def january : Int := 1768435200000

def proStore : List SubscriptionInput := [.start 0 "pro" false, .next 0 1, .next 0 0]

def closingRun (call : Nat) (id : Uuid) : List SubscriptionInput :=
  [.next call 0, .next call 0, .next call 0, .next call 0, .next call 0, .next call id, .next call 0, .next call 0]

theorem subscription_life_pro :
    (Run.after (step (proSettings 0)) { now := january } (proStore ++
        (.expire 1 (january + 100 * dayMs) 7 :: closingRun 1 2 ++ .expire 2 (january + 100 * dayMs) 7 :: closingRun 2 3))).rows =
      (Run.after (step (proSettings 0)) { now := january } (proStore ++
        .expire 1 (january + 100 * dayMs) 7 :: closingRun 1 2)).rows := by
  rw [Run.after_append, Run.after_append]
  refine ((subscription_life (proSettings 0) january proStore).2.2.2.2.2 1 2 (january + 100 * dayMs) 7
    ⟨january + 100 * dayMs, 7, 1, 1⟩ (closingRun 1 2) (closingRun 2 3) (.inl ?_) ?_ ?_ ?_ ?_ ?_).1
  · rintro plan ⟨⟩
    rfl
  · decide +kernel
  · intro input member
    simp only [closingRun, mem_cons, not_mem_nil, or_false] at member
    rcases member with rfl | rfl | rfl | rfl | rfl | rfl | rfl | rfl <;> rfl
  · intro input member
    simp only [closingRun, mem_cons, not_mem_nil, or_false] at member
    rcases member with rfl | rfl | rfl | rfl | rfl | rfl | rfl | rfl <;> rfl
  · rfl
  · rfl

/-- With a price on `free`, and the job's clock a month ahead of the time that `start` dates it by, the second run at the same
clock closes what the first has started. -/
theorem second_run_closes :
    let once := after (step (proSettings 1000)) { now := january } (proStore ++
      .expire 1 (january + 100 * dayMs) 7 :: closingRun 1 2)
    let twice := after (step (proSettings 1000)) once (.expire 2 (january + 100 * dayMs) 7 :: closingRun 2 3)
    (once.rows.lookup 2).map (·.status) = some .active ∧ (twice.rows.lookup 2).map (·.status) = some .expired := by
  decide +kernel

end Platform
