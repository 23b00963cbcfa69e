import RetailApi.Integration.SyncJobs
import RetailApi.Base.Run

/-! Sync jobs are run by the holders of their leases while workers report before their leases end, no worker stops on a
job's last attempt, and nobody replays a leased job or runs a dead-lettered one by its identifier. -/

namespace Integration

open Transaction JobWorkers Option Table List

def SyncJobEntity.heldBy (job : SyncJobEntity) (workerId : String) (now : Int) : Bool :=
  job.status = .running && decide (job.leaseOwner = some workerId) && job.leaseExpiresAt.any (now < ·)

def SyncJobStatus.ended : SyncJobStatus → Bool
  | .completed | .deadLettered => true
  | _ => false

structure StepLawful (workers : JobWorkers) (input : WorkerInput) : Prop where
  reported : ∀ thread outcome jitterMs, input = .finish thread outcome jitterMs →
    ∀ execution, workers.running.lookup thread = some execution →
      ∀ job, workers.db.jobs.lookup execution.jobId = some job → job.heldBy execution.workerId workers.now = true
  settled : ∀ id job after, workers.db.jobs.lookup id = some job → job.status.ended = true →
    (workerStep workers input).db.jobs.lookup id = some after → after.status ≠ job.status →
      ∃ actorId reason, input = .retry id actorId reason

/-- What holds in a state: no two executions of a job with a lease, no attempt beyond the last, and no job left after it. -/
structure JobWorkers.Lawful (workers : JobWorkers) : Prop where
  oneHolder : ∀ first second one other, workers.running.lookup first = some one → workers.running.lookup second = some other →
    one.jobId = other.jobId → workers.now < one.leaseExpiresAt → workers.now < other.leaseExpiresAt → first = second
  attempts : ∀ id job, workers.db.jobs.lookup id = some job → job.attemptCount ≤ job.maxAttempts
  ended : ∀ id job, workers.db.jobs.lookup id = some job → job.attemptCount = job.maxAttempts →
    (∀ thread execution, workers.running.lookup thread = some execution → execution.jobId ≠ id) → job.status.ended = true

/-- Workers report before their leases end and none stops on a last attempt; only jobs without a lease are replayed, and
nobody runs a dead-lettered job, or one that it holds itself, by its identifier. -/
def JobWorkers.inTime (workers : JobWorkers) : WorkerInput → Bool
  | .tick ms => workers.running.rows.all fun execution => (workers.db.jobs.lookup execution.jobId).all fun job =>
      execution.attempt < job.maxAttempts || workers.now + ms < execution.leaseExpiresAt
  | .connect _ _ => true
  | .enqueue input _ => input.maxAttempts ≠ some 0
  | .claim _ _ leaseDurationMs _ => 0 < leaseDurationMs
  | .executeById jobId workerId => (workers.db.jobs.lookup jobId).all fun job =>
      job.status ≠ .deadLettered && !job.heldBy workerId workers.now
  | .finish thread _ _ => (workers.running.lookup thread).all fun execution => workers.now < execution.leaseExpiresAt
  | .crash thread => (workers.running.lookup thread).all fun execution =>
      (workers.db.jobs.lookup execution.jobId).all fun job => execution.attempt < job.maxAttempts
  | .retry jobId _ _ => (workers.db.jobs.lookup jobId).all fun job =>
      !(job.status = .running && job.leaseExpiresAt.any (workers.now < ·))

structure JobExecution.Holds (execution : JobExecution) (job : SyncJobEntity) : Prop where
  status : job.status = .running
  leaseOwner : job.leaseOwner = some execution.workerId
  leaseExpiresAt : job.leaseExpiresAt = some execution.leaseExpiresAt
  attempt : job.attemptCount = execution.attempt

structure SyncJobEntity.Sound (job : SyncJobEntity) : Prop where
  attempts : job.attemptCount ≤ job.maxAttempts
  waits : job.status = .pending ∨ job.status = .retryScheduled → job.attemptCount < job.maxAttempts
  known : job.status = .pending ∨ job.status = .retryScheduled ∨ job.status = .running ∨ job.status.ended = true

/-- The invariant: an execution whose lease runs is the one its job names. -/
structure JobWorkers.Kept (workers : JobWorkers) : Prop where
  sound : ∀ id job, workers.db.jobs.lookup id = some job → job.Sound
  holds : ∀ thread execution, workers.running.lookup thread = some execution → workers.now < execution.leaseExpiresAt →
    ∃ job, workers.db.jobs.lookup execution.jobId = some job ∧ execution.Holds job
  oneHolder : ∀ first second one other, workers.running.lookup first = some one → workers.running.lookup second = some other →
    one.jobId = other.jobId → workers.now < one.leaseExpiresAt → workers.now < other.leaseExpiresAt → first = second
  last : ∀ id job, workers.db.jobs.lookup id = some job → job.status = .running → job.maxAttempts ≤ job.attemptCount →
    ∃ thread execution, workers.running.lookup thread = some execution ∧ execution.jobId = id ∧
      job.maxAttempts ≤ execution.attempt ∧ workers.now < execution.leaseExpiresAt
  fresh : ∀ thread execution, workers.running.lookup thread = some execution → thread < workers.started

variable {workers : JobWorkers} {id thread : Nat} {job : SyncJobEntity} {execution : JobExecution}

namespace JobWorkers.Kept

theorem lawful (kept : workers.Kept) : workers.Lawful where
  oneHolder := kept.oneHolder
  attempts := fun id job found => (kept.sound id job found).attempts
  ended := fun id job found exhausted idle => by
    have sound := kept.sound id job found
    rcases sound.known with pending | scheduled | running | ended
    · have left := sound.waits (.inl pending)
      omega
    · have left := sound.waits (.inr scheduled)
      omega
    · obtain ⟨thread, execution, under, own, _⟩ := kept.last id job found running (by omega)
      exact absurd own (idle thread execution under)
    · exact ended

def Free (workers : JobWorkers) (id : Uuid) : Prop :=
  ∀ thread execution, workers.running.lookup thread = some execution → workers.now < execution.leaseExpiresAt →
    execution.jobId ≠ id

theorem write (kept : workers.Kept) {db : SyncJobsDb} {after} (free : Free workers id)
    (jobs : db.jobs = workers.db.jobs.insert id after) (sound : after.Sound)
    (running : after.status = .running → after.attemptCount < after.maxAttempts) : Kept { workers with db } := by
  have rows : ∀ {other job}, db.jobs.lookup other = some job → other = id ∧ job = after ∨
      other ≠ id ∧ workers.db.jobs.lookup other = some job := by
    intro other job found
    rw [jobs] at found
    exact of_lookup_insert found
  refine ⟨fun other job found => ?_, fun thread execution under lease => ?_, kept.oneHolder, fun other job found runs spent => ?_,
    kept.fresh⟩
  · rcases rows found with ⟨_, rfl⟩ | ⟨_, before⟩
    · exact sound
    · exact kept.sound other job before
  · obtain ⟨job, found, holds⟩ := kept.holds thread execution under lease
    refine ⟨job, ?_, holds⟩
    rw [jobs, lookup_insert_if, if_neg (free thread execution under lease)]
    exact found
  · rcases rows found with ⟨_, rfl⟩ | ⟨_, before⟩
    · have left := running runs
      omega
    · exact kept.last other job before runs spent

end JobWorkers.Kept

theorem running_start {other begun} (found : (workers.start begun).running.lookup other = some execution) :
    other = workers.started ∧ execution = begun ∨ other ≠ workers.started ∧ workers.running.lookup other = some execution := by
  exact of_lookup_insert found

theorem lookup_claimJob (db : SyncJobsDb) (id other : Uuid) (job : SyncJobEntity) (workerId : String) (now lease : Int) :
    (claimJob db id job workerId now lease).1.jobs.lookup other =
      if other = id then some (job.claimedBy workerId now lease) else db.jobs.lookup other :=
  lookup_insert_if ..

namespace JobWorkers.Kept

theorem claim (kept : workers.Kept) (found : workers.db.jobs.lookup id = some job) (left : job.attemptCount < job.maxAttempts)
    (free : Free workers id) (workerId : String) {now lease} (clock : now = workers.now) (positive : 0 < lease) :
    Kept (start { workers with db := (claimJob workers.db id job workerId now lease).1 }
      (claimJob workers.db id job workerId now lease).2) := by
  subst clock
  have rows : ∀ {other row}, (claimJob workers.db id job workerId workers.now lease).1.jobs.lookup other = some row →
      other = id ∧ row = job.claimedBy workerId workers.now lease ∨ other ≠ id ∧ workers.db.jobs.lookup other = some row := by
    intro other row listed
    rw [lookup_claimJob] at listed
    by_cases same : other = id
    · rw [if_pos same] at listed
      exact .inl ⟨same, (some.inj listed).symm⟩
    · rw [if_neg same] at listed
      exact .inr ⟨same, listed⟩
  refine ⟨fun other row listed => ?_, fun thread execution under unexpired => ?_,
    fun first second one other under also same unexpired both => ?_, fun other row listed runs spent => ?_,
    fun thread execution under => ?_⟩
  · rcases rows listed with ⟨_, rfl⟩ | ⟨_, before⟩
    · refine ⟨left, fun waits => ?_, .inr (.inr (.inl rfl))⟩
      rcases waits with pending | scheduled
      · cases pending
      · cases scheduled
    · exact kept.sound other row before
  · rcases running_start under with ⟨_, rfl⟩ | ⟨_, before⟩
    · exact ⟨_, (lookup_claimJob ..).trans (if_pos rfl), rfl, rfl, rfl, rfl⟩
    · obtain ⟨row, stored, holds⟩ := kept.holds thread execution before unexpired
      exact ⟨row, (lookup_claimJob ..).trans ((if_neg (free thread execution before unexpired)).trans stored), holds⟩
  · rcases running_start under with ⟨rfl, rfl⟩ | ⟨_, before⟩
    · rcases running_start also with ⟨rfl, _⟩ | ⟨_, before⟩
      · rfl
      · exact absurd same.symm (free second other before both)
    · rcases running_start also with ⟨_, rfl⟩ | ⟨_, others⟩
      · exact absurd same (free first one before unexpired)
      · exact kept.oneHolder first second one other before others same unexpired both
  · rcases rows listed with ⟨rfl, rfl⟩ | ⟨_, before⟩
    · refine ⟨workers.started, _, lookup_insert_self .., rfl, spent, ?_⟩
      show workers.now < workers.now + lease
      omega
    · obtain ⟨thread, execution, under, facts⟩ := kept.last other row before runs spent
      have apart : thread ≠ workers.started := Nat.ne_of_lt (kept.fresh thread execution under)
      exact ⟨thread, execution, (AList.lookup_insert_ne apart).trans under, facts⟩
  · rcases running_start under with ⟨rfl, _⟩ | ⟨_, before⟩
    · exact Nat.lt_succ_self _
    · exact Nat.lt_succ_of_lt (kept.fresh thread execution before)

theorem attempts_left (kept : workers.Kept) (found : workers.db.jobs.lookup id = some job) (free : Free workers id)
    (alive : job.status.ended = false) : job.attemptCount < job.maxAttempts := by
  have sound := kept.sound id job found
  rcases sound.known with pending | scheduled | running | ended
  · exact sound.waits (.inl pending)
  · exact sound.waits (.inr scheduled)
  · by_contra spent
    obtain ⟨thread, execution, under, own, _, unexpired⟩ := kept.last id job found running (by omega)
    exact free thread execution under unexpired own
  · cases alive.symm.trans ended

theorem claimable_left (kept : workers.Kept) (found : workers.db.jobs.lookup id = some job)
    (claimable : job.claimable workers.now = true) : job.attemptCount < job.maxAttempts ∧ Free workers id := by
  have free : Free workers id := by
    rintro thread execution under unexpired rfl
    obtain ⟨row, stored, holds⟩ := kept.holds thread execution under unexpired
    cases found.symm.trans stored
    rw [SyncJobEntity.claimable, holds.status] at claimable
    simp only [holds.leaseExpiresAt, any_some, decide_eq_true_eq] at claimable
    omega
  refine ⟨kept.attempts_left found free ?_, free⟩
  rw [SyncJobEntity.claimable] at claimable
  cases status : job.status <;> simp [status, SyncJobStatus.ended] at claimable ⊢

end JobWorkers.Kept

theorem start_db (workers : JobWorkers) (db : SyncJobsDb) (claimed : List JobExecution) :
    claimed.foldl start { workers with db } = { claimed.foldl start workers with db } := by
  induction claimed generalizing workers with
  | nil => rfl
  | cons execution claimed inner => exact inner (workers.start execution)

theorem start_now (workers : JobWorkers) (claimed : List JobExecution) :
    (claimed.foldl start workers).now = workers.now ∧ (claimed.foldl start workers).db = workers.db := by
  induction claimed generalizing workers with
  | nil => exact ⟨rfl, rfl⟩
  | cons execution claimed inner => exact inner (workers.start execution)

variable {workerId : String} {lease now : Int} {db after : SyncJobsDb} {claimed : List JobExecution}

theorem claimBatch_kept (positive : 0 < lease) {ids} (distinct : ids.Nodup)
    (due : ∀ id ∈ ids, ∃ job, db.jobs.lookup id = some job ∧ job.claimable workers.now = true)
    (kept : (claimed.foldl start { workers with db }).Kept) :
    ((claimBatch workerId workers.now lease ids (db, claimed)).2.foldl start
      { workers with db := (claimBatch workerId workers.now lease ids (db, claimed)).1 }).Kept := by
  induction ids generalizing db claimed with
  | nil => exact kept
  | cons id ids inner =>
    obtain ⟨absent, distinct⟩ := nodup_cons.mp distinct
    obtain ⟨job, found, claimable⟩ := due id (.head _)
    simp only [claimBatch, found]
    refine inner distinct (fun other member => ?_) ?_
    · obtain ⟨row, stored, waits⟩ := due other (.tail _ member)
      have apart : other ≠ id := fun same => absent (same ▸ member)
      exact ⟨row, (lookup_claimJob ..).trans ((if_neg apart).trans stored), waits⟩
    · rw [foldl_append, foldl_cons, foldl_nil]
      obtain ⟨now, same⟩ := start_now { workers with db } claimed
      have before : (claimed.foldl start { workers with db }).db.jobs.lookup id = some job := by
        rw [same]
        exact found
      obtain ⟨left, free⟩ := kept.claimable_left before (by rw [now]; exact claimable)
      have next := kept.claim before left free workerId now.symm positive
      rw [same, start_db] at next
      rw [start_db]
      exact next

theorem lookup_claimBatch {ids} (other : id ∉ ids) :
    (claimBatch workerId now lease ids (db, claimed)).1.jobs.lookup id = db.jobs.lookup id := by
  induction ids generalizing db claimed with
  | nil => rfl
  | cons first ids inner =>
    rw [mem_cons, not_or] at other
    rw [claimBatch]
    split
    · exact inner other.2
    · exact (inner other.2).trans ((lookup_claimJob ..).trans (if_neg other.1))

theorem mem_claimableJobs {batchSize busy}
    (member : id ∈ claimableJobs db now batchSize busy) : ∃ job, db.jobs.lookup id = some job ∧ job.claimable now = true := by
  obtain ⟨⟨key, job⟩, listed, rfl⟩ := mem_map.mp member
  have due := mem_of_mem_take listed
  rw [mem_insertionSort, mem_filter, Bool.and_eq_true] at due
  exact ⟨job, AList.mem_lookup_iff.mpr due.1, due.2.1⟩

theorem claimableJobs_nodup (db : SyncJobsDb) (now : Int) (batchSize : Nat) (busy : List Uuid) :
    (claimableJobs db now batchSize busy).Nodup := by
  have keys : (db.jobs.entries.map (·.1)).Nodup := db.jobs.nodupKeys
  have filtered := keys.sublist ((@filter_sublist _
    (fun entry : Sigma fun _ : Uuid => SyncJobEntity => entry.2.claimable now && !decide (entry.1 ∈ busy)) _).map (·.1))
  have sorted := ((perm_insertionSort (fun first second : Sigma fun _ : Uuid => SyncJobEntity =>
    second.2.priority < first.2.priority ∨ second.2.priority = first.2.priority ∧
      (first.2.nextRetryAt < second.2.nextRetryAt ∨
        first.2.nextRetryAt = second.2.nextRetryAt ∧ first.2.createdAt ≤ second.2.createdAt))
    (db.jobs.entries.filter fun entry => entry.2.claimable now && !decide (entry.1 ∈ busy))).map (·.1)).nodup_iff.mpr filtered
  exact sorted.sublist ((take_sublist _ _).map _)

theorem recordOutcome_row (outcome : Except IntegrationFailure String) (now : Int) (jitterMs : Nat)
    (found : db.jobs.lookup execution.jobId = some job) : ∃ after,
      (recordOutcome db execution outcome now jitterMs).jobs = db.jobs.insert execution.jobId after ∧
        after.attemptCount = job.attemptCount ∧ after.maxAttempts = job.maxAttempts ∧
          (after.status.ended = true ∨ after.status = .retryScheduled ∧ job.attemptCount < job.maxAttempts) := by
  rw [recordOutcome, found]
  cases outcome with
  | ok result => exact ⟨_, rfl, rfl, rfl, .inl rfl⟩
  | error failure =>
    dsimp only
    rw [failJob]
    split
    · next retryable =>
      rw [Bool.and_eq_true, decide_eq_true_eq] at retryable
      exact ⟨_, rfl, rfl, rfl, .inr ⟨rfl, retryable.2⟩⟩
    · exact ⟨_, rfl, rfl, rfl, .inl rfl⟩

theorem last_finish {running : Table Nat JobExecution} {other ending}
    (under : running.lookup thread = some ending) (found : running.lookup other = some execution)
    (apart : execution ≠ ending) : (running.erase thread).lookup other = some execution := by
  refine (AList.lookup_erase_ne ?_).trans found
  rintro rfl
  exact apart (some.inj (found.symm.trans under))

namespace JobWorkers.Kept

theorem finish (kept : workers.Kept) (under : workers.running.lookup thread = some execution)
    (unexpired : workers.now < execution.leaseExpiresAt) (outcome : Except IntegrationFailure String) (jitterMs : Nat) :
    Kept { workers with
      db := recordOutcome workers.db execution outcome workers.now jitterMs, running := workers.running.erase thread } := by
  obtain ⟨job, found, holds⟩ := kept.holds thread execution under unexpired
  obtain ⟨after, jobs, attemptCount, maxAttempts, status⟩ :=
    recordOutcome_row outcome workers.now jitterMs found
  have sound := kept.sound _ job found
  have rows : ∀ {id row}, (recordOutcome workers.db execution outcome workers.now jitterMs).jobs.lookup id = some row →
      id = execution.jobId ∧ row = after ∨ id ≠ execution.jobId ∧ workers.db.jobs.lookup id = some row := by
    intro id row listed
    rw [jobs] at listed
    exact of_lookup_insert listed
  refine ⟨fun id row listed => ?_, fun other one going unended => ?_, fun first second one other going also => ?_,
    fun id row listed runs spent => ?_, fun other one going => kept.fresh other one (of_lookup_erase going).2⟩
  · rcases rows listed with ⟨_, rfl⟩ | ⟨_, before⟩
    · refine ⟨by rw [attemptCount, maxAttempts]; exact sound.attempts, fun waits => ?_, ?_⟩
      · rcases status with ended | ⟨_, left⟩
        · rcases waits with pending | scheduled
          · rw [pending] at ended
            cases ended
          · rw [scheduled] at ended
            cases ended
        · rw [attemptCount, maxAttempts]
          exact left
      · rcases status with ended | ⟨scheduled, _⟩
        · exact .inr (.inr (.inr ended))
        · exact .inr (.inl scheduled)
    · exact kept.sound id row before
  · obtain ⟨differ, before⟩ := of_lookup_erase going
    obtain ⟨row, stored, holding⟩ := kept.holds other one before unended
    have apart : one.jobId ≠ execution.jobId :=
      fun same => differ (kept.oneHolder other thread one execution before under same unended unexpired)
    refine ⟨row, ?_, holding⟩
    rw [jobs, lookup_insert_if, if_neg apart]
    exact stored
  · exact kept.oneHolder first second one other (of_lookup_erase going).2 (of_lookup_erase also).2
  · rcases rows listed with ⟨_, rfl⟩ | ⟨apart, before⟩
    · rw [runs] at status
      rcases status with ended | ⟨scheduled, _⟩
      · cases ended
      · cases scheduled
    · obtain ⟨other, one, going, own, facts⟩ := kept.last id row before runs spent
      refine ⟨other, one, last_finish under going ?_, own, facts⟩
      rintro rfl
      exact apart own.symm

theorem crash (kept : workers.Kept) (under : workers.running.lookup thread = some execution)
    (left : ∀ job, workers.db.jobs.lookup execution.jobId = some job → execution.attempt < job.maxAttempts) :
    Kept { workers with running := workers.running.erase thread } := by
  refine ⟨kept.sound, fun other one going => kept.holds other one (of_lookup_erase going).2,
    fun first second one other going also => kept.oneHolder first second one other (of_lookup_erase going).2 (of_lookup_erase also).2,
    fun id row listed runs spent => ?_, fun other one going => kept.fresh other one (of_lookup_erase going).2⟩
  obtain ⟨other, one, going, own, last, unexpired⟩ := kept.last id row listed runs spent
  refine ⟨other, one, last_finish under going ?_, own, last, unexpired⟩
  rintro rfl
  have more := left row (own ▸ listed)
  omega

theorem tick (kept : workers.Kept) (ms : Nat)
    (inTime : ∀ thread execution job, workers.running.lookup thread = some execution →
      workers.db.jobs.lookup execution.jobId = some job → job.maxAttempts ≤ execution.attempt →
        workers.now + ms < execution.leaseExpiresAt) : Kept { workers with now := workers.now + ms } := by
  refine ⟨kept.sound, fun thread execution under unexpired => ?_, fun first second one other going also same one_ two_ => ?_,
    fun id row listed runs spent => ?_, kept.fresh⟩
  · dsimp only at unexpired
    exact kept.holds thread execution under (by omega)
  · dsimp only at one_ two_
    exact kept.oneHolder first second one other going also same (by omega) (by omega)
  · obtain ⟨thread, execution, under, own, last, _⟩ := kept.last id row listed runs spent
    exact ⟨thread, execution, under, own, last, inTime thread execution row under (own ▸ listed) last⟩

end JobWorkers.Kept

theorem enqueueSyncJob_ok {input drawn} {again} (enqueued : enqueueSyncJob db input drawn now = .ok (after, id, again)) :
    (after = db ∧ ∃ job, db.jobs.lookup id = some job ∧ job.idempotencyKey = input.idempotencyKey) ∨
      (∀ other job, db.jobs.lookup other = some job → job.idempotencyKey ≠ input.idempotencyKey) ∧
        db.jobs.lookup id = none ∧ after.connections = db.connections ∧
          ∃ conn code, after.jobs = db.jobs.insert id (input.job conn code now) := by
  rw [enqueueSyncJob] at enqueued
  split at enqueued
  · next existing job found =>
    cases enqueued
    obtain ⟨entry, listed, same⟩ := map_eq_some_iff.mp found
    cases same
    have key := (find?_eq_some_iff_append.mp listed).1
    exact .inl ⟨rfl, entry.2, AList.mem_lookup_iff.mpr (mem_of_find?_eq_some listed), of_decide_eq_true key⟩
  · next none =>
    simp only [eq_ok] at enqueued
    obtain ⟨conn, _, _, fresh, same⟩ := enqueued
    cases same
    refine .inr ⟨fun other job found same => ?_, fresh, rfl, conn, _, rfl⟩
    have absent := find?_eq_none.mp (map_eq_none_iff.mp none) ⟨other, job⟩ (AList.mem_lookup_iff.mp found)
    exact absent (decide_eq_true same)

theorem executeJobById_ok {answer}
    (executed : executeJobById db id workerId now = .ok (after, answer)) : ∃ job, db.jobs.lookup id = some job ∧
      job.leasedToAnother workerId now = false ∧ (after = db ∧ answer = .alreadyCompleted ∧ job.status = .completed ∨
        job.status ≠ .completed ∧ after = (claimJob db id job workerId now 30000).1 ∧
          answer = .claimed (claimJob db id job workerId now 30000).2) := by
  simp only [executeJobById, eq_ok] at executed
  obtain ⟨job, found, _, unleased, ran⟩ := executed
  refine ⟨job, found, unleased, ?_⟩
  split at ran
  · next completed =>
    cases ran
    exact .inl ⟨rfl, rfl, completed⟩
  · next other =>
    cases ran
    exact .inr ⟨other, rfl, rfl⟩

theorem retrySyncJob_ok {actorId reason} (retried : retrySyncJob db id actorId reason now = .ok after) :
    ∃ job, db.jobs.lookup id = some job ∧ after.jobs = db.jobs.insert id (job.replayed now) := by
  simp only [retrySyncJob, eq_ok] at retried
  obtain ⟨job, found, rfl⟩ := retried
  exact ⟨job, found, rfl⟩

theorem unleased (others : job.leasedToAnother workerId now = false)
    (own : job.heldBy workerId now = false) (held : execution.Holds job) : ¬now < execution.leaseExpiresAt := by
  intro unexpired
  rw [SyncJobEntity.leasedToAnother, held.status, held.leaseOwner, held.leaseExpiresAt] at others
  rw [SyncJobEntity.heldBy, held.status, held.leaseOwner, held.leaseExpiresAt] at own
  by_cases same : execution.workerId = workerId
  · simp [same, unexpired] at own
  · simp [same, unexpired] at others

namespace JobWorkers.Kept

variable {db : SyncJobsDb}

theorem enqueue (kept : workers.Kept) {input} {drawn} {again}
    (some_ : input.maxAttempts ≠ some 0) (enqueued : enqueueSyncJob workers.db input drawn workers.now = .ok (db, id, again)) :
    Kept { workers with db } := by
  rcases enqueueSyncJob_ok enqueued with ⟨rfl, _⟩ | ⟨_, fresh, _, conn, code, jobs⟩
  · exact kept
  · have positive : 0 < input.maxAttempts.getD 4 := by
      cases given : input.maxAttempts with
      | none => exact Nat.succ_pos 3
      | some count =>
        rw [given] at some_
        exact Nat.pos_of_ne_zero fun zero => some_ (congrArg some zero)
    refine kept.write ?_ jobs ⟨Nat.zero_le _, fun _ => positive, .inl rfl⟩ fun running => ?_
    · rintro thread execution under unexpired rfl
      obtain ⟨row, stored, _⟩ := kept.holds thread execution under unexpired
      cases fresh.symm.trans stored
    · cases running

theorem executeById (kept : workers.Kept) {workerId claimed}
    (asked : ∀ job, workers.db.jobs.lookup id = some job → job.status ≠ .deadLettered ∧ job.heldBy workerId workers.now = false)
    (ran : executeJobById workers.db id workerId workers.now = .ok (db, .claimed claimed)) :
    (start { workers with db } claimed).Kept := by
  obtain ⟨job, found, others, ⟨_, done, _⟩ | ⟨open_, rfl, begun⟩⟩ := executeJobById_ok ran
  · cases done
  · obtain ⟨alive, unheld⟩ := asked job found
    cases begun
    have free : Free workers id := by
      rintro thread execution under unexpired rfl
      obtain ⟨row, stored, holds⟩ := kept.holds thread execution under unexpired
      cases found.symm.trans stored
      exact unleased others unheld holds unexpired
    refine kept.claim found (kept.attempts_left found free ?_) free workerId rfl (by omega)
    cases status : job.status <;> simp [status, SyncJobStatus.ended] at open_ alive ⊢

theorem retry (kept : workers.Kept) {actorId reason} (own : ∀ job, workers.db.jobs.lookup id = some job →
      (job.status = .running && job.leaseExpiresAt.any (workers.now < ·)) = false)
    (retried : retrySyncJob workers.db id actorId reason workers.now = .ok db) : Kept { workers with db } := by
  obtain ⟨job, found, jobs⟩ := retrySyncJob_ok retried
  have more : job.attemptCount < max job.maxAttempts (job.attemptCount + 3) := by omega
  refine kept.write ?_ jobs ⟨Nat.le_of_lt more, fun _ => more, .inl rfl⟩ fun running => ?_
  · rintro thread execution under unexpired rfl
    obtain ⟨row, stored, holds⟩ := kept.holds thread execution under unexpired
    cases found.symm.trans stored
    have free := own job found
    simp [holds.status, holds.leaseExpiresAt, unexpired] at free
  · cases running

theorem step (kept : workers.Kept) {input} (inTime : workers.inTime input = true) : (workerStep workers input).Kept := by
  cases input with
  | tick ms =>
    refine kept.tick ms fun thread execution job under found last => ?_
    have each := all_eq_true.mp inTime execution
      (mem_map_of_mem (f := Sigma.snd) (AList.mem_lookup_iff.mp under))
    simp only [found, all_some, Bool.or_eq_true, decide_eq_true_eq] at each
    omega
  | connect id conn => exact ⟨kept.sound, kept.holds, kept.oneHolder, kept.last, kept.fresh⟩
  | enqueue input drawn =>
    rw [workerStep]
    split
    · next enqueued => exact kept.enqueue (of_decide_eq_true inTime) enqueued
    · exact kept
  | claim workerId batchSize lease busy =>
    exact claimBatch_kept (of_decide_eq_true inTime) (claimableJobs_nodup ..) (fun _ member => mem_claimableJobs member) kept
  | executeById jobId workerId =>
    have own : ∀ job, workers.db.jobs.lookup jobId = some job →
        job.status ≠ .deadLettered ∧ job.heldBy workerId workers.now = false := by
      intro job found
      simp only [JobWorkers.inTime, found, all_some, Bool.and_eq_true, decide_eq_true_eq, Bool.not_eq_true'] at inTime
      exact inTime
    rw [workerStep]
    split
    · next ran => exact kept.executeById own ran
    · next ran =>
      obtain ⟨_, _, _, ⟨rfl, _⟩ | ⟨_, _, claimed⟩⟩ := executeJobById_ok ran
      · exact kept
      · cases claimed
    · exact kept
  | finish thread outcome jitterMs =>
    rw [workerStep]
    split
    · exact kept
    · next execution under =>
      simp only [JobWorkers.inTime, under, all_some, decide_eq_true_eq] at inTime
      exact kept.finish under inTime outcome jitterMs
  | crash thread =>
    rw [workerStep]
    cases under : workers.running.lookup thread with
    | none =>
      have same : workers.running.erase thread = workers.running := by
        apply AList.ext
        exact kerase_of_notMem_keys (AList.lookup_eq_none.mp under)
      rw [same]
      exact kept
    | some execution =>
      refine kept.crash under fun job found => ?_
      simpa only [JobWorkers.inTime, under, found, all_some, decide_eq_true_eq] using inTime
  | retry jobId actorId reason =>
    rw [workerStep]
    cases retried : retrySyncJob workers.db jobId actorId reason workers.now with
    | error => exact kept
    | ok db =>
      refine kept.retry (fun job found => ?_) retried
      simpa only [JobWorkers.inTime, found, all_some, Bool.not_eq_true'] using inTime

theorem empty : ({} : JobWorkers).Kept := by
  refine ⟨?_, ?_, fun first second one other found => ?_, ?_, ?_⟩
  any_goals rintro _ _ ⟨⟩
  cases found

end JobWorkers.Kept

theorem JobWorkers.Kept.ended_stays (kept : workers.Kept) {input} (inTime : workers.inTime input = true)
    (found : workers.db.jobs.lookup id = some job) (ended : job.status.ended = true)
    (other : ∀ actorId reason, input ≠ .retry id actorId reason) : (workerStep workers input).db.jobs.lookup id = some job := by
  cases input with
  | tick | connect => exact found
  | enqueue input drawn =>
    rw [workerStep]
    split
    · next db answer enqueued =>
      rcases enqueueSyncJob_ok enqueued with ⟨rfl, _⟩ | ⟨_, fresh, _, conn, code, jobs⟩
      · exact found
      · have apart : id ≠ answer.1 := by
          rintro rfl
          cases fresh.symm.trans found
        rw [jobs, lookup_insert_if, if_neg apart]
        exact found
    · exact found
  | claim workerId batchSize lease busy =>
    have outside : id ∉ claimableJobs workers.db workers.now batchSize busy := by
      intro member
      obtain ⟨row, stored, claimable⟩ := mem_claimableJobs member
      cases found.symm.trans stored
      rw [SyncJobEntity.claimable] at claimable
      cases status : job.status <;> simp [status, SyncJobStatus.ended] at claimable ended
    rw [workerStep]
    rw [(start_now ..).2]
    exact (lookup_claimBatch outside).trans found
  | executeById jobId workerId =>
    rw [workerStep]
    split
    · next ran =>
      obtain ⟨row, stored, _, ⟨_, done, _⟩ | ⟨open_, rfl, _⟩⟩ := executeJobById_ok ran
      · cases done
      · have apart : id ≠ jobId := by
          rintro rfl
          cases found.symm.trans stored
          simp only [JobWorkers.inTime, found, all_some, Bool.and_eq_true, decide_eq_true_eq] at inTime
          cases status : job.status <;> simp [status, SyncJobStatus.ended] at ended open_ inTime
        exact (lookup_claimJob ..).trans ((if_neg apart).trans found)
    · next ran =>
      obtain ⟨_, _, _, ⟨rfl, _⟩ | ⟨_, _, claimed⟩⟩ := executeJobById_ok ran
      · exact found
      · cases claimed
    · exact found
  | finish thread outcome jitterMs =>
    rw [workerStep]
    split
    · exact found
    · next execution under =>
      simp only [JobWorkers.inTime, under, all_some, decide_eq_true_eq] at inTime
      obtain ⟨row, stored, holds⟩ := kept.holds thread execution under inTime
      obtain ⟨after, jobs, _⟩ := recordOutcome_row outcome workers.now jitterMs stored
      have apart : id ≠ execution.jobId := by
        rintro rfl
        cases found.symm.trans stored
        rw [holds.status] at ended
        cases ended
      rw [jobs, lookup_insert_if, if_neg apart]
      exact found
  | crash thread => exact found
  | retry jobId actorId reason =>
    have apart : id ≠ jobId := by
      rintro rfl
      exact other actorId reason rfl
    rw [workerStep]
    cases retried : retrySyncJob workers.db jobId actorId reason workers.now with
    | error => exact found
    | ok db =>
      obtain ⟨row, _, jobs⟩ := retrySyncJob_ok retried
      show db.jobs.lookup id = some job
      rw [jobs, lookup_insert_if, if_neg apart]
      exact found

theorem JobWorkers.Kept.stepLawful (kept : workers.Kept) {input} (inTime : workers.inTime input = true) :
    StepLawful workers input where
  reported := by
    rintro thread outcome jitterMs rfl execution under job found
    simp only [JobWorkers.inTime, under, all_some, decide_eq_true_eq] at inTime
    obtain ⟨row, stored, holds⟩ := kept.holds thread execution under inTime
    cases found.symm.trans stored
    simp [SyncJobEntity.heldBy, holds.status, holds.leaseOwner, holds.leaseExpiresAt, inTime]
  settled := fun id job after found ended changed differs => by
    by_contra other
    have stays := kept.ended_stays inTime found ended fun actorId reason same => other ⟨actorId, reason, same⟩
    cases stays.symm.trans changed
    exact differs rfl

/-- While leases are kept to, only the holder of a lease reports, what has ended stays, and attempts stay in number. -/
theorem jobs_run_by_lease_holders {inputs : List WorkerInput}
    (inTime : Run.Meets workerStep (fun workers input => workers.inTime input = true) {} inputs) :
    Run.Meets workerStep (fun workers input => workers.Lawful ∧ StepLawful workers input) {} inputs ∧
      (Run.after workerStep {} inputs).Lawful := by
  have keeps : ∀ workers input, workers.inTime input = true → workers.Kept → (workerStep workers input).Kept :=
    fun _ _ inTime kept => kept.step inTime
  refine ⟨Run.meets_iff_each.mpr fun earlier input later split => ?_, ?_⟩
  · rw [split] at inTime
    obtain ⟨before, now, _⟩ := Run.meets_append.mp inTime
    have kept := Run.invariant_of_meets Kept keeps before .empty
    exact ⟨kept.lawful, kept.stepLawful now⟩
  · exact (Run.invariant_of_meets Kept keeps inTime .empty).lawful

private def shop : ChannelConnectionEntity := ⟨"SHOP", "key", .shopee, .connected, "1"⟩

private def importJob : EnqueueSyncJobInput := { connectionId := 1, jobType := .orderImport, idempotencyKey := "order" }

theorem jobs_run_by_lease_holders_import :
    (Run.after workerStep {} [.connect 1 shop, .enqueue importJob 1, .claim "worker" 10 30000 [], .finish 0 (.ok "done") 0]).Lawful :=
  (jobs_run_by_lease_holders (by decide +kernel)).2

private def enqueued : List WorkerInput := [.connect 1 shop, .enqueue importJob 1]

private def crashLoop : List WorkerInput :=
  enqueued ++ (replicate 5 [.claim "worker" 10 30000 [], .crash 0, .tick 30000]).flatten

private def lateReport : List WorkerInput :=
  enqueued ++ [.claim "first" 10 30000 [], .tick 30000, .claim "second" 10 30000 []]

/-- A worker that crashes again and again is given the job a fifth time of four, and a worker whose lease has passed to
another reports all the same. -/
theorem leases_are_not_kept : ¬(Run.after workerStep {} crashLoop).Lawful ∧
    ¬StepLawful (Run.after workerStep {} lateReport) (.finish 0 (.ok "done") 0) := by
  constructor
  · intro lawful
    have fifth : ((Run.after workerStep {} crashLoop).db.jobs.lookup 1).map
        (fun job => (job.attemptCount, job.maxAttempts)) = some (5, 4) := by decide +kernel
    obtain ⟨job, found, counts⟩ := map_eq_some_iff.mp fifth
    have most := lawful.attempts 1 job found
    rw [(Prod.mk.inj counts).1, (Prod.mk.inj counts).2] at most
    omega
  · intro lawful
    have late : ((Run.after workerStep {} lateReport).running.lookup 0).map (fun execution =>
        ((Run.after workerStep {} lateReport).db.jobs.lookup execution.jobId).map fun job =>
          job.heldBy execution.workerId (Run.after workerStep {} lateReport).now) = some (some false) := by decide +kernel
    obtain ⟨execution, under, stored⟩ := map_eq_some_iff.mp late
    obtain ⟨job, found, unheld⟩ := map_eq_some_iff.mp stored
    have held := lawful.reported 0 _ _ rfl execution under job found
    cases unheld.symm.trans held

end Integration
