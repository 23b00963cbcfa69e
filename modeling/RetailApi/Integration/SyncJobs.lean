import RetailApi.Base.Table
import RetailApi.Integration.Domain
import Mathlib.Data.List.Sort

/-! Sync jobs: claimed with a lease, executed outside any transaction, and closed, rescheduled or dead-lettered in
another one. -/

namespace Integration

open Transaction

structure ChannelConnectionEntity where
  code : String
  connectionKey : String
  provider : MarketplaceProvider
  status : ConnectionStatus
  externalShopId : String

/-- The `payload` column, as far as jobs read it; JSON members as their text. -/
structure SyncJobPayload where
  inboxEventId : Option Uuid := none
  externalOrderId : Option String := none
  externalStatus : Option String := none
  rawOrder : Option String := none

structure SyncJobEntity where
  code : String
  connectionId : Uuid
  provider : MarketplaceProvider
  jobType : SyncJobType
  idempotencyKey : String
  status : SyncJobStatus := .pending
  priority : Int
  payload : SyncJobPayload
  resultSummary : Option String := none
  attemptCount : Nat := 0
  maxAttempts : Nat
  nextRetryAt : Int
  leaseOwner : Option String := none
  leaseExpiresAt : Option Int := none
  errorCategory : Option ErrorClassification := none
  lastErrorCode : Option ClassifiedCode := none
  lastErrorMessage : Option String := none
  correlationId : Option String := none
  startedAt : Option Int := none
  completedAt : Option Int := none
  createdAt : Int

inductive DeadLetterStatus where
  | deadLettered
  | replayed
deriving DecidableEq

/-- A row of `integration_dead_letter_events` whose source is a sync job. -/
structure IntegrationDeadLetterEventEntity where
  connectionId : Uuid
  provider : MarketplaceProvider
  idempotencyKey : String
  payload : SyncJobPayload
  errorCategory : ErrorClassification
  errorCode : ClassifiedCode
  errorMessage : String
  attemptCount : Nat
  status : DeadLetterStatus := .deadLettered
  replayedBy : Option String := none
  replayedAt : Option Int := none

inductive SyncJobEvent where
  | completed (jobId : Uuid) (workerId : String) (attemptCount : Nat) (occurredAt : Int)
  | failed (jobId : Uuid) (workerId : String) (attemptCount : Nat) (category : ErrorClassification) (message : String)
      (occurredAt : Int)

/-- A row of `integration_audit_log` about a job. -/
structure SyncJobReplayed where
  jobId : Uuid
  actorId : String
  reason : String

structure SyncJobsDb where
  connections : Table Uuid ChannelConnectionEntity := ∅
  jobs : Table Uuid SyncJobEntity := ∅
  /-- The last number of `integration_code_sequence` for jobs. -/
  codes : Nat := 0
  deadLetters : Table Uuid IntegrationDeadLetterEventEntity := ∅
  emitted : List SyncJobEvent := []
  audit : List SyncJobReplayed := []

structure EnqueueSyncJobInput where
  connectionId : Uuid
  jobType : SyncJobType
  idempotencyKey : String
  payload : SyncJobPayload := {}
  priority : Option Int := none
  maxAttempts : Option Nat := none
  correlationId : Option String := none

def notFound (connectionId : Uuid) : IntegrationFailure :=
  .domain .channelConnectionNotFound s!"Connection {connectionId} not found" none

def codeOf (issue : Nat) : String :=
  let digits := toString issue
  "JOB" ++ String.ofList (List.replicate (6 - digits.length) '0') ++ digits

def EnqueueSyncJobInput.job (input : EnqueueSyncJobInput) (conn : ChannelConnectionEntity) (code : String) (now : Int) :
    SyncJobEntity :=
  { code
    connectionId := input.connectionId
    provider := conn.provider
    jobType := input.jobType
    idempotencyKey := input.idempotencyKey
    priority := input.priority.getD 10
    payload := input.payload
    maxAttempts := input.maxAttempts.getD 4
    nextRetryAt := now
    correlationId := input.correlationId
    createdAt := now }

/-- `SELECT … WHERE idempotency_key = …` -/
def SyncJobsDb.jobOf (db : SyncJobsDb) (idempotencyKey : String) : Option (Uuid × SyncJobEntity) :=
  (db.jobs.entries.find? fun entry => entry.2.idempotencyKey = idempotencyKey).map fun entry => (entry.1, entry.2)

/-- Answers the job, and whether it was there already; `id` is drawn by `randomUUID`. -/
def enqueueSyncJob (db : SyncJobsDb) (input : EnqueueSyncJobInput) (id : Uuid) (now : Int) :
    Except IntegrationFailure (SyncJobsDb × Uuid × Bool) :=
  match db.jobOf input.idempotencyKey with
  | some (existing, _) => .ok (db, existing, true)
  | none => do
    let conn ← required (db.connections.lookup input.connectionId) (notFound input.connectionId)
    -- the primary key
    ensure (db.jobs.lookup id = none) (.other "duplicate key value violates unique constraint PK_sync_jobs_id")
    let job := input.job conn (codeOf (db.codes + 1)) now
    return ({ db with jobs := db.jobs.insert id job, codes := db.codes + 1 }, id, false)

namespace SyncJobEntity

/-- The condition of the poll: due jobs, and running ones whose lease has expired. -/
def claimable (job : SyncJobEntity) (now : Int) : Bool :=
  match job.status with
  | .pending | .retryScheduled => job.nextRetryAt ≤ now
  | .running => job.leaseExpiresAt.any (· ≤ now)
  | _ => false

def claimedBy (job : SyncJobEntity) (workerId : String) (now leaseDurationMs : Int) : SyncJobEntity :=
  { job with
    status := .running
    leaseOwner := some workerId
    leaseExpiresAt := some (now + leaseDurationMs)
    attemptCount := job.attemptCount + 1
    startedAt := some (job.startedAt.getD now) }

/-- Another worker has a lease on the job that has not expired. -/
def leasedToAnother (job : SyncJobEntity) (workerId : String) (now : Int) : Bool :=
  job.status = .running && job.leaseOwner.any (· ≠ workerId) && job.leaseExpiresAt.any (now < ·)

def completed (job : SyncJobEntity) (resultSummary : String) (now : Int) : SyncJobEntity :=
  { job with
    status := .completed
    resultSummary := some resultSummary
    leaseOwner := none
    leaseExpiresAt := none
    errorCategory := none
    lastErrorCode := none
    lastErrorMessage := none
    completedAt := some now }

/-- The job after a failed execution, before it is rescheduled or dead-lettered. -/
def failedWith (job : SyncJobEntity) (classified : ClassifiedError) (message : String) : SyncJobEntity :=
  { job with
    leaseOwner := none
    leaseExpiresAt := none
    errorCategory := some classified.category
    lastErrorCode := some classified.code
    lastErrorMessage := some message }

def retryScheduled (job : SyncJobEntity) (nextRetryAt : Int) : SyncJobEntity :=
  { job with status := .retryScheduled, nextRetryAt }

def deadLettered (job : SyncJobEntity) (now : Int) : SyncJobEntity :=
  { job with status := .deadLettered, completedAt := some now }

def replayed (job : SyncJobEntity) (now : Int) : SyncJobEntity :=
  { job with
    status := .pending
    nextRetryAt := now
    leaseOwner := none
    leaseExpiresAt := none
    maxAttempts := max job.maxAttempts (job.attemptCount + 3) }

end SyncJobEntity

/-- A worker between the claim of a job and the transaction that records the outcome. -/
structure JobExecution where
  jobId : Uuid
  workerId : String
  leaseExpiresAt : Int
  attempt : Nat

def claimJob (db : SyncJobsDb) (id : Uuid) (job : SyncJobEntity) (workerId : String) (now leaseDurationMs : Int) :
    SyncJobsDb × JobExecution :=
  ({ db with jobs := db.jobs.insert id (job.claimedBy workerId now leaseDurationMs) },
    ⟨id, workerId, now + leaseDurationMs, job.attemptCount + 1⟩)

/-- The jobs that a poll claims; other transactions have locked those in `busy`. -/
def claimableJobs (db : SyncJobsDb) (now : Int) (batchSize : Nat) (busy : List Uuid) : List Uuid :=
  let due := db.jobs.entries.filter fun entry => entry.2.claimable now && !decide (entry.1 ∈ busy)
  ((due.insertionSort fun first second => second.2.priority < first.2.priority ∨
    second.2.priority = first.2.priority ∧ (first.2.nextRetryAt < second.2.nextRetryAt ∨
      first.2.nextRetryAt = second.2.nextRetryAt ∧ first.2.createdAt ≤ second.2.createdAt)).take batchSize).map (·.1)

def claimBatch (workerId : String) (now leaseDurationMs : Int) :
    List Uuid → SyncJobsDb × List JobExecution → SyncJobsDb × List JobExecution
  | [], progress => progress
  | id :: rest, (db, claimed) =>
    match db.jobs.lookup id with
    | none => claimBatch workerId now leaseDurationMs rest (db, claimed)
    | some job =>
      let (db, execution) := claimJob db id job workerId now leaseDurationMs
      claimBatch workerId now leaseDurationMs rest (db, claimed ++ [execution])

inductive ExecuteAnswer where
  | alreadyCompleted
  | claimed (execution : JobExecution)

def executeJobById (db : SyncJobsDb) (jobId : Uuid) (workerId : String) (now : Int) :
    Except IntegrationFailure (SyncJobsDb × ExecuteAnswer) := do
  let job ← required (db.jobs.lookup jobId) (.domain .syncJobNotFound s!"Sync job {jobId} not found" none)
  ensure (job.leasedToAnother workerId now = false) (.domain .syncJobAlreadyRunning
    (s!"Sync job {jobId} is currently leased by " ++ job.leaseOwner.getD "") none)
  if job.status = .completed then return (db, .alreadyCompleted)
  let (db, execution) := claimJob db jobId job workerId now 30000
  return (db, .claimed execution)

def recordDeadLetter (db : SyncJobsDb) (jobId : Uuid) (job : SyncJobEntity) (classified : ClassifiedError) (message : String) :
    IntegrationDeadLetterEventEntity :=
  match db.deadLetters.lookup jobId with
  | none =>
    { connectionId := job.connectionId
      provider := job.provider
      idempotencyKey := job.idempotencyKey
      payload := job.payload
      errorCategory := classified.category
      errorCode := classified.code
      errorMessage := message
      attemptCount := job.attemptCount }
  | some letter =>
    { letter with
      errorCategory := classified.category
      errorCode := classified.code
      errorMessage := message
      attemptCount := job.attemptCount
      status := .deadLettered }

def deadLetterJob (db : SyncJobsDb) (jobId : Uuid) (job : SyncJobEntity) (workerId : String) (classified : ClassifiedError)
    (message : String) (now : Int) : SyncJobsDb :=
  { db with
    jobs := db.jobs.insert jobId ((job.failedWith classified message).deadLettered now)
    deadLetters := db.deadLetters.insert jobId (recordDeadLetter db jobId job classified message)
    emitted := db.emitted ++ [.failed jobId workerId job.attemptCount classified.category message now] }

def failJob (db : SyncJobsDb) (jobId : Uuid) (job : SyncJobEntity) (workerId : String) (failure : IntegrationFailure)
    (now : Int) (jitterMs : Nat) : SyncJobsDb :=
  let classified := classifyIntegrationError failure
  if classified.retryable && decide (job.attemptCount < job.maxAttempts) then
    let delayMs := calculateBackoffDelayMs job.attemptCount classified.retryAfterSeconds jitterMs
    { db with jobs :=
        db.jobs.insert jobId ((job.failedWith classified failure.message).retryScheduled (now + delayMs)) }
  else deadLetterJob db jobId job workerId classified failure.message now

/-- The transaction at the end of `executeClaimedJob`; `outcome` is what the work of the job came to. -/
def recordOutcome (db : SyncJobsDb) (execution : JobExecution) (outcome : Except IntegrationFailure String) (now : Int)
    (jitterMs : Nat) : SyncJobsDb :=
  match db.jobs.lookup execution.jobId with
  | none => db
  | some current =>
    match outcome with
    | .ok resultSummary =>
      { db with
        jobs := db.jobs.insert execution.jobId (current.completed resultSummary now)
        emitted := db.emitted ++ [.completed execution.jobId execution.workerId current.attemptCount now] }
    | .error failure => failJob db execution.jobId current execution.workerId failure now jitterMs

def retrySyncJob (db : SyncJobsDb) (jobId : Uuid) (actorId : String) (reason : Option String) (now : Int) :
    Except IntegrationFailure SyncJobsDb := do
  let job ← required (db.jobs.lookup jobId) (.domain .syncJobNotFound s!"Sync job {jobId} not found" none)
  return { db with
    jobs := db.jobs.insert jobId (job.replayed now)
    deadLetters := match db.deadLetters.lookup jobId with
      | none => db.deadLetters
      | some letter =>
        db.deadLetters.insert jobId { letter with status := .replayed, replayedBy := some actorId, replayedAt := some now }
    audit := db.audit ++ [⟨jobId, actorId, reason.getD "Manual operator replay"⟩] }

structure JobWorkers where
  db : SyncJobsDb := {}
  now : Int := 0
  running : Table Nat JobExecution := ∅
  started : Nat := 0

inductive WorkerInput where
  | tick (ms : Nat)
  | connect (id : Uuid) (conn : ChannelConnectionEntity)
  | enqueue (input : EnqueueSyncJobInput) (id : Uuid)
  | claim (workerId : String) (batchSize : Nat) (leaseDurationMs : Int) (busy : List Uuid)
  | executeById (jobId : Uuid) (workerId : String)
  | finish (thread : Nat) (outcome : Except IntegrationFailure String) (jitterMs : Nat)
  | crash (thread : Nat)
  | retry (jobId : Uuid) (actorId : String) (reason : Option String)

def JobWorkers.start (workers : JobWorkers) (execution : JobExecution) : JobWorkers :=
  { workers with running := workers.running.insert workers.started execution, started := workers.started + 1 }

/-- Retrying at once is a retry and an execution by its identifier. -/
def workerStep (workers : JobWorkers) : WorkerInput → JobWorkers
  | .tick ms => { workers with now := workers.now + ms }
  | .connect id conn => { workers with db := { workers.db with connections := workers.db.connections.insert id conn } }
  | .enqueue input id =>
    match enqueueSyncJob workers.db input id workers.now with
    | .ok (db, _) => { workers with db }
    | .error _ => workers
  | .claim workerId batchSize leaseDurationMs busy =>
    let due := claimableJobs workers.db workers.now batchSize busy
    let (db, claimed) := claimBatch workerId workers.now leaseDurationMs due (workers.db, [])
    claimed.foldl JobWorkers.start { workers with db }
  | .executeById jobId workerId =>
    match executeJobById workers.db jobId workerId workers.now with
    | .ok (db, .claimed execution) => JobWorkers.start { workers with db } execution
    | .ok (db, .alreadyCompleted) => { workers with db }
    | .error _ => workers
  | .finish thread outcome jitterMs =>
    match workers.running.lookup thread with
    | none => workers
    | some execution => { workers with
        db := recordOutcome workers.db execution outcome workers.now jitterMs
        running := workers.running.erase thread }
  | .crash thread => { workers with running := workers.running.erase thread }
  | .retry jobId actorId reason =>
    { workers with db := commit workers.db (retrySyncJob workers.db jobId actorId reason workers.now) }

end Integration
