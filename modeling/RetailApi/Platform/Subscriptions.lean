import RetailApi.Base.JsString
import RetailApi.Base.RowLocks
import RetailApi.Platform.RefreshTokens

/-! The subscriptions of one store, statement by statement: `start`, `recordPayment`, `changePlan` and the expiry job are
transactions under read committed, with the row locks they take and the unique index on current subscriptions. -/

namespace Platform

open RowLocks

inductive SubscriptionStatus where
  | trialing | active | pastDue | expired | cancelled
deriving DecidableEq

structure PlanEntity where
  priceMonthly : Nat
  active : Bool

/-- A row of `subscription` of the store. -/
structure SubscriptionEntity where
  planCode : String
  status : SubscriptionStatus
  startedAt : Int
  expiresAt : Option Int
deriving DecidableEq

/-- `CURRENT_SUBSCRIPTION_STATUSES` -/
def SubscriptionEntity.isCurrent (row : SubscriptionEntity) : Bool :=
  row.status = .trialing ∨ row.status = .active ∨ row.status = .pastDue

/-- A paid row of `subscription_payment`; its period is in days. -/
structure SubscriptionPaymentEntity where
  subscriptionId : Uuid
  periodStart : Int
  periodEnd : Int
deriving DecidableEq

/-- The plans, which no request here changes, and a month on as `Date.UTC` has it. -/
structure SubscriptionSettings where
  plans : Table String PlanEntity
  nextMonth : Int → Int

def freePlanCode : String := "free"

def dayMs : Int := 24 * 60 * 60 * 1000

/-- A day in the store's time zone, UTC+7: its first and last instants. -/
def startOfDay (day : Int) : Int := day * dayMs - 7 * 60 * 60 * 1000

def endOfDay (day : Int) : Int := startOfDay day + dayMs - 1000

/-- `Math.round(days / 30.4375)`, at least 1. -/
def monthsOf (periodStart periodEnd : Int) : Int := max 1 ((32 * (periodEnd - periodStart) + 487) / 974)

structure RecordPaymentReqDto where
  subscriptionId : Uuid
  amount : Int
  periodStart : Int
  periodEnd : Int
  note : Option String := none

/-- A change of plan, with what the check of the store's usage answers. -/
structure ChangePlanReqDto where
  planCode : String
  effectiveFrom : Int
  expiresAt : Int
  allowed : Bool := true

inductive SubscriptionError where
  | unprocessable | notFound | p001 | s010 | s011 | s012 | s013 | s014 | uniqueViolation | connectionLost
deriving DecidableEq

structure ExpiryRun where
  now : Int
  graceDays : Nat
  pastDue : Nat := 0
  expired : Nat := 0
deriving DecidableEq

inductive SubscriptionResult where
  | started
  | paid
  | changed (id : Uuid)
  | ran (job : ExpiryRun)
  | skipped
deriving DecidableEq

inductive SubscriptionStage where
  | insert (planCode : String)
  | lockPaid (request : RecordPaymentReqDto)
  | checkPaid (request : RecordPaymentReqDto)
  | insertPayment (request : RecordPaymentReqDto)
  | renew (request : RecordPaymentReqDto)
  | findCurrent (request : ChangePlanReqDto)
  | lockCurrent (request : ChangePlanReqDto) (id : Uuid)
  | movePlan (request : ChangePlanReqDto) (id : Uuid)
  | duePast (job : ExpiryRun)
  | movePast (job : ExpiryRun) (ids : List Uuid)
  | dueGrace (job : ExpiryRun)
  | closeAll (job : ExpiryRun) (ids : List Uuid)
  | startFree (job : ExpiryRun) (ids : List Uuid)
  | commit (result : SubscriptionResult)

structure SubscriptionTransaction where
  stage : SubscriptionStage
  locks : Locks Uuid SubscriptionEntity := ∅
  payment : Option SubscriptionPaymentEntity := none

inductive SubscriptionCall where
  | running (tx : SubscriptionTransaction)
  | finished (result : Except SubscriptionError SubscriptionResult)

/-- The run of the job that a statement belongs to; it has the advisory lock until it ends. -/
def SubscriptionStage.job : SubscriptionStage → Option ExpiryRun
  | .duePast job | .movePast job _ | .dueGrace job | .closeAll job _ | .startFree job _ | .commit (.ran job) => some job
  | _ => none

def SubscriptionCall.job : SubscriptionCall → Option ExpiryRun
  | .running tx => tx.stage.job
  | .finished _ => none

def SubscriptionCall.locks : SubscriptionCall → Locks Uuid SubscriptionEntity
  | .running tx => tx.locks
  | .finished _ => ∅

structure SubscriptionRun where
  rows : Table Uuid SubscriptionEntity := ∅
  payments : List SubscriptionPaymentEntity := []
  calls : Table Nat SubscriptionCall := ∅
  now : Int := 0

inductive SubscriptionOutcome where
  | waits
  | fails (error : SubscriptionError)
  | goes (tx : SubscriptionTransaction)

/-- A version of a row that `UQ_subscription_current_tenant` has to do with, not committed yet. -/
def unsettled (version : Version SubscriptionEntity) : Bool :=
  version.before ≠ version.after ∧
    (version.before.any (·.isCurrent) = true ∨ version.after.any (·.isCurrent) = true)

namespace SubscriptionRun

def lockedBeside (run : SubscriptionRun) (call : Nat) : List (Locks Uuid SubscriptionEntity) :=
  (run.calls.entries.filter fun entry => entry.1 ≠ call).map fun entry => entry.2.locks

def isFree (others : List (Locks Uuid SubscriptionEntity)) (id : Uuid) : Bool := others.all fun locks => (locks.lookup id).isNone

def hasCurrentBeside (run : SubscriptionRun) (locks : Locks Uuid SubscriptionEntity) (id : Uuid) : Bool :=
  (run.rows.keys ++ locks.keys).any fun other => other ≠ id && (seen locks run.rows other).any (·.isCurrent)

/-- An `INSERT` or `UPDATE` of a row whose lock is free or held; the unique index makes it wait for other transactions. -/
def save (run : SubscriptionRun) (others : List (Locks Uuid SubscriptionEntity)) (tx : SubscriptionTransaction) (id : Uuid)
    (row : SubscriptionEntity) (stage : SubscriptionStage) : SubscriptionOutcome :=
  if row.isCurrent && others.any fun locks => locks.entries.any fun entry => entry.1 ≠ id && unsettled entry.2 then .waits
  else if row.isCurrent && run.hasCurrentBeside tx.locks id then .fails .uniqueViolation
  else .goes { tx with stage, locks := write tx.locks run.rows id (some row) }

/-- `INSERT` of a subscription under the identifier that is drawn; none is drawn twice. -/
def insert (settings : SubscriptionSettings) (run : SubscriptionRun) (others : List (Locks Uuid SubscriptionEntity))
    (tx : SubscriptionTransaction) (id : Uuid) (planCode : String) (stage : SubscriptionStage) : SubscriptionOutcome :=
  match settings.plans.lookup planCode with
  | none => .fails .p001
  | some plan =>
    if (run.rows.lookup id).isSome || (tx.locks.lookup id).isSome || !isFree others id then .waits
    else run.save others tx id
      { planCode, status := .active, startedAt := run.now,
        expiresAt := if plan.priceMonthly = 0 then none else some (settings.nextMonth run.now) } stage

/-- `lockSubscription` and the checks of `recordPayment` on the row. -/
def lockPaid (settings : SubscriptionSettings) (run : SubscriptionRun) (others : List (Locks Uuid SubscriptionEntity))
    (tx : SubscriptionTransaction) (request : RecordPaymentReqDto) : SubscriptionOutcome :=
  if !isFree others request.subscriptionId then .waits
  else match run.rows.lookup request.subscriptionId with
  | none => .fails .notFound
  | some row =>
    match settings.plans.lookup row.planCode with
    | none => .fails .notFound
    | some plan =>
      if plan.priceMonthly = 0 ∨ row.isCurrent = false then .fails .s013
      else if request.amount ≠ plan.priceMonthly * monthsOf request.periodStart request.periodEnd ∧
        JsString.trimmed (request.note.getD "") = "" then .fails .s014
      else .goes { tx with
        stage := .checkPaid request
        locks := write tx.locks run.rows request.subscriptionId (some row) }

def checkPaid (run : SubscriptionRun) (tx : SubscriptionTransaction) (request : RecordPaymentReqDto) : SubscriptionOutcome :=
  if run.payments.any fun payment => payment.subscriptionId = request.subscriptionId ∧
    payment.periodStart < request.periodEnd ∧ request.periodStart < payment.periodEnd then .fails .s012
  else .goes { tx with stage := .insertPayment request }

/-- The payment; only a period that runs past the expiry renews. -/
def insertPayment (run : SubscriptionRun) (tx : SubscriptionTransaction) (request : RecordPaymentReqDto) :
    SubscriptionOutcome :=
  match seen tx.locks run.rows request.subscriptionId with
  | none => .fails .notFound
  | some row => .goes { tx with
      stage := if row.expiresAt.any (fun expiresAt => endOfDay request.periodEnd ≤ expiresAt) = true then .commit .paid
        else .renew request
      payment := some ⟨request.subscriptionId, request.periodStart, request.periodEnd⟩ }

def renew (run : SubscriptionRun) (others : List (Locks Uuid SubscriptionEntity)) (tx : SubscriptionTransaction)
    (request : RecordPaymentReqDto) : SubscriptionOutcome :=
  match seen tx.locks run.rows request.subscriptionId with
  | none => .fails .notFound
  | some row => run.save others tx request.subscriptionId
      { row with expiresAt := some (endOfDay request.periodEnd), status := .active } (.commit .paid)

/-- `SELECT` of the current subscription, without a lock. -/
def findCurrent (run : SubscriptionRun) (tx : SubscriptionTransaction) (request : ChangePlanReqDto) : SubscriptionOutcome :=
  match run.rows.entries.find? fun entry => entry.2.isCurrent with
  | none => .fails .notFound
  | some entry => .goes { tx with stage := .lockCurrent request entry.1 }

/-- `lockSubscription` and the checks of `changePlan`; the status is not looked at again. -/
def lockCurrent (settings : SubscriptionSettings) (run : SubscriptionRun) (others : List (Locks Uuid SubscriptionEntity))
    (tx : SubscriptionTransaction) (request : ChangePlanReqDto) (id : Uuid) : SubscriptionOutcome :=
  if !isFree others id then .waits
  else match run.rows.lookup id with
  | none => .fails .notFound
  | some row =>
    if (settings.plans.lookup row.planCode).isNone then .fails .notFound
    else if row.planCode = request.planCode ∧ row.startedAt = startOfDay request.effectiveFrom ∧
      row.expiresAt = some (endOfDay request.expiresAt) then .fails .s011
    else if request.allowed = false then .fails .s010
    else .goes { tx with
      stage := .movePlan request id
      locks := write tx.locks run.rows id (some row) }

def movePlan (run : SubscriptionRun) (others : List (Locks Uuid SubscriptionEntity)) (tx : SubscriptionTransaction)
    (request : ChangePlanReqDto) (id : Uuid) : SubscriptionOutcome :=
  run.save others tx id
    { planCode := request.planCode, status := .active, startedAt := startOfDay request.effectiveFrom,
      expiresAt := some (endOfDay request.expiresAt) } (.commit (.changed id))

/-- A row that `due` selects. -/
def isDue (settings : SubscriptionSettings) (status : SubscriptionStatus) (now : Int) (graceDays : Nat)
    (row : SubscriptionEntity) : Bool :=
  row.status = status ∧ row.expiresAt.any (fun expiresAt => expiresAt ≤ now - graceDays * dayMs) = true ∧
    (settings.plans.lookup row.planCode).any (fun plan => 0 < plan.priceMonthly) = true

/-- The rows that `due` finds before it locks them. -/
def due (settings : SubscriptionSettings) (run : SubscriptionRun) (locks : Locks Uuid SubscriptionEntity)
    (status : SubscriptionStatus) (now : Int) (graceDays : Nat) : List Uuid :=
  run.rows.keys.filter fun id => (seen locks run.rows id).any (isDue settings status now graceDays)

/-- A row of `due`: locked, tested again, and saved. -/
def movePast (settings : SubscriptionSettings) (run : SubscriptionRun) (others : List (Locks Uuid SubscriptionEntity))
    (tx : SubscriptionTransaction) (job : ExpiryRun) : List Uuid → SubscriptionOutcome
  | [] => .goes { tx with stage := .dueGrace job }
  | id :: ids =>
    if !isFree others id then .waits
    else match (seen tx.locks run.rows id).filter (isDue settings .active job.now 0) with
    | none => .goes { tx with stage := .movePast job ids }
    | some row => run.save others tx id { row with status := .pastDue }
        (.movePast { job with pastDue := job.pastDue + 1 } ids)

/-- A row that is closed; `free` is started next. -/
def closeAll (settings : SubscriptionSettings) (run : SubscriptionRun) (others : List (Locks Uuid SubscriptionEntity))
    (tx : SubscriptionTransaction) (job : ExpiryRun) : List Uuid → SubscriptionOutcome
  | [] => .goes { tx with stage := .commit (.ran job) }
  | id :: ids =>
    if !isFree others id then .waits
    else match (seen tx.locks run.rows id).filter (isDue settings .pastDue job.now job.graceDays) with
    | none => .goes { tx with stage := .closeAll job ids }
    | some row => run.save others tx id { row with status := .expired }
        (.startFree { job with expired := job.expired + 1 } ids)

/-- The next statement of a transaction that is not at its end. -/
def statement (settings : SubscriptionSettings) (run : SubscriptionRun) (others : List (Locks Uuid SubscriptionEntity)) (id : Uuid)
    (tx : SubscriptionTransaction) : SubscriptionOutcome :=
  match tx.stage with
  | .insert planCode => run.insert settings others tx id planCode (.commit .started)
  | .lockPaid request => run.lockPaid settings others tx request
  | .checkPaid request => run.checkPaid tx request
  | .insertPayment request => run.insertPayment tx request
  | .renew request => run.renew others tx request
  | .findCurrent request => run.findCurrent tx request
  | .lockCurrent request id => run.lockCurrent settings others tx request id
  | .movePlan request id => run.movePlan others tx request id
  | .duePast job => .goes { tx with
      stage := .movePast job (run.due settings tx.locks .active job.now 0) }
  | .movePast job ids => run.movePast settings others tx job ids
  | .dueGrace job => .goes { tx with
      stage := .closeAll job (run.due settings tx.locks .pastDue job.now job.graceDays) }
  | .closeAll job ids => run.closeAll settings others tx job ids
  | .startFree job ids => run.insert settings others tx id freePlanCode (.closeAll job ids)
  | .commit _ => .waits

def put (run : SubscriptionRun) (call : Nat) (state : SubscriptionCall) : SubscriptionRun :=
  { run with calls := run.calls.insert call state }

def commit (run : SubscriptionRun) (call : Nat) (tx : SubscriptionTransaction) (result : SubscriptionResult) :
    SubscriptionRun :=
  { run.put call (.finished (.ok result)) with
    rows := apply tx.locks run.rows
    payments := run.payments ++ tx.payment.toList }

def next (settings : SubscriptionSettings) (run : SubscriptionRun) (call : Nat) (id : Uuid) (tx : SubscriptionTransaction) :
    SubscriptionRun :=
  match tx.stage with
  | .commit result => run.commit call tx result
  | _ =>
    match run.statement settings (run.lockedBeside call) id tx with
    | .waits => run
    | .fails error => run.put call (.finished (.error error))
    | .goes tx => run.put call (.running tx)

end SubscriptionRun

/-- Something happens: a request arrives and reads the plan, a statement runs, a connection is lost, or time goes by. -/
inductive SubscriptionInput where
  | start (call : Nat) (planCode : String) (allowHidden : Bool)
  | recordPayment (call : Nat) (request : RecordPaymentReqDto)
  | changePlan (call : Nat) (request : ChangePlanReqDto)
  | expire (call : Nat) (now : Int) (graceDays : Nat)
  | next (call : Nat) (id : Uuid)
  | lose (call : Nat)
  | tick (milliseconds : Nat)

def SubscriptionSettings.begin (settings : SubscriptionSettings) (run : SubscriptionRun) :
    SubscriptionInput → Option (Nat × SubscriptionCall)
  | .start call planCode allowHidden => some (call,
      if (settings.plans.lookup planCode).any (fun plan => allowHidden || plan.active) then .running { stage := .insert planCode }
      else .finished (.error .p001))
  | .recordPayment call request => some (call,
      if request.periodEnd ≤ request.periodStart then .finished (.error .unprocessable)
      else .running { stage := .lockPaid request })
  | .changePlan call request => some (call,
      if request.expiresAt ≤ request.effectiveFrom then .finished (.error .unprocessable)
      else if (settings.plans.lookup request.planCode).any (·.active) then .running { stage := .findCurrent request }
      else .finished (.error .p001))
  | .expire call now graceDays => some (call,
      if run.calls.entries.any fun entry => entry.2.job.isSome then .finished (.ok .skipped)
      else .running { stage := .duePast { now, graceDays } })
  | _ => none

def SubscriptionRun.step (settings : SubscriptionSettings) (run : SubscriptionRun) (input : SubscriptionInput) : SubscriptionRun :=
  match input with
  | .next call id =>
    match run.calls.lookup call with
    | some (.running tx) => run.next settings call id tx
    | _ => run
  | .lose call =>
    match run.calls.lookup call with
    | some (.running _) => run.put call (.finished (.error .connectionLost))
    | _ => run
  | .tick milliseconds => { run with now := run.now + milliseconds }
  | input =>
    match settings.begin run input with
    | some (call, state) => if (run.calls.lookup call).isSome then run else run.put call state
    | none => run

end Platform
