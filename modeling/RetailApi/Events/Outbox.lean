import RetailApi.Base.RowLocks
import RetailApi.Base.Run
import Mathlib.Data.List.Sort

/-! The outbox of a producing service. A state change and its event commit together; the relays of all replicas poll
for due rows with `FOR UPDATE SKIP LOCKED`, publish them and record the outcome in the transaction that claimed them. -/

namespace Events

open RowLocks

variable {κ π : Type}

structure OutboxEventEntity (κ π : Type) where
  id : κ
  payload : π
  createdAt : Int
  publishedAt : Option Int := none
  attempts : Nat := 0
  nextAttemptAt : Int
  lastError : Option (List UInt16) := none
  failedAt : Option Int := none

structure EventsConfig where
  relayBatch : Nat
  maxAttempts : Nat
  outboxRetentionDays : Int

def maxBackoffMs : Nat := 5 * 60 * 1000

def backoffMs (attempts : Nat) : Nat := min (2 ^ attempts * 1000) maxBackoffMs

namespace OutboxEventEntity

def markPublished (row : OutboxEventEntity κ π) (now : Int) : OutboxEventEntity κ π :=
  { row with publishedAt := some now, lastError := none }

def markFailed (row : OutboxEventEntity κ π) (error : List UInt16) (now : Int) (maxAttempts : Nat) : OutboxEventEntity κ π :=
  let row := { row with attempts := row.attempts + 1, lastError := some (error.take 500) }
  if maxAttempts ≤ row.attempts then { row with failedAt := some now }
  else { row with nextAttemptAt := now + backoffMs row.attempts }

def due (row : OutboxEventEntity κ π) (now : Int) : Bool :=
  row.publishedAt.isNone && row.failedAt.isNone && decide (row.nextAttemptAt ≤ now)

end OutboxEventEntity

/-- A failed publish: of which row, its how-manieth, and after which delay the row is due again; `none` when it is parked. -/
structure PublishFailure (κ : Type) where
  id : κ
  attempt : Nat
  delay : Option Int

/-- A pass of `relayOnce` in its transaction. -/
structure RelayPass (κ π : Type) where
  waiting : List (OutboxEventEntity κ π)
  locks : Locks κ (OutboxEventEntity κ π)
  published : Nat := 0
  failures : List (PublishFailure κ) := []
  /-- The database keeps the transaction and its locks while the connection lasts. -/
  connected : Bool := true

/-- The committed rows and the passes under way; beside them every event committed, every event the publisher has
accepted, and every failed publish committed. -/
structure OutboxSystem (κ π : Type) where
  rows : Table κ (OutboxEventEntity κ π) := ∅
  passes : Table Nat (RelayPass κ π) := ∅
  added : List (κ × π) := []
  handed : List (κ × π) := []
  failures : List (PublishFailure κ) := []

inductive RelayInput (κ π : Type) where
  | add (id : κ) (payload : π) (now : Int)
  | claim (pass : Nat) (now : Int)
  | publish (pass : Nat) (answer : Except (List UInt16) Unit) (now : Int)
  /-- `save` of all rows, and `COMMIT`. -/
  | commit (pass : Nat)
  | crash (pass : Nat)
  /-- The database drops the transaction; the replica goes on publishing. -/
  | disconnect (pass : Nat)
  | cleanup (now : Int)

variable [DecidableEq κ]

def OutboxSystem.locked (system : OutboxSystem κ π) (id : κ) : Bool :=
  system.passes.rows.any fun pass => pass.connected && (pass.locks.lookup id).isSome

def OutboxSystem.claimable (system : OutboxSystem κ π) (now : Int) (relayBatch : Nat) : List (OutboxEventEntity κ π) :=
  ((system.rows.rows.filter fun row => row.due now && !system.locked row.id).mergeSort
    fun first second => first.createdAt ≤ second.createdAt).take relayBatch

def RelayPass.claimed (rows : List (OutboxEventEntity κ π)) : RelayPass κ π where
  waiting := rows
  locks := (rows.map fun row => (⟨row.id, ⟨some row, some row⟩⟩ : Sigma fun _ : κ => Version (OutboxEventEntity κ π))).toAList

def RelayPass.marked (pass : RelayPass κ π) (rows : Table κ (OutboxEventEntity κ π)) (row : OutboxEventEntity κ π) :
    RelayPass κ π :=
  { pass with locks := write pass.locks rows row.id (some row) }

def OutboxSystem.publish (system : OutboxSystem κ π) (config : EventsConfig) (thread : Nat) (pass : RelayPass κ π)
    (row : OutboxEventEntity κ π) (rest : List (OutboxEventEntity κ π)) (answer : Except (List UInt16) Unit) (now : Int) :
    OutboxSystem κ π :=
  match answer with
  | .ok () =>
    let pass : RelayPass κ π := { pass with waiting := rest, published := pass.published + 1 }
    { system with
      handed := system.handed ++ [(row.id, row.payload)]
      passes := system.passes.insert thread (pass.marked system.rows (row.markPublished now)) }
  | .error error =>
    let failed := row.markFailed error now config.maxAttempts
    let delay := if failed.failedAt.isSome then none else some (failed.nextAttemptAt - now)
    let pass : RelayPass κ π := { pass with waiting := rest, failures := pass.failures ++ [⟨row.id, failed.attempts, delay⟩] }
    { system with passes := system.passes.insert thread (pass.marked system.rows failed) }

def OutboxSystem.drop (system : OutboxSystem κ π) (thread : Nat) : OutboxSystem κ π :=
  { system with passes := system.passes.erase thread }

def dayMs : Int := 24 * 60 * 60 * 1000

def relayStep (config : EventsConfig) (system : OutboxSystem κ π) : RelayInput κ π → OutboxSystem κ π
  | .add id payload now =>
    -- `randomUUID` draws no id twice
    if id ∈ system.added.map (·.1) then system
    else { system with
      rows := system.rows.insert id { id, payload, createdAt := now, nextAttemptAt := now }
      added := system.added ++ [(id, payload)] }
  | .claim thread now =>
    match system.passes.lookup thread with
    | some _ => system
    | none => { system with
        passes := system.passes.insert thread (.claimed (system.claimable now config.relayBatch)) }
  | .publish thread answer now =>
    match system.passes.lookup thread with
    | none => system
    | some pass =>
      match pass.waiting with
      | [] => system
      | row :: rest => system.publish config thread pass row rest answer now
  | .commit thread =>
    match system.passes.lookup thread with
    | none => system
    | some pass =>
      if pass.waiting ≠ [] then system
      else if pass.connected then { system.drop thread with
        rows := apply pass.locks system.rows
        failures := system.failures ++ pass.failures }
      else system.drop thread
  | .crash thread => system.drop thread
  | .disconnect thread =>
    match system.passes.lookup thread with
    | none => system
    | some pass => { system with passes := system.passes.insert thread { pass with connected := false } }
  | .cleanup now =>
    { system with rows := system.rows.deleteWhere fun _ row =>
        row.publishedAt.any fun at_ => at_ < now - config.outboxRetentionDays * dayMs }

end Events
