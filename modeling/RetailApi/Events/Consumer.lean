import RetailApi.Base.Transaction

/-! The event consumer of a service: messages of its queue, the envelope in their body, and
the transaction that files the event in the inbox and runs the service's handlers. -/

namespace Events

open Transaction

structure RequestActor where
  id : String
  type : String

/-- The `actor` member of a parsed message; a member of another type reads as `none`. -/
inductive ActorField where
  | null
  | object (id type : Option String)
  | other

/-- A parsed message body that is an object; a member of another type than its own reads as `none`. -/
structure MessageFields (π : Type) where
  id : Option String
  type : Option String
  version : Option Int
  occurredAt : Option String
  tenantId : Option String
  traceId : Option String
  actor : ActorField
  payload : Option π

inductive Body (π : Type) where
  /-- `JSON.parse` throws. -/
  | malformed
  | scalar
  | object (fields : MessageFields π)

structure EventEnvelope (π : Type) where
  id : String
  type : String
  version : Int
  occurredAt : String
  tenantId : String
  actor : Option RequestActor
  traceId : String
  payload : π

inductive ConsumeFailure where
  | syntaxError
  | invalidEnvelope (reason : String)
  | thrown (message : String)
  | connectionLost
deriving DecidableEq

/-- What the code leaves to the runtime and the database: `Date.parse`, and the cast to `uuid`. -/
structure Platform (κ : Type) where
  isDate : String → Bool
  castUuid : String → Option κ

variable {π κ σ χ : Type}

def nonEmpty (field : Option String) (reason : String) : Except ConsumeFailure String :=
  required (field.filter (· ≠ "")) (.invalidEnvelope reason)

def assertActor : ActorField → Except ConsumeFailure (Option RequestActor)
  | .null => .ok none
  | .object id type => do
    let id ← nonEmpty id "actor"
    let type ← nonEmpty type "actor"
    return some ⟨id, type⟩
  | .other => .error (.invalidEnvelope "actor")

def assertEnvelope (platform : Platform κ) (fields : MessageFields π) : Except ConsumeFailure (EventEnvelope π) := do
  let id ← nonEmpty fields.id "id"
  let type ← nonEmpty fields.type "type"
  let version ← required fields.version (.invalidEnvelope "version")
  let occurredAt ← nonEmpty fields.occurredAt "occurredAt"
  ensure (platform.isDate occurredAt = true) (.invalidEnvelope "occurredAt")
  let tenantId ← nonEmpty fields.tenantId "tenantId"
  let traceId ← nonEmpty fields.traceId "traceId"
  let actor ← assertActor fields.actor
  let payload ← required fields.payload (.invalidEnvelope "payload")
  return { id, type, version, occurredAt, tenantId, actor, traceId, payload }

/-- The event in a message body, `JSON.parse` and the checks of `consumeEvent` passed. -/
def readEvent (platform : Platform κ) : Body π → Except ConsumeFailure (EventEnvelope π)
  | .malformed => .error .syntaxError
  | .scalar => .error (.invalidEnvelope "not an object")
  | .object fields => assertEnvelope platform fields

/-- A statement of a handler: it throws in the state it sees, or changes rows. -/
abbrev Statement (σ : Type) := σ → Except ConsumeFailure (σ → σ)

inductive HandlerStep (σ : Type) where
  /-- Through the `manager` of the consumer's transaction. -/
  | manager (statement : Statement σ)
  /-- In a transaction the handler opens on the data source and commits itself. -/
  | ownTransaction (statement : Statement σ)

def HandlerStep.statement : HandlerStep σ → Statement σ
  | .manager statement | .ownTransaction statement => statement

def HandlerStep.throughManager : HandlerStep σ → Bool
  | .manager _ => true
  | .ownTransaction _ => false

/-- `χ` is what a handler draws from the clock and the random generator on one call. -/
abbrev EventHandler (σ π χ : Type) := EventEnvelope π → χ → List (HandlerStep σ)

/-- The `@OnEvent` methods of a service, in the order they were registered. -/
abbrev EventHandlerRegistry (σ π χ : Type) := List (String × EventHandler σ π χ)

namespace EventHandlerRegistry

def register (registry : EventHandlerRegistry σ π χ) (type : String) (handler : EventHandler σ π χ) :
    EventHandlerRegistry σ π χ :=
  registry ++ [(type, handler)]

def handlersFor (registry : EventHandlerRegistry σ π χ) (type : String) : List (EventHandler σ π χ) :=
  (registry.filter (·.1 = type)).map (·.2)

/-- What the handlers of an event do, one after the other. -/
def steps (registry : EventHandlerRegistry σ π χ) (event : EventEnvelope π) (drawn : χ) : List (HandlerStep σ) :=
  (registry.handlersFor event.type).flatMap fun handler => handler event drawn

end EventHandlerRegistry

/-- The committed rows of a service: its own tables, and the `event_id` column of `inbox_event`. -/
structure Database (σ κ : Type) where
  tables : σ
  inbox : List κ := []

/-- The consumer's open transaction: the committed tables, and what it has changed itself. -/
structure OpenTransaction (σ : Type) where
  committed : σ
  pending : σ → σ := id

namespace OpenTransaction

def view (tx : OpenTransaction σ) : σ := tx.pending tx.committed

def run (tx : OpenTransaction σ) : HandlerStep σ → Except ConsumeFailure (OpenTransaction σ)
  | .manager statement => do
    let change ← statement tx.view
    return { tx with pending := change ∘ tx.pending }
  | .ownTransaction statement => do
    let change ← statement tx.view
    return { tx with committed := change tx.committed }

end OpenTransaction

inductive Fate where
  | completes
  | lostBefore (step : Nat)
  | commitFails
  /-- The transaction commits, but the message is not deleted. -/
  | notDeleted
deriving DecidableEq

def Fate.reached (fate : Fate) (steps : List (HandlerStep σ)) : List (HandlerStep σ) :=
  match fate with
  | .lostBefore step => steps.take step
  | _ => steps

def Fate.commits : Fate → Bool
  | .completes | .notDeleted => true
  | .lostBefore _ | .commitFails => false

/-- The handlers of an event up to the first that throws; the state of the transaction is that of the failure. -/
def runSteps (tx : OpenTransaction σ) :
    List (HandlerStep σ) → OpenTransaction σ × Except ConsumeFailure Unit
  | [] => (tx, .ok ())
  | step :: steps =>
    match tx.run step with
    | .ok next => runSteps next steps
    | .error failure => (tx, .error failure)

inductive ConsumeResult where
  | processed | duplicate
deriving DecidableEq

/-- The end of the transaction: the inbox row and the pending changes are committed together, or neither is. -/
def closeTransaction (inbox : List κ) (eventId : κ) (fate : Fate) :
    OpenTransaction σ × Except ConsumeFailure Unit → Database σ κ × Except ConsumeFailure ConsumeResult
  | (tx, .ok _) =>
    if fate.commits then (⟨tx.view, inbox ++ [eventId]⟩, .ok .processed)
    else (⟨tx.committed, inbox⟩, .error .connectionLost)
  | (tx, .error failure) => (⟨tx.committed, inbox⟩, .error failure)

variable [DecidableEq κ]

/-- `INSERT INTO inbox_event ... ON CONFLICT DO NOTHING`, and the handlers if it inserted a row. -/
def runInTenantTransaction (platform : Platform κ) (registry : EventHandlerRegistry σ π χ) (fate : Fate) (drawn : χ)
    (db : Database σ κ) (event : EventEnvelope π) : Database σ κ × Except ConsumeFailure ConsumeResult :=
  match platform.castUuid event.id with
  | none => (db, .error (.thrown "invalid input syntax for type uuid"))
  | some eventId =>
    if 150 < event.type.length then (db, .error (.thrown "value too long for type character varying(150)"))
    else if eventId ∈ db.inbox then (db, if fate.commits then .ok .duplicate else .error .connectionLost)
    else closeTransaction db.inbox eventId fate (runSteps ⟨db.tables, id⟩ (fate.reached (registry.steps event drawn)))

def handleBody (platform : Platform κ) (registry : EventHandlerRegistry σ π χ) (fate : Fate) (drawn : χ)
    (db : Database σ κ) (body : Body π) : Database σ κ × Except ConsumeFailure ConsumeResult :=
  match readEvent platform body with
  | .error failure => (db, .error failure)
  | .ok event =>
    -- No handler: the message is dropped with a warning.
    if (registry.handlersFor event.type).isEmpty then (db, .ok .processed)
    else runInTenantTransaction platform registry fate drawn db event

structure Delivery (π χ : Type) where
  body : Body π
  drawn : χ
  fate : Fate := .completes

/-- A service with the messages it has deleted from its queue. -/
structure Consumer (σ κ π : Type) where
  db : Database σ κ
  acknowledged : List (Body π) := []

/-- `process`: a message is deleted when its handling did not throw. -/
def process (platform : Platform κ) (registry : EventHandlerRegistry σ π χ) (consumer : Consumer σ κ π)
    (delivery : Delivery π χ) : Consumer σ κ π :=
  match handleBody platform registry delivery.fate delivery.drawn consumer.db delivery.body with
  | (db, .ok _) =>
    if delivery.fate = .notDeleted then { consumer with db }
    else { db, acknowledged := consumer.acknowledged ++ [delivery.body] }
  | (db, .error _) => { consumer with db }

end Events
