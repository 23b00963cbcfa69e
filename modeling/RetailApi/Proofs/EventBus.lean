import RetailApi.Proofs.EventDeliveries
import RetailApi.Proofs.OutboxDelivery

/-! From a committed event to its effect. The queue between two services delivers late, twice and out of order, and may have a
message whose publisher was not told so; but all that reaches the consumer are events that the producer has committed, and the
inbox tells them apart. -/

namespace Events

open List Table Transaction

variable {κ π σ χ : Type}

/-- What `JSON.parse` makes of `JSON.stringify` of an envelope. -/
def EventEnvelope.body (event : EventEnvelope π) : Body π :=
  .object {
    id := some event.id
    type := some event.type
    version := some event.version
    occurredAt := some event.occurredAt
    tenantId := some event.tenantId
    traceId := some event.traceId
    actor := match event.actor with
      | none => .null
      | some actor => .object (some actor.id) (some actor.type)
    payload := some event.payload }

variable {platform : Platform κ} {event other : EventEnvelope π}

variable [DecidableEq κ]

structure EventBus (σ κ π χ : Type) where
  outbox : OutboxSystem κ (EventEnvelope π) := {}
  /-- Messages that got to the queue although their publishing failed. -/
  strays : List (EventEnvelope π) := []
  delivered : List (Delivery π χ) := []
  consumer : Consumer σ κ π

def EventBus.queue (bus : EventBus σ κ π χ) : List (EventEnvelope π) := bus.outbox.handed.map (·.2) ++ bus.strays

inductive BusInput (κ π χ : Type) where
  | relay (input : RelayInput κ (EventEnvelope π))
  /-- The message that a pass publishes gets to the queue, and the answer is lost. -/
  | stray (pass : Nat)
  | deliver (message : Nat) (drawn : χ) (fate : Fate)

/-- `EventOutbox.add` gives the row the id of its envelope. -/
def RelayInput.namesEvent (platform : Platform κ) : RelayInput κ (EventEnvelope π) → Bool
  | .add id event _ => platform.castUuid event.id = some id
  | _ => true

def busStep (platform : Platform κ) (registry : EventHandlerRegistry σ π χ) (config : EventsConfig)
    (bus : EventBus σ κ π χ) : BusInput κ π χ → EventBus σ κ π χ
  | .relay input =>
    if input.namesEvent platform then { bus with outbox := relayStep config bus.outbox input } else bus
  | .stray thread =>
    match bus.outbox.passes.lookup thread with
    | none => bus
    | some pass => { bus with strays := bus.strays ++ pass.waiting.head?.toList.map (·.payload) }
  | .deliver message drawn fate =>
    match bus.queue[message]? with
    | none => bus
    | some event => { bus with
        delivered := bus.delivered ++ [⟨event.body, drawn, fate⟩]
        consumer := process platform registry bus.consumer ⟨event.body, drawn, fate⟩ }

variable {registry : EventHandlerRegistry σ π χ} {config : EventsConfig}
  {system : OutboxSystem κ (EventEnvelope π)} {bus : EventBus σ κ π χ} {start : σ}

/-- The rows that passes still publish and what was published are committed events, each under its own id. -/
structure OutboxSystem.Genuine (platform : Platform κ) (system : OutboxSystem κ (EventEnvelope π)) : Prop where
  keyed : ∀ entry ∈ system.added, platform.castUuid entry.2.id = some entry.1
  distinct : (system.added.map (·.1)).Nodup
  waiting : ∀ thread pass, system.passes.lookup thread = some pass → ∀ row ∈ pass.waiting, (row.id, row.payload) ∈ system.added
  handed : ∀ entry ∈ system.handed, entry ∈ system.added

theorem OutboxSystem.Genuine.relay (genuine : system.Genuine platform) (kept : OutboxKept config system)
    {input : RelayInput κ (EventEnvelope π)} (names : input.namesEvent platform = true) :
    (relayStep config system input).Genuine platform ∧ ∀ entry ∈ system.added, entry ∈ (relayStep config system input).added := by
  have stays : system.Genuine platform ∧ ∀ entry ∈ system.added, entry ∈ system.added := ⟨genuine, fun _ => id⟩
  cases input with
  | add eventId event now =>
    rw [relayStep]
    split
    · exact stays
    · next fresh =>
      refine ⟨⟨forall_concat genuine.keyed (of_decide_eq_true names), ?_, ?_, ?_⟩, fun _ => mem_append_left _⟩
      · rw [map_append]
        exact concat_eq_append ▸ genuine.distinct.concat fresh
      · exact fun thread pass found row member => mem_append_left _ (genuine.waiting thread pass found row member)
      · exact fun entry given => mem_append_left _ (genuine.handed entry given)
  | claim thread now =>
    rw [relayStep]
    split
    · exact stays
    · refine ⟨{ genuine with waiting := forall_insert ?_ genuine.waiting }, stays.2⟩
      intro row claimed
      exact (kept.stored row.id row (kept.lookup_row (mem_claimable claimed).1)).2
  | publish thread answer now =>
    rw [relayStep]
    split
    · exact stays
    · next pass found =>
      split
      · exact stays
      · next row rest next =>
        have waiting := genuine.waiting thread pass found
        rw [next, forall_mem_cons] at waiting
        cases answer with
        | ok => exact ⟨{ genuine with
            waiting := forall_insert waiting.2 genuine.waiting, handed := forall_concat genuine.handed waiting.1 }, stays.2⟩
        | error => exact ⟨{ genuine with waiting := forall_insert waiting.2 genuine.waiting }, stays.2⟩
  | disconnect thread =>
    rw [relayStep]
    split
    · exact stays
    · next pass found =>
      exact ⟨{ genuine with waiting := forall_insert (genuine.waiting thread pass found) genuine.waiting }, stays.2⟩
  | commit | crash | cleanup =>
    simp only [relayStep]
    repeat' split
    all_goals refine ⟨{ genuine with waiting := ?_ }, stays.2⟩
    all_goals first
      | exact genuine.waiting
      | exact fun _ _ found => genuine.waiting _ _ (of_lookup_erase found).2

structure BusKept (platform : Platform κ) (registry : EventHandlerRegistry σ π χ) (config : EventsConfig) (start : σ)
    (bus : EventBus σ κ π χ) : Prop where
  outbox : OutboxKept config bus.outbox
  genuine : bus.outbox.Genuine platform
  queued : ∀ event ∈ bus.queue, ∃ id, (id, event) ∈ bus.outbox.added
  delivered : ∀ delivery ∈ bus.delivered, ∃ entry ∈ bus.outbox.added, delivery.body = entry.2.body
  reliable : Reliable platform registry start bus.delivered bus.consumer

theorem BusKept.step (kept : BusKept platform registry config start bus) (input : BusInput κ π χ) :
    BusKept platform registry config start (busStep platform registry config bus input) := by
  cases input with
  | relay input =>
    rw [busStep]
    split
    · next names =>
      obtain ⟨genuine, grown⟩ := kept.genuine.relay kept.outbox names
      refine ⟨kept.outbox.step input, genuine, fun event member => ?_, fun delivery member => ?_, kept.reliable⟩
      · rcases mem_append.mp member with handed | stray
        · obtain ⟨entry, given, rfl⟩ := mem_map.mp handed
          exact ⟨entry.1, genuine.handed entry given⟩
        · obtain ⟨id, listed⟩ := kept.queued event (mem_append_right _ stray)
          exact ⟨id, grown _ listed⟩
      · obtain ⟨entry, given, same⟩ := kept.delivered delivery member
        exact ⟨entry, grown entry given, same⟩
    · exact kept
  | stray thread =>
    rw [busStep]
    split
    · exact kept
    · next pass found =>
      refine ⟨kept.outbox, kept.genuine, fun event member => ?_, kept.delivered, kept.reliable⟩
      rw [EventBus.queue, ← append_assoc] at member
      rcases mem_append.mp member with before | new
      · exact kept.queued event before
      · obtain ⟨row, first, rfl⟩ := mem_map.mp new
        exact ⟨row.id, kept.genuine.waiting thread pass found row (mem_of_mem_head? (Option.mem_toList.mp first))⟩
  | deliver message drawn fate =>
    rw [busStep]
    split
    · exact kept
    · next event taken =>
      obtain ⟨id, listed⟩ := kept.queued event (mem_of_getElem? taken)
      exact ⟨kept.outbox, kept.genuine, kept.queued, forall_concat kept.delivered ⟨_, listed, rfl⟩,
        kept.reliable.process ⟨event.body, drawn, fate⟩⟩

theorem BusKept.empty : BusKept platform registry config start { consumer := { db := { tables := start } } } := by
  refine ⟨.empty, ⟨?_, nodup_nil, ?_, ?_⟩, ?_, ?_, ⟨⟨[], rfl, nodup_nil, ?_, .slnil, .nil, rfl⟩, ?_⟩⟩
  · rintro _ ⟨⟩
  · rintro _ _ ⟨⟩
  all_goals rintro _ ⟨⟩

end Events
