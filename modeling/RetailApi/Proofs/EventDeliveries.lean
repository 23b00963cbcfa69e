import Mathlib.Data.List.Induction
import Mathlib.Data.List.Nodup
import RetailApi.Base.Run
import RetailApi.Events.Consumer

/-! What redelivery, crashes and failing handlers leave of an event: its handlers' writes once, with its inbox row, or nothing.
What a handler commits in a transaction of its own stays when the delivery fails. -/

namespace Events

open Transaction List

variable {π κ σ χ : Type}

def EventHandlerRegistry.Contained (registry : EventHandlerRegistry σ π χ) (event : EventEnvelope π) : Prop :=
  ∀ drawn, ∀ step ∈ registry.steps event drawn, step.throughManager = true

def applyStep (tables : σ) (step : HandlerStep σ) : Except ConsumeFailure σ := do
  let change ← step.statement tables
  return change tables

def handleAll (registry : EventHandlerRegistry σ π χ) (tables : σ) (event : EventEnvelope π) (drawn : χ) :
    Except ConsumeFailure σ :=
  (registry.steps event drawn).foldlM applyStep tables

/-- What a delivery does to the tables. -/
inductive Change (κ π χ : Type) where
  | handled (eventId : κ) (event : EventEnvelope π) (drawn : χ)
  /-- Also handled to the end, but some handler opens a transaction of its own. -/
  | finished (eventId : κ) (event : EventEnvelope π) (drawn : χ)
  /-- The delivery failed within its first `reached` steps, and those that commit by themselves stay. -/
  | strayed (event : EventEnvelope π) (drawn : χ) (reached : Nat)

namespace Change

def event : Change κ π χ → EventEnvelope π
  | .handled _ event _ | .finished _ event _ | .strayed event _ _ => event

def drawn : Change κ π χ → χ
  | .handled _ _ drawn | .finished _ _ drawn | .strayed _ drawn _ => drawn

/-- The inbox row that is committed with the change. -/
def filed? : Change κ π χ → Option κ
  | .handled eventId _ _ | .finished eventId _ _ => some eventId
  | .strayed _ _ _ => none

def apply (registry : EventHandlerRegistry σ π χ) (tables : σ) : Change κ π χ → Except ConsumeFailure σ
  | .handled _ event drawn => handleAll registry tables event drawn
  | .finished _ event drawn =>
    let ended := runSteps ⟨tables, id⟩ (registry.steps event drawn)
    (fun _ => ended.1.view) <$> ended.2
  | .strayed event drawn reached => .ok (runSteps ⟨tables, id⟩ ((registry.steps event drawn).take reached)).1.committed

/-- Only an event some handler of which opens a transaction of its own is finished or strays. -/
def Accounted (platform : Platform κ) (registry : EventHandlerRegistry σ π χ) : Change κ π χ → Prop
  | .handled eventId event _ => registry.Contained event ∧ platform.castUuid event.id = some eventId
  | .finished eventId event _ => ¬registry.Contained event ∧ platform.castUuid event.id = some eventId
  | .strayed event _ _ => ¬registry.Contained event

end Change

/-- The event of a delivery, with what its handlers draw. -/
def Delivery.read (platform : Platform κ) (delivery : Delivery π χ) : Option (EventEnvelope π × χ) :=
  (readEvent platform delivery.body).toOption.map fun event => (event, delivery.drawn)

/-- The tables and the inbox come of a history of changes, one for a delivery at most and in their order: the inbox has
the events that were handled to the end, once each, and of an event in the inbox nothing more comes. -/
def AppliedOnce (platform : Platform κ) (registry : EventHandlerRegistry σ π χ) (start : σ) (deliveries : List (Delivery π χ))
    (db : Database σ κ) : Prop :=
  ∃ history : List (Change κ π χ),
    db.inbox = history.filterMap Change.filed? ∧ db.inbox.Nodup ∧
    (∀ change ∈ history, change.Accounted platform registry) ∧
    (history.map fun change => (change.event, change.drawn)) <+ deliveries.filterMap (Delivery.read platform) ∧
    (history.Pairwise fun earlier later => ∀ eventId ∈ earlier.filed?, platform.castUuid later.event.id ≠ some eventId) ∧
    history.foldlM (Change.apply registry) start = .ok db.tables

/-- A message that may be forgotten: nothing handles its event, or the event is in the inbox. -/
def Settled (platform : Platform κ) (registry : EventHandlerRegistry σ π χ) (inbox : List κ) (body : Body π) : Prop :=
  ∃ event, readEvent platform body = .ok event ∧
    (registry.handlersFor event.type = [] ∨ ∃ eventId ∈ inbox, platform.castUuid event.id = some eventId)

variable {platform : Platform κ} {registry : EventHandlerRegistry σ π χ}

variable {step : HandlerStep σ} {db : Database σ κ} {start tables : σ} {deliveries : List (Delivery π χ)} {event : EventEnvelope π}

theorem run_manager {tx next : OpenTransaction σ} (through : step.throughManager = true)
    (ran : tx.run step = .ok next) :
    next.committed = tx.committed ∧ applyStep tx.view step = .ok next.view := by
  cases step with
  | ownTransaction statement => cases through
  | manager statement =>
    simp only [OpenTransaction.run, eq_ok] at ran
    obtain ⟨change, made, rfl⟩ := ran
    refine ⟨rfl, ?_⟩
    simp only [applyStep, HandlerStep.statement, eq_ok]
    exact ⟨change, made, rfl⟩

/-- Handlers that keep to the manager commit nothing before the transaction does; what they see at the end is what
running them to the end gives. -/
theorem runSteps_contained (steps : List (HandlerStep σ)) (contained : ∀ step ∈ steps, step.throughManager = true)
    (tx : OpenTransaction σ) :
    (runSteps tx steps).1.committed = tx.committed ∧
    ((runSteps tx steps).2 = .ok () →
      steps.foldlM applyStep tx.view = .ok (runSteps tx steps).1.view) := by
  induction steps generalizing tx with
  | nil => exact ⟨rfl, fun _ => rfl⟩
  | cons step steps inner =>
    simp only [runSteps]
    split
    · next next ran =>
      obtain ⟨same, seen⟩ := run_manager (contained step (.head _)) ran
      obtain ⟨kept, reached⟩ := inner (fun other member => contained other (.tail _ member)) next
      refine ⟨kept.trans same, fun finished => ?_⟩
      rw [foldlM_cons]
      exact ⟨next.view, seen, reached finished⟩
    · exact ⟨rfl, fun finished => by cases finished⟩

theorem Fate.reached_all {fate : Fate} (commits : fate.commits = true) (steps : List (HandlerStep σ)) :
    fate.reached steps = steps := by
  cases fate with
  | lostBefore | commitFails => cases commits
  | completes | notDeleted => rfl

theorem Fate.reached_take (fate : Fate) (steps : List (HandlerStep σ)) : ∃ count, fate.reached steps = steps.take count := by
  cases fate with
  | lostBefore step => exact ⟨step, rfl⟩
  | completes | commitFails | notDeleted => exact ⟨steps.length, take_length.symm⟩

theorem closeTransaction_cases {inbox} {eventId} {fate}
    {ended answer} (closed : closeTransaction inbox eventId fate ended = (db, answer)) :
    (fate.commits = true ∧ ended.2 = .ok () ∧ db = ⟨ended.1.view, inbox ++ [eventId]⟩ ∧ answer = .ok .processed) ∨
    (db = ⟨ended.1.committed, inbox⟩ ∧ ∃ failure, answer = .error failure) := by
  obtain ⟨tx, outcome⟩ := ended
  cases outcome with
  | error failure =>
    cases closed
    exact .inr ⟨rfl, failure, rfl⟩
  | ok _ =>
    simp only [closeTransaction] at closed
    split at closed
    · next commits =>
      cases closed
      exact .inl ⟨commits, rfl, rfl, rfl⟩
    · cases closed
      exact .inr ⟨rfl, _, rfl⟩

variable [DecidableEq κ]

/-- What one delivery can do: nothing, or a change of the tables for an event that is not in the inbox. -/
inductive Handled (platform : Platform κ) (registry : EventHandlerRegistry σ π χ) (db : Database σ κ) (body : Body π) (drawn : χ) :
    Database σ κ → Except ConsumeFailure ConsumeResult → Prop where
  | refused (failure : ConsumeFailure) : Handled platform registry db body drawn db (.error failure)
  | settled (result : ConsumeResult) (known : Settled platform registry db.inbox body) :
      Handled platform registry db body drawn db (.ok result)
  | changed (change : Change κ π χ) (tables : σ) (answer : Except ConsumeFailure ConsumeResult)
      (read : readEvent platform body = .ok change.event) (drew : change.drawn = drawn)
      (accounted : change.Accounted platform registry) (fresh : ∀ eventId ∈ db.inbox, platform.castUuid change.event.id ≠ some eventId)
      (made : change.apply registry db.tables = .ok tables)
      (answered : ∀ result, answer = .ok result → ∃ eventId ∈ change.filed?, platform.castUuid change.event.id = some eventId) :
      Handled platform registry db body drawn ⟨tables, db.inbox ++ change.filed?.toList⟩ answer

theorem handleBody_cases (platform : Platform κ) (registry : EventHandlerRegistry σ π χ) (fate : Fate)
    (drawn : χ) (db : Database σ κ) (body : Body π) :
    Handled platform registry db body drawn (handleBody platform registry fate drawn db body).1
      (handleBody platform registry fate drawn db body).2 := by
  unfold handleBody
  split
  · next failure _ => exact .refused failure
  · next event read =>
    split
    · next empty => exact .settled _ ⟨event, read, .inl (isEmpty_iff.mp empty)⟩
    · unfold runInTenantTransaction
      split
      · exact .refused _
      · next eventId cast =>
        split
        · exact .refused _
        split
        · next filed =>
          by_cases commits : fate.commits = true
          · rw [if_pos commits]
            exact .settled _ ⟨event, read, .inr ⟨eventId, filed, cast⟩⟩
          · rw [if_neg commits]
            exact .refused _
        · next fresh =>
          generalize ending : runSteps ⟨db.tables, id⟩ (fate.reached (registry.steps event drawn)) = ended
          generalize closing : closeTransaction db.inbox eventId fate ended = closed
          obtain ⟨after, answer⟩ := closed
          have apart : ∀ other ∈ db.inbox, platform.castUuid event.id ≠ some other := by
            intro other listed same
            exact fresh (Option.some.inj (cast.symm.trans same) ▸ listed)
          obtain ⟨count, reached⟩ := fate.reached_take (registry.steps event drawn)
          have ran := fun contained : registry.Contained event => runSteps_contained (fate.reached (registry.steps event drawn))
            (fun step member => contained drawn step (mem_of_mem_take (reached ▸ member))) ⟨db.tables, id⟩
          rcases closeTransaction_cases closing with ⟨commits, finished, rfl, rfl⟩ | ⟨rfl, failure, rfl⟩
          · rw [Fate.reached_all commits] at ending ran
            by_cases contained : registry.Contained event
            · have whole := (ran contained).2 (by rw [ending]; exact finished)
              rw [ending] at whole
              exact .changed (.handled eventId event drawn) _ _ read rfl ⟨contained, cast⟩ apart whole fun _ _ => ⟨eventId, rfl, cast⟩
            · have made : (Change.finished eventId event drawn).apply registry db.tables = .ok ended.1.view := by
                simp only [Change.apply, ending, finished]
                rfl
              exact .changed (.finished eventId event drawn) _ _ read rfl ⟨contained, cast⟩ apart made fun _ _ => ⟨eventId, rfl, cast⟩
          · by_cases contained : registry.Contained event
            · have kept := (ran contained).1
              rw [ending] at kept
              rw [kept]
              exact .refused failure
            · have made : (Change.strayed (κ := κ) event drawn count).apply registry db.tables = .ok ended.1.committed := by
                rw [Change.apply, ← reached, ending]
              have changed := Handled.changed (.strayed event drawn count) _ (.error failure) read rfl contained apart made nofun
              rwa [Change.filed?, Option.toList_none, append_nil] at changed

omit [DecidableEq κ] in
theorem AppliedOnce.later (applied : AppliedOnce platform registry start deliveries db) (delivery : Delivery π χ) :
    AppliedOnce platform registry start (deliveries ++ [delivery]) db := by
  obtain ⟨history, listed, distinct, accounted, delivered, rest⟩ := applied
  refine ⟨history, listed, distinct, accounted, delivered.trans ?_, rest⟩
  rw [filterMap_append]
  exact sublist_append_left _ _

omit [DecidableEq κ] in
theorem Settled.mono {inbox more body} (included : inbox ⊆ more)
    (settled : Settled platform registry inbox body) : Settled platform registry more body := by
  obtain ⟨event, read, unhandled | ⟨eventId, filed, cast⟩⟩ := settled
  · exact ⟨event, read, .inl unhandled⟩
  · exact ⟨event, read, .inr ⟨eventId, included filed, cast⟩⟩

omit [DecidableEq κ] in
theorem AppliedOnce.changed {delivery} {change : Change κ π χ} (applied : AppliedOnce platform registry start deliveries db)
    (read : readEvent platform delivery.body = .ok change.event) (drew : change.drawn = delivery.drawn)
    (accounted : change.Accounted platform registry)
    (fresh : ∀ eventId ∈ db.inbox, platform.castUuid change.event.id ≠ some eventId)
    (made : change.apply registry db.tables = .ok tables) :
    AppliedOnce platform registry start (deliveries ++ [delivery]) ⟨tables, db.inbox ++ change.filed?.toList⟩ := by
  obtain ⟨history, listed, distinct, known, delivered, unfiled, replayed⟩ := applied
  refine ⟨history ++ [change], ?_, ?_, forall_concat known accounted, ?_, ?_, ?_⟩
  · rw [filterMap_append, listed]
    cases found : change.filed? <;> simp [found]
  · cases change with
    | strayed => rwa [Change.filed?, Option.toList_none, append_nil]
    | handled eventId | finished eventId => exact concat_eq_append ▸ distinct.concat fun filed => fresh eventId filed accounted.2
  · have own : delivery.read platform = some (change.event, change.drawn) := by
      rw [Delivery.read, read, drew]
      rfl
    rw [map_append, filterMap_append, filterMap_cons_some own]
    exact delivered.append (.refl _)
  · rw [pairwise_append]
    refine ⟨unfiled, pairwise_singleton _ _, fun earlier member later last eventId filed => ?_⟩
    cases mem_singleton.mp last
    exact fresh eventId (listed ▸ mem_filterMap.mpr ⟨earlier, member, filed⟩)
  · rw [foldlM_append]
    simp only [eq_ok]
    refine ⟨db.tables, replayed, ?_⟩
    rw [foldlM_cons]
    exact ⟨tables, made, rfl⟩

structure Reliable (platform : Platform κ) (registry : EventHandlerRegistry σ π χ) (start : σ) (deliveries : List (Delivery π χ))
    (consumer : Consumer σ κ π) : Prop where
  applied : AppliedOnce platform registry start deliveries consumer.db
  acknowledged : ∀ body ∈ consumer.acknowledged, Settled platform registry consumer.db.inbox body

theorem Reliable.process {consumer} (reliable : Reliable platform registry start deliveries consumer) (delivery : Delivery π χ) :
    Reliable platform registry start (deliveries ++ [delivery]) (process platform registry consumer delivery) := by
  have unchanged := reliable.applied.later delivery
  unfold Events.process
  have cases := handleBody_cases platform registry delivery.fate delivery.drawn consumer.db delivery.body
  generalize handleBody platform registry delivery.fate delivery.drawn consumer.db delivery.body = handled at cases
  obtain ⟨db, answer⟩ := handled
  cases cases with
  | refused failure => exact ⟨unchanged, reliable.acknowledged⟩
  | settled result known =>
    dsimp only
    split
    · exact ⟨unchanged, reliable.acknowledged⟩
    · exact ⟨unchanged, forall_concat reliable.acknowledged known⟩
  | changed change tables answer read drew accounted fresh made answered =>
    have applied := reliable.applied.changed read drew accounted fresh made
    have kept : ∀ body ∈ consumer.acknowledged, Settled platform registry (consumer.db.inbox ++ change.filed?.toList) body :=
      fun body member => (reliable.acknowledged body member).mono (subset_append_left _ _)
    cases answer with
    | error failure => exact ⟨applied, kept⟩
    | ok result =>
      obtain ⟨eventId, filed, cast⟩ := answered result rfl
      dsimp only
      split
      · exact ⟨applied, kept⟩
      · exact ⟨applied, forall_concat kept ⟨change.event, read, .inr ⟨eventId, by simp [Option.mem_def.mp filed], cast⟩⟩⟩

/-- After any deliveries, each event whose handlers keep to the manager has been handled to the end once, with its
inbox row, or not at all, whatever the handlers of other events commit by themselves; and a deleted message has its event
in the inbox, unless nothing handles it. -/
theorem deliveries_reliable (platform : Platform κ) (registry : EventHandlerRegistry σ π χ) (start : σ)
    (deliveries : List (Delivery π χ)) :
    Reliable platform registry start deliveries
      (Run.after (process platform registry) { db := { tables := start } } deliveries) := by
  induction deliveries using reverseRecOn with
  | nil =>
    refine ⟨⟨[], rfl, nodup_nil, ?_, .slnil, .nil, rfl⟩, ?_⟩ <;> exact fun _ member => nomatch member
  | append_singleton deliveries delivery inner =>
    rw [Run.after_append]
    exact inner.process delivery

private def plain : Platform Nat := ⟨fun _ => true, fun id => some id.length⟩

private def message (type : String) : Body Unit :=
  .object ⟨some "0b0f4a8e", some type, some 1, some "2026-10-18T00:00:00.000Z", some "tenant-a", some "trace-1", .null, some ()⟩

/-- A handler that commits a count of its own, whatever becomes of the transaction it is called in. -/
private def counting : EventHandlerRegistry Nat Unit Unit :=
  EventHandlerRegistry.register [] "inventory.stock.received" fun _ _ => [.ownTransaction fun _ => .ok (· + 1)]

private def consume (registry : EventHandlerRegistry Nat Unit Unit) (deliveries : List (Delivery Unit Unit)) :
    Consumer Nat Nat Unit :=
  Run.after (process plain registry) { db := { tables := 0 } } deliveries

/-- A message that nothing handles is deleted without an inbox row; and a handler with a transaction of its own leaves
its effect without the row when the consumer's commit fails, and leaves it twice after redelivery. -/
theorem effects_without_inbox_row :
    ((consume [] [⟨message "sales.order.created", (), .completes⟩]).acknowledged.length = 1 ∧
      (consume [] [⟨message "sales.order.created", (), .completes⟩]).db.inbox = []) ∧
    ((consume counting [⟨message "inventory.stock.received", (), .commitFails⟩]).db.tables = 1 ∧
      (consume counting [⟨message "inventory.stock.received", (), .commitFails⟩]).db.inbox = []) ∧
    (consume counting [⟨message "inventory.stock.received", (), .commitFails⟩,
      ⟨message "inventory.stock.received", (), .completes⟩]).db.tables = 2 := by
  refine ⟨⟨?_, ?_⟩, ⟨?_, ?_⟩, ?_⟩ <;> rfl

end Events
