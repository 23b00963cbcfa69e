import RetailApi.Base.JsText
import RetailApi.Integration.Webhooks
import RetailApi.Proofs.JobLeases

/-! An order event that a webhook delivery was answered for has its sync job while no delivery stops between the inbox
and the job, and none is answered in between. -/

namespace Integration

open Transaction List Table AList

theorem split_at_colon {first second rest other} (plain : ':' ∉ first) (bare : ':' ∉ second)
    (same : first ++ ':' :: rest = second ++ ':' :: other) : first = second ∧ rest = other := by
  induction first generalizing second with
  | nil =>
    cases second with
    | nil => exact ⟨rfl, tail_eq_of_cons_eq same⟩
    | cons letter second =>
      rw [nil_append, cons_append, cons.injEq] at same
      exact absurd (same.1 ▸ mem_cons_self) bare
  | cons letter first inner =>
    cases second with
    | nil =>
      rw [nil_append, cons_append, cons.injEq] at same
      exact absurd (same.1 ▸ mem_cons_self) plain
    | cons other second =>
      rw [cons_append, cons_append, cons.injEq] at same
      obtain ⟨fronts, rests⟩ := inner (fun inside => plain (.tail _ inside)) (fun inside => bare (.tail _ inside)) same.2
      exact ⟨by rw [same.1, fronts], rests⟩

theorem colon_not_digit (number : Nat) : ':' ∉ Nat.toDigits 10 number := by
  intro inside
  cases Nat.isDigit_of_mem_toDigits (by decide) (by decide) inside

theorem key_injective {scope : String} {first second : ProviderEvent}
    (same : scope ++ toString first.connectionId ++ ":" ++ first.deduplicationKey =
      scope ++ toString second.connectionId ++ ":" ++ second.deduplicationKey) : first = second := by
  have letters := congrArg String.toList same
  simp only [String.toList_append, JsString.toList_toString, append_assoc] at letters
  obtain ⟨ids, keys⟩ := split_at_colon (colon_not_digit _) (colon_not_digit _) (append_cancel_left letters)
  have id := JsString.toString_injective (String.ext ((JsString.toList_toString _).trans (ids.trans (JsString.toList_toString _).symm)))
  cases first
  cases second
  cases id
  cases String.ext keys
  rfl

theorem authKey_ne (event other : ProviderEvent) : event.authKey ≠ other.orderKey := by
  intro same
  have letters := congrArg (fun text => text.toList.take 4) same
  simp only [ProviderEvent.orderKey, ProviderEvent.authKey, String.toList_append, append_assoc] at letters
  cases letters

variable {sends : ProviderEvent → NormalizedWebhookEnvelope} {system : WebhookSystem} {thread : Nat} {event : ProviderEvent}
  {delivery : WebhookDelivery}

structure OrderJob (sends : ProviderEvent → NormalizedWebhookEnvelope) (event : ProviderEvent) (job : SyncJobEntity) : Prop where
  key : job.idempotencyKey = event.orderKey
  connection : job.connectionId = event.connectionId
  kind : job.jobType = .orderImport
  ordered : (sends event).ofOrder = true
  order : job.payload.externalOrderId = (sends event).externalOrderId

def SyncJobsDb.HasJob (db : SyncJobsDb) (sends : ProviderEvent → NormalizedWebhookEnvelope) (event : ProviderEvent) : Prop :=
  ∃ id job, db.jobs.lookup id = some job ∧ OrderJob sends event job

def WebhookDelivery.owesJob (delivery : WebhookDelivery) (sends : ProviderEvent → NormalizedWebhookEnvelope) : Bool :=
  match delivery.phase with
  | .stored _ => (sends delivery.event).ofOrder
  | _ => false

structure WebhookSystem.Kept (sends : ProviderEvent → NormalizedWebhookEnvelope) (system : WebhookSystem) : Prop where
  own : ∀ id job, system.db.jobs.lookup id = some job →
    ∃ event, OrderJob sends event job ∨ job.idempotencyKey = event.authKey ∧ (sends event).eventType = .authExpired
  once : ∀ first second one other, system.db.jobs.lookup first = some one → system.db.jobs.lookup second = some other →
    one.idempotencyKey = other.idempotencyKey → first = second
  connected : ∀ thread delivery, system.deliveries.lookup thread = some delivery →
    system.db.connections.lookup delivery.event.connectionId ≠ none
  dispatched : ∀ thread delivery, system.deliveries.lookup thread = some delivery → delivery.phase = .enqueued →
    system.db.HasJob sends delivery.event
  inboxed : ∀ event, system.inbox.lookup event ≠ none → (sends event).ofOrder = true → system.db.HasJob sends event ∨
    ∃ thread delivery, system.deliveries.lookup thread = some delivery ∧ delivery.event = event ∧ delivery.owesJob sends = true
  filed : ∀ event ∈ system.filed, system.inbox.lookup event ≠ none
  answered : ∀ event ∈ system.answered, (sends event).ofOrder = true → system.db.HasJob sends event
  redelivered : ∀ event, 2 ≤ system.filed.count event → (sends event).ofOrder = true → system.db.HasJob sends event

namespace WebhookSystem.Kept

theorem drop (kept : Kept sends system) (settled : ∀ delivery, system.deliveries.lookup thread = some delivery →
    delivery.owesJob sends = true → system.db.HasJob sends delivery.event) : Kept sends (system.drop thread) := by
  refine ⟨kept.own, kept.once, fun other delivery found => kept.connected other delivery (of_lookup_erase found).2,
    fun other delivery found => kept.dispatched other delivery (of_lookup_erase found).2, fun event inbox ofOrder => ?_,
    kept.filed, kept.answered, kept.redelivered⟩
  rcases kept.inboxed event inbox ofOrder with has | ⟨other, delivery, found, own, owes⟩
  · exact .inl has
  · by_cases same : other = thread
    · rw [same] at found
      exact .inl (own ▸ settled delivery found owes)
    · exact .inr ⟨other, delivery, (lookup_erase_ne same).trans found, own, owes⟩

theorem answer (kept : Kept sends system) (settled : ∀ delivery, system.deliveries.lookup thread = some delivery →
    delivery.owesJob sends = true → system.db.HasJob sends delivery.event)
    (has : (sends event).ofOrder = true → system.db.HasJob sends event) : Kept sends (system.answer thread event) := by
  have dropped := kept.drop settled
  refine ⟨dropped.own, dropped.once, dropped.connected, dropped.dispatched, dropped.inboxed, dropped.filed,
    fun other member ofOrder => ?_, dropped.redelivered⟩
  rcases mem_append.mp member with before | new
  · exact kept.answered other before ofOrder
  · rw [mem_singleton.mp new] at ofOrder ⊢
    exact has ofOrder

variable (event) in
theorem setInbox (kept : Kept sends system) (change : WebhookInboxEventEntity → WebhookInboxEventEntity) :
    Kept sends (system.setInbox event change) := by
  rw [WebhookSystem.setInbox]
  split
  · exact kept
  · next row found =>
    have same : ∀ other, (system.inbox.insert event (change row)).lookup other ≠ none ↔ system.inbox.lookup other ≠ none := by
      intro other
      rw [lookup_insert_if]
      by_cases own : other = event
      · rw [if_pos own, own, found]
        exact iff_of_true (Option.some_ne_none _) (Option.some_ne_none _)
      · rw [if_neg own]
    exact ⟨kept.own, kept.once, kept.connected, kept.dispatched, fun other inbox => kept.inboxed other ((same other).mp inbox),
      fun other member => (same other).mpr (kept.filed other member), kept.answered, kept.redelivered⟩

theorem advance (kept : Kept sends system) (phase : DeliveryPhase)
    (connected : system.db.connections.lookup delivery.event.connectionId ≠ none)
    (dispatched : phase = .enqueued → system.db.HasJob sends delivery.event)
    (settled : ∀ before, system.deliveries.lookup thread = some before →
      before.owesJob sends = true → system.db.HasJob sends before.event) : Kept sends (system.advance thread delivery phase) := by
  refine ⟨kept.own, kept.once, forall_insert connected kept.connected, forall_insert dispatched kept.dispatched,
    fun event inbox ofOrder => ?_, kept.filed, kept.answered, kept.redelivered⟩
  · rcases kept.inboxed event inbox ofOrder with has | ⟨other, going, found, own, owes⟩
    · exact .inl has
    · by_cases same : other = thread
      · rw [same] at found
        exact .inl (own ▸ settled going found owes)
      · exact .inr ⟨other, going, (lookup_insert_ne same).trans found, own, owes⟩

theorem connect (kept : Kept sends system) (id : Uuid) (conn : ChannelConnectionEntity) :
    Kept sends { system with db := { system.db with connections := system.db.connections.insert id conn } } := by
  refine ⟨kept.own, kept.once, fun other delivery found => ?_, kept.dispatched, kept.inboxed, kept.filed, kept.answered,
    kept.redelivered⟩
  have before := kept.connected other delivery found
  rw [lookup_insert_if]
  split
  · exact Option.some_ne_none _
  · exact before

variable (event) in
theorem enqueued (kept : Kept sends system) {db input drawn id now}
    {again : Bool} (ran : enqueueSyncJob system.db input drawn now = .ok (db, id, again))
    (own : ∀ conn code, OrderJob sends event (input.job conn code now) ∨
      input.idempotencyKey = event.authKey ∧ (sends event).eventType = .authExpired) :
    Kept sends { system with db } ∧ (input.idempotencyKey = event.orderKey → db.HasJob sends event) := by
  rcases enqueueSyncJob_ok ran with ⟨rfl, job, found, key⟩ | ⟨fresh, absent, connections, conn, code, jobs⟩
  · refine ⟨kept, fun order => ?_⟩
    obtain ⟨other, other_ | auth⟩ := kept.own id job found
    · have same := key_injective (other_.key.symm.trans (key.trans order))
      exact ⟨id, job, found, same ▸ other_⟩
    · exact absurd (auth.1.symm.trans (key.trans order)) (authKey_ne other event)
  · have rows : ∀ {other row}, db.jobs.lookup other = some row → other = id ∧ row = input.job conn code now ∨
        other ≠ id ∧ system.db.jobs.lookup other = some row := by
      intro other row found
      rw [jobs] at found
      exact of_lookup_insert found
    have grown : ∀ {other}, system.db.HasJob sends other → db.HasJob sends other := by
      rintro other ⟨key, row, found, named⟩
      have apart : key ≠ id := by
        rintro rfl
        cases absent.symm.trans found
      refine ⟨key, row, ?_, named⟩
      rw [jobs, lookup_insert_if, if_neg apart]
      exact found
    refine ⟨⟨fun other row found => ?_, fun first second one other found also same => ?_, fun other delivery found => ?_,
      fun other delivery found done => grown (kept.dispatched other delivery found done),
      fun other inbox ofOrder => (kept.inboxed other inbox ofOrder).imp_left grown, kept.filed,
      fun other member ofOrder => grown (kept.answered other member ofOrder),
      fun other twice ofOrder => grown (kept.redelivered other twice ofOrder)⟩, fun order => ?_⟩
    · rcases rows found with ⟨_, rfl⟩ | ⟨_, before⟩
      · exact ⟨event, own conn code⟩
      · exact kept.own other row before
    · rcases rows found with ⟨rfl, rfl⟩ | ⟨_, before⟩
      · rcases rows also with ⟨rfl, _⟩ | ⟨_, others⟩
        · rfl
        · exact absurd same.symm (fresh second other others)
      · rcases rows also with ⟨_, rfl⟩ | ⟨_, others⟩
        · exact absurd same (fresh first one before)
        · exact kept.once first second one other before others same
    · dsimp only
      rw [connections]
      exact kept.connected other delivery found
    · rcases own conn code with named | auth
      · exact ⟨id, _, by rw [jobs, lookup_insert_if, if_pos rfl], named⟩
      · exact absurd (auth.1.symm.trans order) (authKey_ne event event)

end WebhookSystem.Kept

/-- No delivery stops between the inbox and the job of an order event, and none finds the event filed in that time. -/
def WebhookSystem.unbroken (sends : ProviderEvent → NormalizedWebhookEnvelope) (system : WebhookSystem) : WebhookInput → Bool
  | .file thread _ => (system.deliveries.lookup thread).all fun delivery =>
      system.deliveries.rows.all fun other => other.event ≠ delivery.event || !other.owesJob sends
  | .crash thread => (system.deliveries.lookup thread).all fun delivery => !delivery.owesJob sends
  | _ => true

theorem admitWebhook_ok {db connectionKey deduplicationKey provider} {suspended signed}
    (admitted : admitWebhook db sends connectionKey provider deduplicationKey suspended signed = .ok event) :
    db.connections.lookup event.connectionId ≠ none := by
  simp only [admitWebhook, eq_ok] at admitted
  obtain ⟨⟨id, conn⟩, routed, _, _, _, _, _, _, _, _, rfl⟩ := admitted
  obtain ⟨entry, listed, same⟩ := Option.map_eq_some_iff.mp routed
  cases same
  have found : db.connections.lookup entry.1 = some entry.2 := mem_lookup_iff.mpr (mem_of_find?_eq_some listed)
  rw [found]
  exact Option.some_ne_none _

theorem enqueueSyncJob_total {input}
    (connected : system.db.connections.lookup input.connectionId ≠ none) (drawn : Uuid) (now : Int) (failure : IntegrationFailure) :
    enqueueSyncJob system.db input (system.newJobId drawn) now ≠ .error failure := by
  obtain ⟨conn, found⟩ := Option.ne_none_iff_exists'.mp connected
  have fresh : system.db.jobs.lookup (system.newJobId drawn) = none :=
    lookup_eq_none.mpr (Fresh.pick_not_mem (system.db.jobs.entries.map Sigma.fst) drawn)
  rw [enqueueSyncJob]
  split
  · rintro ⟨⟩
  · rw [found, required, ensure, if_pos fresh]
    rintro ⟨⟩

theorem count_filed {other filed} (apart : event ≠ other) : (filed ++ [other]).count event = filed.count event := by
  rw [count_append, count_eq_zero.mpr fun member => apart (mem_singleton.mp member), Nat.add_zero]

namespace WebhookSystem.Kept

theorem file (kept : Kept sends system) (running : system.deliveries.lookup thread = some delivery)
    (verified : delivery.phase = .verified)
    (alone : ∀ other going, system.deliveries.lookup other = some going → going.event = delivery.event →
      going.owesJob sends = false) (drawn : Uuid) : Kept sends (system.file sends thread delivery drawn) := by
  have free : ∀ going, system.deliveries.lookup thread = some going → going.owesJob sends = true →
      system.db.HasJob sends going.event := by
    intro going found owes
    rw [← Option.some.inj (running.symm.trans found), WebhookDelivery.owesJob, verified] at owes
    cases owes
  have has : system.inbox.lookup delivery.event ≠ none → (sends delivery.event).ofOrder = true →
      system.db.HasJob sends delivery.event := by
    intro inbox ofOrder
    rcases kept.inboxed delivery.event inbox ofOrder with has | ⟨other, going, found, own, owes⟩
    · exact has
    · rw [alone other going found own] at owes
      cases owes
  have counted : ∀ event, 2 ≤ (system.filed ++ [delivery.event]).count event → system.inbox.lookup delivery.event ≠ none →
      (sends event).ofOrder = true → system.db.HasJob sends event := by
    intro event twice inbox ofOrder
    by_cases same : event = delivery.event
    · exact same ▸ has inbox (same ▸ ofOrder)
    · rw [count_filed same] at twice
      exact kept.redelivered event twice ofOrder
  rw [WebhookSystem.file]
  cases found : system.inbox.lookup delivery.event with
  | some row =>
    have present : system.inbox.lookup delivery.event ≠ none := by
      rw [found]
      exact Option.some_ne_none _
    have noted : Kept sends { system with filed := system.filed ++ [delivery.event] } := by
      exact ⟨kept.own, kept.once, kept.connected, kept.dispatched, kept.inboxed, forall_concat kept.filed present, kept.answered,
        fun event twice => counted event twice present⟩
    exact noted.answer free (has present)
  | none =>
    have gone := kept.advance (.stored drawn) (kept.connected thread delivery running) (by rintro ⟨⟩) free
    have rows : ∀ {event}, (system.inbox.insert delivery.event (inboxRow (sends delivery.event) delivery.provider drawn)).lookup
        event ≠ none ↔ event = delivery.event ∨ system.inbox.lookup event ≠ none := by
      intro event
      rw [lookup_insert_if]
      by_cases same : event = delivery.event
      · rw [if_pos same]
        exact iff_of_true (Option.some_ne_none _) (.inl same)
      · rw [if_neg same]
        exact (or_iff_right same).symm
    refine ⟨gone.own, gone.once, gone.connected, gone.dispatched, fun event inbox ofOrder => ?_, fun event member => ?_,
      gone.answered, fun event twice ofOrder => ?_⟩
    · rcases rows.mp inbox with rfl | before
      · exact .inr ⟨thread, _, lookup_insert_self .., rfl, ofOrder⟩
      · exact gone.inboxed event before ofOrder
    · refine rows.mpr ?_
      rcases mem_append.mp member with before | new
      · exact .inr (kept.filed event before)
      · exact .inl (mem_singleton.mp new)
    · by_cases same : event = delivery.event
      · have first : system.filed.count delivery.event = 0 :=
          count_eq_zero.mpr fun member => kept.filed _ member found
        change 2 ≤ (system.filed ++ [delivery.event]).count event at twice
        rw [same, count_append, first, count_singleton_self] at twice
        omega
      · change 2 ≤ (system.filed ++ [delivery.event]).count event at twice
        rw [count_filed same] at twice
        exact kept.redelivered event twice ofOrder

theorem dispatch (kept : Kept sends system) (running : system.deliveries.lookup thread = some delivery) {inboxEventId}
    (stored : delivery.phase = .stored inboxEventId) (drawn : Uuid) (now : Int) :
    Kept sends (system.dispatch sends thread delivery inboxEventId drawn now) := by
  have connected := kept.connected thread delivery running
  rw [WebhookSystem.dispatch]
  split
  · next ordered =>
    split
    · next db answer ran =>
      obtain ⟨after, has⟩ := kept.enqueued delivery.event ran fun conn code => .inl ⟨rfl, rfl, rfl, ordered, rfl⟩
      refine after.advance .enqueued (after.connected thread delivery running) (fun _ => has rfl) fun going found _ => ?_
      rw [← Option.some.inj (running.symm.trans found)]
      exact has rfl
    · next failure ran => exact absurd ran (enqueueSyncJob_total connected drawn now failure)
  · next other =>
    have free : ∀ db : SyncJobsDb, ∀ going, system.deliveries.lookup thread = some going → going.owesJob sends = true →
        db.HasJob sends going.event := by
      intro db going found owes
      rw [← Option.some.inj (running.symm.trans found), WebhookDelivery.owesJob, stored] at owes
      exact absurd owes other
    split
    · next expired =>
      split
      · next db answer ran =>
        obtain ⟨after, _⟩ := kept.enqueued delivery.event ran fun conn code => .inr ⟨rfl, expired⟩
        exact after.answer (free db) fun ofOrder => absurd ofOrder other
      · next failure ran => exact absurd ran (enqueueSyncJob_total connected drawn now failure)
    · have marked := kept.setInbox delivery.event fun row =>
        { row with
          processingStatus := .needsReview
          lastError := some s!"Unhandled webhook eventType {(sends delivery.event).eventType}" }
      refine marked.answer (fun going found => ?_) fun ofOrder => absurd ofOrder other
      rw [WebhookSystem.setInbox] at found ⊢
      split at found <;> exact free _ going found

theorem step (kept : Kept sends system) {input} (unbroken : system.unbroken sends input = true) :
    Kept sends (webhookStep sends system input) := by
  cases input with
  | connect id conn => exact kept.connect id conn
  | receive thread connectionKey provider deduplicationKey suspended signed =>
    rw [webhookStep]
    split
    · next event free admitted =>
      refine kept.advance .verified (admitWebhook_ok admitted) (by rintro ⟨⟩) fun going found => ?_
      cases free.symm.trans found
    · exact kept
  | file thread drawn =>
    rw [webhookStep]
    split
    · next event provider running =>
      refine kept.file running rfl (fun other going found same => ?_) drawn
      simp only [WebhookSystem.unbroken, running, Option.all_some, all_eq_true] at unbroken
      have each := unbroken going (mem_map_of_mem (f := Sigma.snd) (mem_lookup_iff.mp found))
      simpa [same] using each
    · exact kept
  | enqueue thread drawn now =>
    rw [webhookStep]
    split
    · next event provider inboxEventId running => exact kept.dispatch running rfl drawn now
    · exact kept
  | mark thread =>
    rw [webhookStep]
    split
    · next event provider running =>
      have has := kept.dispatched thread _ running rfl
      have marked := kept.setInbox event fun row => { row with processingStatus := .processing }
      have same : ∀ change, (system.setInbox event change).deliveries = system.deliveries ∧
          (system.setInbox event change).db = system.db := by
        intro change
        rw [WebhookSystem.setInbox]
        split <;> exact ⟨rfl, rfl⟩
      refine marked.answer (fun going found owes => ?_) fun _ => ?_
      · rw [(same _).1] at found
        rw [← Option.some.inj (running.symm.trans found)] at owes
        cases owes
      · rw [(same _).2]
        exact has
    · exact kept
  | crash thread =>
    refine kept.drop fun delivery found owes => ?_
    simp only [WebhookSystem.unbroken, found, Option.all_some, owes, Bool.not_true] at unbroken
    cases unbroken

theorem empty : Kept sends {} := by
  refine ⟨?_, fun first second one other found => ?_, ?_, ?_, fun event found => absurd rfl found,
    fun event member => absurd member not_mem_nil, fun event member => absurd member not_mem_nil,
    fun event twice => ?_⟩
  any_goals rintro _ _ ⟨⟩
  · cases found
  · cases twice

end WebhookSystem.Kept

/-- The keys under which the receiver enqueues a job for an event. -/
def ProviderEvent.keys (event : ProviderEvent) : List String := [event.orderKey, event.authKey]

structure WebhookSystem.Lossless (sends : ProviderEvent → NormalizedWebhookEnvelope) (system : WebhookSystem) : Prop where
  accepted : ∀ event ∈ system.answered, (sends event).ofOrder = true → system.db.HasJob sends event
  redelivered : ∀ event, 2 ≤ system.filed.count event → (sends event).ofOrder = true → system.db.HasJob sends event
  once : ∀ event : ProviderEvent, ∀ first second one other, system.db.jobs.lookup first = some one →
    system.db.jobs.lookup second = some other → one.idempotencyKey ∈ event.keys → other.idempotencyKey ∈ event.keys → first = second

/-- An event is of an order or of an expired token, so that only one of its keys is ever used. -/
theorem WebhookSystem.Kept.key_of_event (kept : system.Kept sends) {id job} (found : system.db.jobs.lookup id = some job)
    (keyed : job.idempotencyKey ∈ event.keys) :
    job.idempotencyKey = if (sends event).ofOrder then event.orderKey else event.authKey := by
  obtain ⟨other, order | ⟨auth, expired⟩⟩ := kept.own id job found
  · have named : job.idempotencyKey = event.orderKey := by
      apply (mem_pair.mp keyed).resolve_right
      intro auth
      exact authKey_ne event other (auth.symm.trans order.key)
    rw [if_pos (key_injective (order.key.symm.trans named) ▸ order.ordered), named]
  · have named : job.idempotencyKey = event.authKey := by
      apply (mem_pair.mp keyed).resolve_left
      intro order
      exact authKey_ne other event (auth.symm.trans order)
    have plain : ¬(sends event).ofOrder = true := by
      rw [NormalizedWebhookEnvelope.ofOrder, ← key_injective (auth.symm.trans named), expired]
      exact Bool.false_ne_true
    rw [if_neg plain, named]

/-- While no delivery breaks off between the inbox and the job, an accepted or redelivered order event has its job. -/
theorem webhooks_lossless (sends : ProviderEvent → NormalizedWebhookEnvelope) {inputs : List WebhookInput}
    (unbroken : Run.Meets (webhookStep sends) (fun system input => system.unbroken sends input = true) {} inputs) :
    (Run.after (webhookStep sends) {} inputs).Lossless sends := by
  have kept := Run.invariant_of_meets (WebhookSystem.Kept sends) (fun _ _ unbroken kept => kept.step unbroken) unbroken .empty
  exact ⟨kept.answered, kept.redelivered, fun event first second one other found also own same =>
    kept.once first second one other found also ((kept.key_of_event found own).trans (kept.key_of_event also same).symm)⟩

private def placed : NormalizedWebhookEnvelope := ⟨"msg", .orderCreated, "1", some "order", none, 0, none⟩

private def placedAt : ChannelConnectionEntity := ⟨"SHOP", "key", .shopee, .connected, "1"⟩

theorem webhooks_lossless_redelivered :
    (Run.after (webhookStep fun _ => placed) {} [.connect 1 placedAt, .receive 0 "key" .shopee "msg" false true, .file 0 7,
      .enqueue 0 8 0, .mark 0, .receive 1 "key" .shopee "msg" false true, .file 1 9]).db.HasJob (fun _ => placed) ⟨1, "msg"⟩ :=
  (webhooks_lossless (fun _ => placed) (by decide +kernel)).accepted ⟨1, "msg"⟩ (by decide +kernel) rfl

private def crashed : List WebhookInput := [.connect 1 placedAt, .receive 0 "key" .shopee "msg" false true, .file 0 7, .crash 0,
  .receive 1 "key" .shopee "msg" false true, .file 1 9]

/-- The receiver stops before the job is enqueued, and the redelivery is answered from the inbox. -/
theorem crashed_webhook_lost : ¬(Run.after (webhookStep fun _ => placed) {} crashed).Lossless fun _ => placed := by
  intro lossless
  have none : (Run.after (webhookStep fun _ => placed) {} crashed).db.jobs.entries = [] := by decide +kernel
  obtain ⟨id, job, found, _⟩ := lossless.accepted ⟨1, "msg"⟩ (by decide +kernel) rfl
  have listed := mem_lookup_iff.mp found
  cases listed

end Integration
