import RetailApi.Base.Run
import RetailApi.Catalog.PlanQuota

/-! The limits that the catalog enforces against the plan of the store. An event that is applied makes the row its own, and
the row never goes back in time; but an edit of a plan that comes before the store's move to it is dropped for good. -/

namespace Catalog

open Inbox StorePlans List

def PlanEvent.code : PlanEvent → String
  | .subscriptionChanged code _ | .planChanged code _ => code

def PlanEvent.quotas : PlanEvent → PlanQuotas
  | .subscriptionChanged _ quotas | .planChanged _ quotas => quotas

def PlanEvent.isEdit : PlanEvent → Bool
  | .subscriptionChanged .. => false
  | .planChanged .. => true

def TenantPlanQuota.ofEvent (envelope : PlanEnvelope) : TenantPlanQuota where
  planCode := envelope.event.code
  quotaProducts := envelope.event.quotas.products
  quotaStorageMb := envelope.event.quotas.storageMb
  sourceChangedAt := envelope.occurredAt

/-- An edit finds a row of its plan; a change of the subscription needs none. -/
def FindsPlan (row : Option TenantPlanQuota) (envelope : PlanEnvelope) : Prop :=
  envelope.event.isEdit = true → ∃ found, row = some found ∧ found.planCode = envelope.event.code

def Heeded (row : Option TenantPlanQuota) (envelope : PlanEnvelope) : Prop :=
  FindsPlan row envelope ∧ ∀ found, row = some found → found.sourceChangedAt ≤ envelope.occurredAt

section Rows

variable {row : Option TenantPlanQuota} {envelope : PlanEnvelope} {events : List PlanEnvelope}

theorem handlePlanEvent_heeded (heeded : Heeded row envelope) : handlePlanEvent row envelope = some (.ofEvent envelope) := by
  obtain ⟨finds, notNewer⟩ := heeded
  obtain ⟨id, occurredAt, event⟩ := envelope
  cases event with
  | subscriptionChanged code quotas =>
    show onSubscriptionChanged row occurredAt code quotas = _
    rw [onSubscriptionChanged, if_neg]
    · rfl
    · cases row with
      | none => exact Bool.false_ne_true
      | some found => simpa using notNewer found rfl
  | planChanged code quotas =>
    obtain ⟨found, rfl, same⟩ := finds rfl
    have notNewer : found.sourceChangedAt ≤ occurredAt := notNewer found rfl
    show onPlanChanged (some found) occurredAt code quotas = _
    rw [onPlanChanged, if_neg (by rw [not_or, not_not, Nat.not_lt]; exact ⟨same, notNewer⟩), same]
    rfl

theorem handlePlanEvent_passed (passed : ¬Heeded row envelope) : handlePlanEvent row envelope = row := by
  obtain ⟨id, occurredAt, event⟩ := envelope
  cases event with
  | subscriptionChanged code quotas =>
    show onSubscriptionChanged row occurredAt code quotas = row
    rw [onSubscriptionChanged, if_pos]
    by_contra notNewer
    refine passed ⟨nofun, ?_⟩
    rintro found rfl
    simpa using notNewer
  | planChanged code quotas =>
    cases row with
    | none => rfl
    | some found =>
      show onPlanChanged (some found) occurredAt code quotas = some found
      rw [onPlanChanged, if_pos]
      by_contra fits
      rw [not_or, not_not, Nat.not_lt] at fits
      refine passed ⟨fun _ => ⟨found, rfl, fits.1⟩, ?_⟩
      rintro _ ⟨⟩
      exact fits.2

def Shows (events : List PlanEnvelope) (row : Option TenantPlanQuota) : Prop :=
  ∀ found, row = some found → ∃ envelope ∈ events, found = .ofEvent envelope

def ShowsSince (events : List PlanEnvelope) (since : Nat) (row : Option TenantPlanQuota) : Prop :=
  ∃ envelope ∈ events, row = some (.ofEvent envelope) ∧ since ≤ envelope.occurredAt

theorem Shows.handle (shows : Shows events row) (member : envelope ∈ events) : Shows events (handlePlanEvent row envelope) := by
  by_cases heeded : Heeded row envelope
  · rw [handlePlanEvent_heeded heeded]
    rintro _ ⟨⟩
    exact ⟨envelope, member, rfl⟩
  · rw [handlePlanEvent_passed heeded]
    exact shows

theorem ShowsSince.handle {since} (shows : ShowsSince events since row) (member : envelope ∈ events) :
    ShowsSince events since (handlePlanEvent row envelope) := by
  by_cases heeded : Heeded row envelope
  · rw [handlePlanEvent_heeded heeded]
    obtain ⟨shown, -, rfl, later⟩ := shows
    exact ⟨envelope, member, rfl, later.trans (heeded.2 _ rfl)⟩
  · rw [handlePlanEvent_passed heeded]
    exact shows

theorem Shows.subscribed (shows : Shows events row) (member : envelope ∈ events) (subscription : envelope.event.isEdit = false) :
    ShowsSince events envelope.occurredAt (handlePlanEvent row envelope) := by
  by_cases heeded : Heeded row envelope
  · rw [handlePlanEvent_heeded heeded]
    exact ⟨envelope, member, rfl, le_rfl⟩
  · rw [handlePlanEvent_passed heeded]
    by_contra missed
    refine heeded ⟨fun edit => absurd edit (by rw [subscription]; exact Bool.false_ne_true), ?_⟩
    intro found here
    by_contra newer
    obtain ⟨shown, listed, rfl⟩ := shows found here
    exact missed ⟨shown, listed, here, le_of_not_ge newer⟩

theorem planQuota_shows {deliveries} (drawn : ∀ other ∈ deliveries, other ∈ events) : Shows events (planQuota deliveries) :=
  deliver_preserves (Shows events) (fun other member _ shows => shows.handle (drawn other member)) nofun

theorem planQuota_since {before after} {since} (distinct : (events.map (·.id)).Nodup)
    (delivers : Delivers (before ++ envelope :: after) events) (first : envelope ∉ before)
    (brought : ShowsSince events since (handlePlanEvent (planQuota before) envelope)) :
    ShowsSince events since (planQuota (before ++ envelope :: after)) := by
  have inside : ∀ other ∈ before ++ envelope :: after, other ∈ events := fun other => (delivers other).mp
  refine delivered_from (ShowsSince events since) ?_ brought ?_
  · intro filed
    obtain ⟨other, listed, same⟩ := mem_map.mp filed
    have twice := inj_on_of_nodup_map distinct (inside other (mem_append_left _ listed))
      (inside envelope (mem_append_right _ (.head _))) same
    exact first (twice ▸ listed)
  · exact fun other member state shows => shows.handle (inside other (mem_append_right _ (.tail _ member)))

end Rows

def sinceSubscription (events : List PlanEnvelope) : List PlanEnvelope :=
  events.foldl (fun since envelope => if envelope.event.isEdit = true then since ++ [envelope] else [envelope]) []

/-- No edit since the last change of the subscription has altered the limits. -/
def Unedited (events : List PlanEnvelope) : Prop :=
  ∀ one ∈ sinceSubscription events, ∀ other ∈ sinceSubscription events, one.event.quotas = other.event.quotas

def StorePlans.InForce (platform : StorePlans) (row : Option TenantPlanQuota) : Prop :=
  ∀ code, platform.current = some code → ∃ found, row = some found ∧ found.planCode = code ∧
    platform.plans.lookup code = some ⟨found.quotaProducts, found.quotaStorageMb⟩

/-- The events since the store is on its plan, the last of them with the limits in force. -/
structure StorePlans.OnPlan (platform : StorePlans) (code : String) (earlier : List PlanEnvelope) (move : PlanEnvelope)
    (edits : List PlanEnvelope) : Prop where
  split : platform.outbox = earlier ++ move :: edits
  since : sinceSubscription platform.outbox = move :: edits
  moves : move.event.isEdit = false
  plan : ∀ envelope ∈ move :: edits, envelope.event.code = code
  edited : ∀ envelope ∈ edits, envelope.event.isEdit = true
  limits : platform.plans.lookup code = some (edits.getLast?.getD move).event.quotas

structure StorePlans.Announces (platform : StorePlans) : Prop where
  numbered : platform.outbox.map (·.id) = range platform.outbox.length
  ordered : platform.outbox.Pairwise fun first second => first.occurredAt < second.occurredAt
  quiet : platform.current = none → platform.outbox = []
  onPlan : ∀ code, platform.current = some code → ∃ earlier move edits, platform.OnPlan code earlier move edits

section History

variable {platform : StorePlans} {occurredAt : Nat} {event : PlanEvent}

theorem sinceSubscription_append (events : List PlanEnvelope) (envelope : PlanEnvelope) :
    sinceSubscription (events ++ [envelope]) =
      if envelope.event.isEdit = true then sinceSubscription events ++ [envelope] else [envelope] :=
  foldl_append

theorem add_numbered (numbered : platform.outbox.map (·.id) = range platform.outbox.length) :
    (platform.add occurredAt event).outbox.map (·.id) = range (platform.add occurredAt event).outbox.length := by
  simp only [add, map_append, numbered, length_append, length_singleton, range_succ,
    map_singleton]

theorem add_ordered (ordered : platform.outbox.Pairwise fun first second => first.occurredAt < second.occurredAt)
    (later : ∀ envelope ∈ platform.outbox, envelope.occurredAt < occurredAt) :
    (platform.add occurredAt event).outbox.Pairwise fun first second => first.occurredAt < second.occurredAt := by
  refine pairwise_append.mpr ⟨ordered, pairwise_singleton _ _, ?_⟩
  intro first listed second last
  rw [mem_singleton.mp last]
  exact later first listed

variable {code : String} {quotas : PlanQuotas} {input : Nat × PlanChange}

section

variable (announces : platform.Announces)
include announces

theorem subscribe_announces
    (found : platform.plans.lookup code = some quotas) (later : ∀ envelope ∈ platform.outbox, envelope.occurredAt < occurredAt) :
    (add { platform with current := some code } occurredAt (.subscriptionChanged code quotas)).Announces := by
  refine ⟨add_numbered announces.numbered, add_ordered announces.ordered later, nofun, ?_⟩
  rintro _ ⟨⟩
  refine ⟨platform.outbox, ⟨platform.outbox.length, occurredAt, .subscriptionChanged code quotas⟩, [], rfl, ?_, rfl, ?_, nofun, found⟩
  · exact sinceSubscription_append ..
  · intro envelope member
    rw [mem_singleton.mp member]
    rfl

theorem edit_announces
    (here : platform.current = some code) (later : ∀ envelope ∈ platform.outbox, envelope.occurredAt < occurredAt) :
    (add { platform with plans := platform.plans.insert code quotas } occurredAt (.planChanged code quotas)).Announces := by
  refine ⟨add_numbered announces.numbered, add_ordered announces.ordered later, ?_, ?_⟩
  · intro absent
    cases absent.symm.trans here
  · intro other same
    cases here.symm.trans same
    obtain ⟨earlier, move, edits, onPlan⟩ := announces.onPlan code here
    let envelope : PlanEnvelope := ⟨platform.outbox.length, occurredAt, .planChanged code quotas⟩
    refine ⟨earlier, move, edits ++ [envelope], ?_, ?_, onPlan.moves, ?_, ?_, ?_⟩
    · show platform.outbox ++ [envelope] = _
      rw [onPlan.split, append_assoc, cons_append]
    · show sinceSubscription (platform.outbox ++ [envelope]) = _
      rw [sinceSubscription_append, onPlan.since]
      rfl
    · intro other member
      rw [← cons_append, mem_append, mem_singleton] at member
      rcases member with listed | rfl
      · exact onPlan.plan other listed
      · rfl
    · intro other member
      rw [mem_append, mem_singleton] at member
      rcases member with listed | rfl
      · exact onPlan.edited other listed
      · rfl
    · rw [getLast?_concat]
      exact Table.lookup_insert_self _ _ _

theorem editOther_announces (apart : platform.current ≠ some code) :
    Announces { platform with plans := platform.plans.insert code quotas } := by
  refine ⟨announces.numbered, announces.ordered, announces.quiet, ?_⟩
  intro other same
  obtain ⟨earlier, move, edits, onPlan⟩ := announces.onPlan other same
  have different : other ≠ code := fun equal => apart (equal ▸ same)
  refine ⟨earlier, move, edits, onPlan.split, onPlan.since, onPlan.moves, onPlan.plan, onPlan.edited, ?_⟩
  rw [Table.lookup_insert_if, if_neg different]
  exact onPlan.limits

theorem change_announces
    (later : ∀ envelope ∈ platform.outbox, envelope.occurredAt < input.1) : (platform.change input).Announces := by
  obtain ⟨occurredAt, change⟩ := input
  cases change with
  | subscribe code =>
    cases found : platform.plans.lookup code with
    | none =>
      unfold change
      simp only [found]
      exact announces
    | some quotas =>
      unfold change
      simp only [found]
      exact subscribe_announces announces found later
  | editPlan code quotas =>
    unfold change
    dsimp only
    split
    · exact announces
    · split
      · next here => exact edit_announces announces here later
      · next apart => exact editOther_announces announces apart

end

theorem change_times {envelope} (member : envelope ∈ (platform.change input).outbox) :
    envelope ∈ platform.outbox ∨ envelope.occurredAt = input.1 := by
  have added : ∀ {before : StorePlans} {event : PlanEvent}, envelope ∈ (before.add input.1 event).outbox →
      envelope ∈ before.outbox ∨ envelope.occurredAt = input.1 := by
    intro before event member
    rcases mem_append.mp member with earlier | last
    · exact .inl earlier
    · rw [mem_singleton.mp last]
      exact .inr rfl
  obtain ⟨occurredAt, change⟩ := input
  cases change with
  | subscribe code =>
    cases found : platform.plans.lookup code with
    | none =>
      unfold change at member
      simp only [found] at member
      exact .inl member
    | some quotas =>
      unfold change at member
      simp only [found] at member
      exact added member
  | editPlan code quotas =>
    unfold change at member
    dsimp only at member
    split at member
    · exact .inl member
    · split at member
      · exact added member
      · exact .inl member

theorem history_announces {history} (ordered : (history.map (·.1)).Pairwise (· < ·))
    (announces : platform.Announces) (later : ∀ envelope ∈ platform.outbox, ∀ input ∈ history, envelope.occurredAt < input.1) :
    (Run.after change platform history).Announces := by
  induction history generalizing platform with
  | nil => exact announces
  | cons input history inner =>
    rw [map_cons, pairwise_cons] at ordered
    refine inner ordered.2 (change_announces announces fun envelope member => later envelope member input (.head _)) ?_
    intro envelope member next listed
    rcases change_times member with earlier | same
    · exact later envelope earlier next (.tail _ listed)
    · rw [same]
      exact ordered.1 next.1 (mem_map_of_mem listed)

end History

section Convergence

variable {platform : StorePlans} {code : String} {earlier edits : List PlanEnvelope} {move : PlanEnvelope}

theorem StorePlans.Announces.distinct (announces : platform.Announces) : (platform.outbox.map (·.id)).Nodup := by
  rw [announces.numbered]
  exact nodup_range

theorem StorePlans.OnPlan.move_mem (onPlan : platform.OnPlan code earlier move edits) : move ∈ platform.outbox := by
  rw [onPlan.split]
  exact mem_append_right _ (.head _)

variable {envelope : PlanEnvelope}

theorem StorePlans.OnPlan.recent (onPlan : platform.OnPlan code earlier move edits) (announces : platform.Announces)
    (member : envelope ∈ platform.outbox) (later : move.occurredAt ≤ envelope.occurredAt) : envelope ∈ move :: edits := by
  rw [onPlan.split] at member
  rcases mem_append.mp member with old | recent
  · have ordered := announces.ordered
    rw [onPlan.split] at ordered
    have before := (pairwise_append.mp ordered).2.2 envelope old move (.head _)
    omega
  · exact recent

theorem last_mem (move : PlanEnvelope) (edits : List PlanEnvelope) : edits.getLast?.getD move ∈ move :: edits := by
  cases last : edits.getLast? with
  | none => exact .head _
  | some envelope => exact .tail _ (mem_of_getLast? last)

theorem StorePlans.OnPlan.le_last (onPlan : platform.OnPlan code earlier move edits) (announces : platform.Announces)
    (member : envelope ∈ platform.outbox)
    (late : (edits.getLast?.getD move).occurredAt ≤ envelope.occurredAt) : envelope = edits.getLast?.getD move := by
  have ends : ∃ front, platform.outbox = front ++ [edits.getLast?.getD move] := by
    rw [onPlan.split]
    rcases eq_nil_or_concat edits with rfl | ⟨front, last, rfl⟩
    · exact ⟨earlier, rfl⟩
    · refine ⟨earlier ++ move :: front, ?_⟩
      rw [concat_eq_append, getLast?_concat, append_assoc]
      rfl
  obtain ⟨front, split⟩ := ends
  have ordered := announces.ordered
  rw [split] at ordered member
  rcases mem_append.mp member with old | last
  · have before := (pairwise_append.mp ordered).2.2 envelope old _ (.head _)
    omega
  · exact mem_singleton.mp last

theorem StorePlans.OnPlan.inForce (onPlan : platform.OnPlan code earlier move edits) (here : platform.current = some code)
    (member : envelope ∈ move :: edits) (limits : envelope.event.quotas = (edits.getLast?.getD move).event.quotas) :
    platform.InForce (some (.ofEvent envelope)) := by
  intro other same
  cases here.symm.trans same
  refine ⟨_, rfl, onPlan.plan envelope member, ?_⟩
  rw [onPlan.limits, ← limits]
  rfl

theorem foldl_edits {row} (plan : ∀ envelope ∈ edits, envelope.event.code = row.planCode)
    (later : ∀ envelope ∈ edits, row.sourceChangedAt < envelope.occurredAt)
    (ordered : edits.Pairwise fun first second => first.occurredAt < second.occurredAt) :
    edits.foldl handlePlanEvent (some row) = some ((edits.getLast?.map TenantPlanQuota.ofEvent).getD row) := by
  induction edits generalizing row with
  | nil => rfl
  | cons envelope edits inner =>
    have heeded : Heeded (some row) envelope := by
      refine ⟨fun _ => ⟨row, rfl, (plan envelope (.head _)).symm⟩, ?_⟩
      rintro _ ⟨⟩
      exact (later envelope (.head _)).le
    rw [pairwise_cons] at ordered
    have same : (TenantPlanQuota.ofEvent envelope).planCode = row.planCode := plan envelope (.head _)
    rw [foldl_cons, handlePlanEvent_heeded heeded,
      inner (fun other member => (plan other (.tail _ member)).trans same.symm) ordered.1 ordered.2]
    cases last : edits.getLast? with
    | none =>
      rw [getLast?_eq_none_iff] at last
      subst last
      rfl
    | some final =>
      rw [getLast?_cons, last]
      rfl

theorem foldl_lost (edited : ∀ envelope ∈ edits, envelope.event.isEdit = true) : edits.foldl handlePlanEvent none = none := by
  induction edits with
  | nil => rfl
  | cons envelope edits inner =>
    rw [foldl_cons, handlePlanEvent_passed, inner fun other member => edited other (.tail _ member)]
    rintro ⟨finds, -⟩
    obtain ⟨found, impossible, -⟩ := finds (edited envelope (.head _))
    cases impossible

theorem StorePlans.OnPlan.overtaken (onPlan : platform.OnPlan code earlier move edits) (announces : platform.Announces)
    {first later} (split : edits = first ++ later) :
    ∃ order, order.Perm platform.outbox ∧ planQuota order = some (.ofEvent (first.getLast?.getD move)) := by
  have ordered := announces.ordered
  rw [onPlan.split, split] at ordered
  obtain ⟨-, recent, apart⟩ := pairwise_append.mp ordered
  obtain ⟨afterMove, editsOrdered⟩ := pairwise_cons.mp recent
  have reordered : (later ++ (earlier ++ move :: first)).Perm platform.outbox := by
    rw [onPlan.split, split, ← cons_append]
    exact perm_append_comm.trans (.of_eq (append_assoc ..))
  refine ⟨later ++ (earlier ++ move :: first), reordered, ?_⟩
  have distinct := (reordered.map (·.id)).nodup_iff.mpr announces.distinct
  rw [planQuota, delivered_of_nodup (·.id) handlePlanEvent distinct, foldl_append,
    foldl_lost fun envelope member => onPlan.edited envelope (by rw [split]; exact mem_append_right _ member),
    foldl_append, foldl_cons]
  have shown : Shows earlier (earlier.foldl handlePlanEvent none) :=
    foldlRecOn earlier handlePlanEvent (motive := Shows earlier) nofun
      fun _ shows _ member => shows.handle member
  have heeded : Heeded (earlier.foldl handlePlanEvent none) move := by
    refine ⟨fun edit => absurd edit (by rw [onPlan.moves]; exact Bool.false_ne_true), ?_⟩
    intro found here
    obtain ⟨envelope, member, rfl⟩ := shown found here
    exact (apart envelope member move (.head _)).le
  have inside : ∀ envelope ∈ first, envelope ∈ edits := fun envelope member => by rw [split]; exact mem_append_left _ member
  rw [handlePlanEvent_heeded heeded, foldl_edits]
  · cases first.getLast? <;> rfl
  · intro envelope member
    exact (onPlan.plan envelope (.tail _ (inside envelope member))).trans (onPlan.plan move (.head _)).symm
  · exact fun envelope member => afterMove envelope (mem_append_left _ member)
  · exact (pairwise_append.mp editsOrdered).1

theorem StorePlans.OnPlan.delivered (onPlan : platform.OnPlan code earlier move edits) (announces : platform.Announces)
    {deliveries} (delivers : Delivers deliveries platform.outbox) :
    ∃ envelope ∈ move :: edits, planQuota deliveries = some (.ofEvent envelope) := by
  obtain ⟨before, after, rfl, first⟩ := eq_append_cons_of_mem ((delivers move).mpr onPlan.move_mem)
  have shows : Shows platform.outbox (planQuota before) := planQuota_shows fun other member => (delivers other).mp (mem_append_left _ member)
  obtain ⟨envelope, member, row, later⟩ := planQuota_since announces.distinct delivers first
    (shows.subscribed onPlan.move_mem onPlan.moves)
  exact ⟨envelope, onPlan.recent announces member later, row⟩

theorem StorePlans.Announces.converges_iff (announces : platform.Announces) :
    (∀ deliveries, Delivers deliveries platform.outbox → platform.InForce (planQuota deliveries)) ↔ Unedited platform.outbox := by
  constructor
  · intro converges
    cases here : platform.current with
    | none =>
      rw [Unedited, announces.quiet here]
      exact fun _ member => absurd member not_mem_nil
    | some code =>
      obtain ⟨earlier, move, edits, onPlan⟩ := announces.onPlan code here
      -- each event since the move has the last word in some order, so it has the limits in force
      have limits : ∀ first later, edits = first ++ later →
          platform.plans.lookup code = some (first.getLast?.getD move).event.quotas := by
        intro first later split
        obtain ⟨order, reordered, row⟩ := onPlan.overtaken announces split
        obtain ⟨found, shown, -, limits⟩ := converges order (fun _ => reordered.mem_iff) code here
        cases row.symm.trans shown
        exact limits
      have each : ∀ envelope ∈ move :: edits, platform.plans.lookup code = some envelope.event.quotas := by
        intro envelope member
        rcases mem_cons.mp member with rfl | listed
        · exact limits [] edits rfl
        · obtain ⟨first, later, split⟩ := append_of_mem listed
          have last := limits (first ++ [envelope]) later (by rw [split, append_assoc]; rfl)
          rwa [getLast?_concat] at last
      rw [Unedited, onPlan.since]
      intro one member other listed
      exact Option.some.inj ((each one member).symm.trans (each other listed))
  · intro unedited deliveries delivers code here
    obtain ⟨earlier, move, edits, onPlan⟩ := announces.onPlan code here
    obtain ⟨envelope, member, row⟩ := onPlan.delivered announces delivers
    rw [Unedited, onPlan.since] at unedited
    rw [row]
    exact onPlan.inForce here member (unedited envelope member _ (last_mem move edits)) code here

theorem StorePlans.Announces.inForce_of_finds (announces : platform.Announces) {before after latest}
    (delivers : Delivers (before ++ latest :: after) platform.outbox) (first : latest ∉ before)
    (newest : ∀ envelope ∈ platform.outbox, envelope.occurredAt ≤ latest.occurredAt) (finds : FindsPlan (planQuota before) latest) :
    platform.InForce (planQuota (before ++ latest :: after)) := by
  intro code here
  obtain ⟨earlier, move, edits, onPlan⟩ := announces.onPlan code here
  have member : latest ∈ platform.outbox := (delivers latest).mp (mem_append_right _ (.head _))
  have shows : Shows platform.outbox (planQuota before) := planQuota_shows
    fun other member => (delivers other).mp (mem_append_left _ member)
  have heeded : Heeded (planQuota before) latest := by
    refine ⟨finds, ?_⟩
    intro found row
    obtain ⟨envelope, listed, rfl⟩ := shows found row
    exact newest envelope listed
  obtain ⟨envelope, listed, row, later⟩ := planQuota_since announces.distinct delivers first
    (by rw [handlePlanEvent_heeded heeded]; exact ⟨latest, member, rfl, le_rfl⟩)
  have lastMember : edits.getLast?.getD move ∈ platform.outbox := by
    rw [onPlan.split]
    exact mem_append_right _ (last_mem move edits)
  have same := onPlan.le_last announces listed ((newest _ lastMember).trans later)
  rw [row, same]
  exact onPlan.inForce here (last_mem move edits) rfl code here

end Convergence

theorem StorePlans.Announces.start (plans : Table String PlanQuotas) : Announces { plans } :=
  ⟨rfl, .nil, fun _ => rfl, nofun⟩

/-- Every delivery of the events of a history, in any order and any number of times, leaves the store with the limits in
force, exactly where no edit since its last move has altered them; and a delivery does in which the latest event finds the
row on its plan. -/
theorem plan_quota_converges_iff {plans : Table String PlanQuotas} {history : List (Nat × PlanChange)}
    (ordered : (history.map (·.1)).Pairwise (· < ·)) :
    ((∀ deliveries, Delivers deliveries (Run.after change { plans } history).outbox →
      (Run.after change { plans } history).InForce (planQuota deliveries)) ↔
      Unedited (Run.after change { plans } history).outbox) ∧
    ∀ before latest after, Delivers (before ++ latest :: after) (Run.after change { plans } history).outbox →
      latest ∉ before → (∀ envelope ∈ (Run.after change { plans } history).outbox, envelope.occurredAt ≤ latest.occurredAt) →
      FindsPlan (planQuota before) latest →
      (Run.after change { plans } history).InForce (planQuota (before ++ latest :: after)) := by
  have announces := history_announces ordered (Announces.start plans) nofun
  exact ⟨announces.converges_iff, fun _ _ _ => announces.inForce_of_finds⟩

def raisedPlan : List (Nat × PlanChange) := [(1, .subscribe "basic"), (2, .editPlan "basic" ⟨3000, 20480⟩)]

def basicPlan : Table String PlanQuotas := (∅ : Table String PlanQuotas).insert "basic" ⟨2000, 10240⟩

theorem plan_quota_converges_basic :
    (Run.after change { plans := basicPlan } (raisedPlan.take 1)).InForce
      (planQuota ((Run.after change { plans := basicPlan } (raisedPlan.take 1)).outbox ++
        (Run.after change { plans := basicPlan } (raisedPlan.take 1)).outbox)) := by
  refine (plan_quota_converges_iff (by decide)).1.mpr (by unfold Unedited; decide) _ ?_
  intro envelope
  rw [mem_append, or_self]

/-- The edit is delivered first and dropped; the store keeps the limits that its plan no longer has. -/
theorem plan_quota_diverges_raised :
    let platform := Run.after change { plans := basicPlan } raisedPlan
    Delivers platform.outbox.reverse platform.outbox ∧ platform.current = some "basic" ∧
      platform.plans.lookup "basic" = some ⟨3000, 20480⟩ ∧
      planQuota platform.outbox.reverse = some ⟨"basic", 2000, 10240, 1⟩ :=
  ⟨fun _ => mem_reverse, by decide, by decide, by decide⟩

end Catalog
