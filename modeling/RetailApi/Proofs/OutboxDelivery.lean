import RetailApi.Events.Outbox

/-! Every event of the outbox is stored until the publisher has accepted it, whatever the relays do and wherever they
stop; failures are counted, and only what is published is cleaned up. -/

namespace Events

open RowLocks OutboxEventEntity List Table RelayPass

variable {κ π : Type} {config : EventsConfig} {system : OutboxSystem κ π} {pass : RelayPass κ π} {thread : Nat} {id : κ}
  {row old new : OutboxEventEntity κ π}

theorem backoffMs_mono {fewer more} (le : fewer ≤ more) : backoffMs fewer ≤ backoffMs more := by
  have powers : 2 ^ fewer ≤ 2 ^ more := Nat.pow_le_pow_right (by omega) le
  unfold backoffMs
  omega

theorem backoffMs_le (attempts : Nat) : backoffMs attempts ≤ maxBackoffMs := Nat.min_le_right _ _

namespace OutboxEventEntity

variable {error : List UInt16} {now : Int} {maxAttempts : Nat}

@[simp] theorem markFailed_id : (row.markFailed error now maxAttempts).id = row.id := by
  simp only [markFailed]
  split <;> rfl

@[simp] theorem markFailed_payload : (row.markFailed error now maxAttempts).payload = row.payload := by
  simp only [markFailed]
  split <;> rfl

@[simp] theorem markFailed_publishedAt : (row.markFailed error now maxAttempts).publishedAt = row.publishedAt := by
  simp only [markFailed]
  split <;> rfl

@[simp] theorem markFailed_attempts : (row.markFailed error now maxAttempts).attempts = row.attempts + 1 := by
  simp only [markFailed]
  split <;> rfl

theorem markFailed_parked (open_ : row.failedAt = none) (parked : (row.markFailed error now maxAttempts).failedAt ≠ none) :
    maxAttempts ≤ row.attempts + 1 := by
  by_contra fewer
  apply parked
  simp only [markFailed, if_neg fewer]
  exact open_

theorem markFailed_delay (unparked : (row.markFailed error now maxAttempts).failedAt.isSome ≠ true) :
    (row.markFailed error now maxAttempts).nextAttemptAt - now = backoffMs (row.attempts + 1) := by
  have fewer : ¬maxAttempts ≤ row.attempts + 1 := by
    intro enough
    apply unparked
    simp only [markFailed, if_pos enough, Option.isSome_some]
  simp only [markFailed, if_neg fewer]
  omega

end OutboxEventEntity

variable [DecidableEq κ]

def failuresOf (failures : List (PublishFailure κ)) (id : κ) : List (PublishFailure κ) :=
  failures.filter fun failure => failure.id = id

theorem failuresOf_append (first second : List (PublishFailure κ)) (id : κ) :
    failuresOf (first ++ second) id = failuresOf first id ++ failuresOf second id := filter_append ..

theorem mem_failuresOf {failures failure} : failure ∈ failuresOf failures id ↔ failure ∈ failures ∧ failure.id = id := by
  rw [failuresOf, mem_filter, decide_eq_true_eq]

inductive Marked (config : EventsConfig) (handed : List (κ × π)) (failures : List (PublishFailure κ))
    (old : OutboxEventEntity κ π) : OutboxEventEntity κ π → Prop where
  | waiting (unfailed : failuresOf failures old.id = []) : Marked config handed failures old old
  | published (now : Int) (unfailed : failuresOf failures old.id = []) (given : (old.id, old.payload) ∈ handed) :
      Marked config handed failures old (old.markPublished now)
  | failed (error : List UInt16) (now : Int) (failure : PublishFailure κ) (once : failuresOf failures old.id = [failure])
      (numbered : failure.attempt = old.attempts + 1) (delayed : ∀ delay ∈ failure.delay, delay = backoffMs failure.attempt) :
      Marked config handed failures old (old.markFailed error now config.maxAttempts)

namespace Marked

variable {handed more : List (κ × π)} {failures : List (PublishFailure κ)}

section

variable (marked : Marked config handed failures old new)

include marked

theorem same_id : new.id = old.id := by
  cases marked with
  | waiting => rfl
  | published => rfl
  | failed => exact markFailed_id

theorem payload : new.payload = old.payload := by
  cases marked with
  | waiting => rfl
  | published => rfl
  | failed => exact markFailed_payload

theorem attempts : new.attempts = old.attempts + (failuresOf failures old.id).length := by
  cases marked with
  | waiting unfailed => rw [unfailed]; rfl
  | published _ unfailed => rw [unfailed]; rfl
  | failed _ _ _ once => rw [once, markFailed_attempts]; rfl

theorem given (unpublished : old.publishedAt = none) (published : new.publishedAt ≠ none) : (old.id, old.payload) ∈ handed := by
  cases marked with
  | waiting => exact absurd unpublished published
  | published _ _ given => exact given
  | failed => exact absurd (markFailed_publishedAt.trans unpublished) published

theorem parked (unparked : old.failedAt = none) (parked : new.failedAt ≠ none) : config.maxAttempts ≤ new.attempts := by
  cases marked with
  | waiting => exact absurd unparked parked
  | published => exact absurd unparked parked
  | failed =>
    rw [markFailed_attempts]
    exact markFailed_parked unparked parked

theorem numbered {failure} (listed : failure ∈ failuresOf failures old.id) :
    failuresOf failures old.id = [failure] ∧ failure.attempt = old.attempts + 1 ∧
      ∀ delay ∈ failure.delay, delay = backoffMs failure.attempt := by
  cases marked with
  | waiting unfailed => rw [unfailed] at listed; cases listed
  | published _ unfailed => rw [unfailed] at listed; cases listed
  | failed _ _ other once numbered delayed =>
    rw [once] at listed
    obtain rfl := mem_singleton.mp listed
    exact ⟨once, numbered, delayed⟩

theorem mono (grown : ∀ event ∈ handed, event ∈ more) : Marked config more failures old new := by
  cases marked with
  | waiting unfailed => exact .waiting unfailed
  | published now unfailed given => exact .published now unfailed (grown _ given)
  | failed error now failure once numbered delayed => exact .failed error now failure once numbered delayed

theorem congr {others} (same : failuresOf others old.id = failuresOf failures old.id) : Marked config handed others old new := by
  cases marked with
  | waiting unfailed => exact .waiting (same.trans unfailed)
  | published now unfailed given => exact .published now (same.trans unfailed) given
  | failed error now failure once numbered delayed => exact .failed error now failure (same.trans once) numbered delayed

end

end Marked

structure PassKept (config : EventsConfig) (system : OutboxSystem κ π) (pass : RelayPass κ π) : Prop where
  held : Held pass.locks system.rows
  waiting : ∀ row ∈ pass.waiting, pass.locks.lookup row.id = some ⟨some row, some row⟩ ∧ failuresOf pass.failures row.id = []
  distinct : (pass.waiting.map (·.id)).Nodup
  marked : ∀ id version, pass.locks.lookup id = some version → ∃ old new, version = ⟨some old, some new⟩ ∧
    old.id = id ∧ old.publishedAt = none ∧ old.failedAt = none ∧ Marked config system.handed pass.failures old new
  named : ∀ failure ∈ pass.failures, pass.locks.lookup failure.id ≠ none

/-- The failures of an event are numbered in order, and each delay is that of its number. -/
structure FailuresKept (failures : List (PublishFailure κ)) : Prop where
  bounded : ∀ failure ∈ failures, failure.attempt ≤ (failuresOf failures failure.id).length
  increasing : failures.Pairwise fun earlier later => earlier.id = later.id → earlier.attempt < later.attempt
  delayed : ∀ failure ∈ failures, ∀ delay ∈ failure.delay, delay = backoffMs failure.attempt

structure OutboxKept (config : EventsConfig) (system : OutboxSystem κ π) : Prop where
  added : ∀ id payload, (id, payload) ∈ system.added →
    (∃ row, system.rows.lookup id = some row ∧ row.payload = payload) ∨ (id, payload) ∈ system.handed
  stored : ∀ id row, system.rows.lookup id = some row → row.id = id ∧ (id, row.payload) ∈ system.added
  published : ∀ id row, system.rows.lookup id = some row → row.publishedAt ≠ none → (id, row.payload) ∈ system.handed
  counted : ∀ id row, system.rows.lookup id = some row → row.attempts = (failuresOf system.failures id).length
  parked : ∀ id row, system.rows.lookup id = some row → row.failedAt ≠ none → config.maxAttempts ≤ row.attempts
  known : ∀ failure ∈ system.failures, failure.id ∈ system.added.map (·.1)
  failures : FailuresKept system.failures
  passes : ∀ thread pass, system.passes.lookup thread = some pass → pass.connected = true → PassKept config system pass
  apart : ∀ first second one other, first ≠ second → system.passes.lookup first = some one →
    system.passes.lookup second = some other → one.connected = true → other.connected = true → Apart one.locks other.locks

theorem locked_of_lookup {other version} (running : system.passes.lookup thread = some other) (connected : other.connected = true)
    (found : other.locks.lookup id = some version) : system.locked id = true := by
  rw [OutboxSystem.locked, any_eq_true]
  refine ⟨other, mem_map_of_mem (f := Sigma.snd) (AList.mem_lookup_iff.mp running), ?_⟩
  rw [connected, found]
  rfl

namespace PassKept

variable {after : OutboxSystem κ π}

theorem outlasts (kept : PassKept config system pass) (held : Held pass.locks after.rows)
    (grown : ∀ event ∈ system.handed, event ∈ after.handed) : PassKept config after pass := by
  refine ⟨held, kept.waiting, kept.distinct, fun id version found => ?_, kept.named⟩
  obtain ⟨old, new, same, named, unpublished, unparked, marked⟩ := kept.marked id version found
  exact ⟨old, new, same, named, unpublished, unparked, marked.mono grown⟩

theorem mark {rest} (after : OutboxSystem κ π) (published : Nat)
    (failures : List (PublishFailure κ)) (kept : PassKept config system pass) (next : pass.waiting = row :: rest) (rows : after.rows = system.rows)
    (grown : ∀ event ∈ system.handed, event ∈ after.handed) (own : ∀ failure ∈ failures, failure.id = row.id)
    (marked : Marked config after.handed failures row new) :
    PassKept config after (RelayPass.marked { pass with waiting := rest, published := published, failures := pass.failures ++ failures }
      system.rows new) := by
  obtain ⟨first, unfailed⟩ := kept.waiting row (next ▸ .head _)
  have distinct := kept.distinct
  rw [next, map_cons, nodup_cons] at distinct
  obtain ⟨absent, distinct⟩ := distinct
  have named : new.id = row.id := marked.same_id
  have others : ∀ id, id ≠ row.id → failuresOf (pass.failures ++ failures) id = failuresOf pass.failures id := by
    intro id apart
    have none : failuresOf failures id = [] := by
      rw [failuresOf, filter_eq_nil_iff]
      intro failure member same
      exact apart ((of_decide_eq_true same).symm.trans (own failure member))
    rw [failuresOf_append, none, append_nil]
  have lookup : ∀ id, (write pass.locks system.rows new.id (some new)).lookup id =
      if id = row.id then some ⟨some row, some new⟩ else pass.locks.lookup id := by
    intro id
    rw [lookup_write, named, first]
    rfl
  refine ⟨?_, fun other member => ?_, distinct, fun id version found => ?_, fun failure member => ?_⟩
  · rw [rows]
    exact kept.held.write _ _
  · have apart : other.id ≠ row.id := fun same => absent (same ▸ mem_map_of_mem member)
    obtain ⟨locked, clean⟩ := kept.waiting other (next ▸ .tail _ member)
    exact ⟨(lookup other.id).trans ((if_neg apart).trans locked), (others _ apart).trans clean⟩
  · change (write pass.locks system.rows new.id (some new)).lookup id = _ at found
    rw [lookup] at found
    by_cases same : id = row.id
    · rw [if_pos same] at found
      obtain ⟨old, _, version, _, unpublished, unparked, _⟩ := kept.marked _ _ first
      cases version
      refine ⟨row, new, (Option.some.inj found).symm, same.symm, unpublished, unparked, marked.congr ?_⟩
      show failuresOf (pass.failures ++ failures) row.id = _
      rw [failuresOf_append, unfailed, nil_append]
    · rw [if_neg same] at found
      obtain ⟨old, changed, version, own, unpublished, unparked, before⟩ := kept.marked id version found
      refine ⟨old, changed, version, own, unpublished, unparked, (before.mono grown).congr ?_⟩
      rw [own]
      exact others id same
  · change (write pass.locks system.rows new.id (some new)).lookup failure.id ≠ none
    rw [lookup]
    by_cases same : failure.id = row.id
    · rw [if_pos same]
      simp
    · rw [if_neg same]
      rcases mem_append.mp member with before | added
      · exact kept.named failure before
      · exact absurd (own failure added) same

end PassKept

namespace OutboxKept

section

variable (kept : OutboxKept config system)

include kept

theorem insert {gone} {more} (grown : ∀ event ∈ system.handed, event ∈ more)
    (own : gone.connected = true → PassKept config { system with handed := more } gone)
    (apart : gone.connected = true → ∀ other pass, other ≠ thread → system.passes.lookup other = some pass →
      pass.connected = true → Apart gone.locks pass.locks) :
    OutboxKept config { system with handed := more, passes := system.passes.insert thread gone } where
  added := fun id payload member => (kept.added id payload member).imp_right (grown _)
  stored := kept.stored
  published := fun id row found set => grown _ (kept.published id row found set)
  counted := kept.counted
  parked := kept.parked
  known := kept.known
  failures := kept.failures
  passes := by
    refine forall_insert (fun connected => (own connected).outlasts (own connected).held fun _ => id) ?_
    intro other pass before connected
    have pass_kept := kept.passes other pass before connected
    exact pass_kept.outlasts pass_kept.held grown
  apart := fun first second one other differ found listed connected both => by
    rcases of_lookup_insert found with ⟨rfl, rfl⟩ | ⟨away, before⟩
    · rcases of_lookup_insert listed with ⟨rfl, _⟩ | ⟨away, before⟩
      · exact absurd rfl differ
      · exact apart connected second other away before both
    · rcases of_lookup_insert listed with ⟨rfl, rfl⟩ | ⟨_, others⟩
      · exact (apart both first one away before connected).symm
      · exact kept.apart first second one other differ before others connected both

theorem drop (thread : Nat) : OutboxKept config (system.drop thread) where
  added := kept.added
  stored := kept.stored
  published := kept.published
  counted := kept.counted
  parked := kept.parked
  known := kept.known
  failures := kept.failures
  passes := fun other pass found connected =>
    have pass_kept := kept.passes other pass ((of_lookup_erase found).2) connected
    pass_kept.outlasts pass_kept.held fun _ => id
  apart := fun first second one other differ found listed =>
    kept.apart first second one other differ ((of_lookup_erase found).2) ((of_lookup_erase listed).2)

theorem disconnect :
    OutboxKept config { system with passes := system.passes.insert thread { pass with connected := false } } := by
  refine kept.insert (fun _ => id) (fun connected => ?_) fun connected => ?_
  · cases connected
  · cases connected

theorem add {payload} (now : Int) (fresh : id ∉ system.added.map (·.1)) : OutboxKept config { system with
      rows := system.rows.insert id { id, payload, createdAt := now, nextAttemptAt := now }
      added := system.added ++ [(id, payload)] } := by
  have absent : system.rows.lookup id = none := by
    cases found : system.rows.lookup id with
    | none => rfl
    | some row => exact absurd (mem_map_of_mem (f := Prod.fst) (kept.stored id row found).2) fresh
  have unfailed : failuresOf system.failures id = [] := by
    rw [failuresOf, filter_eq_nil_iff]
    intro failure member same
    exact fresh (of_decide_eq_true same ▸ kept.known failure member)
  have rows : ∀ {other : κ} {row : OutboxEventEntity κ π},
      (system.rows.insert id { id, payload, createdAt := now, nextAttemptAt := now }).lookup other = some row →
        other = id ∧ row = { id, payload, createdAt := now, nextAttemptAt := now } ∨ system.rows.lookup other = some row := by
    intro other row found
    exact (of_lookup_insert found).imp_right And.right
  refine ⟨fun other content member => ?_, fun other row found => ?_, fun other row found published => ?_,
    fun other row found => ?_, fun other row found parked => ?_, fun failure member => ?_, kept.failures,
    fun other pass found connected => ?_, kept.apart⟩
  · rcases mem_append.mp member with before | new
    · rcases kept.added other content before with ⟨row, found, same⟩ | given
      · have apart : other ≠ id := by
          rintro rfl
          cases absent.symm.trans found
        exact .inl ⟨row, (AList.lookup_insert_ne apart).trans found, same⟩
      · exact .inr given
    · cases mem_singleton.mp new
      exact .inl ⟨_, lookup_insert_self .., rfl⟩
  · rcases rows found with ⟨rfl, rfl⟩ | before
    · exact ⟨rfl, mem_append_right _ (.head _)⟩
    · exact ⟨(kept.stored other row before).1, mem_append_left _ (kept.stored other row before).2⟩
  · rcases rows found with ⟨rfl, rfl⟩ | before
    · exact absurd rfl published
    · exact kept.published other row before published
  · rcases rows found with ⟨rfl, rfl⟩ | before
    · exact (congrArg length unfailed).symm
    · exact kept.counted other row before
  · rcases rows found with ⟨rfl, rfl⟩ | before
    · exact absurd rfl parked
    · exact kept.parked other row before parked
  · rw [map_append]
    exact mem_append_left _ (kept.known failure member)
  · have pass_kept := kept.passes other pass found connected
    refine pass_kept.outlasts (fun key version locked => ?_) fun _ given => given
    have before := pass_kept.held key version locked
    have apart : key ≠ id := by
      rintro rfl
      obtain ⟨old, new, rfl, _⟩ := pass_kept.marked key version locked
      cases absent.symm.trans before
    exact (AList.lookup_insert_ne apart).trans before

theorem cleanup (old : OutboxEventEntity κ π → Bool) (published : ∀ row, old row = true → row.publishedAt ≠ none) :
    OutboxKept config { system with rows := system.rows.deleteWhere fun _ => old } := by
  have rows : ∀ {id : κ} {row : OutboxEventEntity κ π}, (system.rows.deleteWhere fun _ => old).lookup id = some row →
      system.rows.lookup id = some row := by
    intro id row found
    rw [lookup_deleteWhere] at found
    exact (Option.filter_eq_some_iff.mp found).1
  refine ⟨fun id payload member => ?_, fun id row found => kept.stored id row (rows found),
    fun id row found => kept.published id row (rows found), fun id row found => kept.counted id row (rows found),
    fun id row found => kept.parked id row (rows found), kept.known, kept.failures,
    fun other pass found connected => ?_, kept.apart⟩
  · rcases kept.added id payload member with ⟨row, found, same⟩ | given
    · by_cases gone : old row = true
      · exact .inr (same ▸ kept.published id row found (published row gone))
      · refine .inl ⟨row, ?_, same⟩
        rw [lookup_deleteWhere, found]
        simp [gone]
    · exact .inr given
  · have pass_kept := kept.passes other pass found connected
    refine pass_kept.outlasts (fun key version locked => ?_) fun _ given => given
    obtain ⟨before, new, rfl, _, unpublished, _⟩ := pass_kept.marked key version locked
    have stays : old before ≠ true := fun gone => published before gone unpublished
    rw [lookup_deleteWhere, pass_kept.held key _ locked]
    simp [stays]

end

end OutboxKept

theorem mem_claimable {now batch} (claimed : row ∈ system.claimable now batch) :
    row ∈ system.rows.rows ∧ row.due now = true ∧ system.locked row.id = false := by
  have sorted := mem_of_mem_take claimed
  rw [mem_mergeSort, mem_filter, Bool.and_eq_true, Bool.not_eq_true'] at sorted
  exact ⟨sorted.1, sorted.2⟩

theorem OutboxKept.lookup_row (kept : OutboxKept config system) (member : row ∈ system.rows.rows) :
    system.rows.lookup row.id = some row := by
  obtain ⟨⟨id, stored⟩, listed, rfl⟩ := mem_map.mp member
  have found : system.rows.lookup id = some stored := AList.mem_lookup_iff.mpr listed
  rw [(kept.stored id stored found).1]
  exact found

theorem OutboxKept.distinct (kept : OutboxKept config system) : (system.rows.rows.map (·.id)).Nodup := by
  have keys : system.rows.rows.map (·.id) = system.rows.entries.keys := by
    rw [rows, map_map, keys]
    apply map_congr_left
    intro entry member
    exact (kept.stored entry.1 entry.2 (AList.mem_lookup_iff.mpr member)).1
  rw [keys]
  exact system.rows.nodupKeys

theorem OutboxKept.distinct_claimable (kept : OutboxKept config system) (now : Int) (batch : Nat) :
    ((system.claimable now batch).map (·.id)).Nodup := by
  have filtered : ((system.rows.rows.filter fun row => row.due now && !system.locked row.id).map (·.id)).Nodup :=
    kept.distinct.sublist (filter_sublist.map _)
  have sorted := ((mergeSort_perm _ fun first second : OutboxEventEntity κ π =>
    first.createdAt ≤ second.createdAt).map (·.id)).nodup_iff.mpr filtered
  exact sorted.sublist ((take_sublist _ _).map _)

theorem lookup_claimed {rows : List (OutboxEventEntity κ π)} (distinct : (rows.map (·.id)).Nodup) {id} {version} :
    (claimed rows).locks.lookup id = some version ↔ ∃ row ∈ rows, row.id = id ∧ version = ⟨some row, some row⟩ := by
  have keys : (rows.map fun row => (⟨row.id, ⟨some row, some row⟩⟩ : Sigma fun _ : κ => Version (OutboxEventEntity κ π))).NodupKeys := by
    rw [NodupKeys, keys, map_map]
    exact distinct
  rw [claimed, AList.lookup_to_alist, ← Option.mem_def, mem_dlookup_iff keys, mem_map]
  constructor
  · rintro ⟨row, member, same⟩
    cases same
    exact ⟨row, member, rfl, rfl⟩
  · rintro ⟨row, member, rfl, rfl⟩
    exact ⟨row, member, rfl⟩

theorem OutboxKept.claim (kept : OutboxKept config system) (thread : Nat) (now : Int) (batch : Nat) :
    OutboxKept config { system with passes := system.passes.insert thread (.claimed (system.claimable now batch)) } := by
  have distinct := kept.distinct_claimable now batch
  have stored : ∀ row ∈ system.claimable now batch, system.rows.lookup row.id = some row :=
    fun row member => kept.lookup_row (mem_claimable member).1
  refine kept.insert (fun _ given => given) (fun _ => ?_) fun _ other pass _ running connected id => ?_
  · refine ⟨fun id version locked => ?_, fun row member => ⟨(lookup_claimed distinct).mpr ⟨row, member, rfl, rfl⟩, rfl⟩,
      distinct, fun id version locked => ?_, fun failure member => ?_⟩
    · obtain ⟨row, member, rfl, rfl⟩ := (lookup_claimed distinct).mp locked
      exact stored row member
    · obtain ⟨row, member, same, rfl⟩ := (lookup_claimed distinct).mp locked
      have due := (mem_claimable member).2.1
      simp only [OutboxEventEntity.due, Bool.and_eq_true, Option.isNone_iff_eq_none] at due
      exact ⟨row, row, rfl, same, due.1.1, due.1.2, .waiting rfl⟩
    · cases member
  · cases found : pass.locks.lookup id with
    | none => exact .inr rfl
    | some version =>
      left
      cases claimed : (claimed (system.claimable now batch)).locks.lookup id with
      | none => rfl
      | some other =>
        obtain ⟨row, member, rfl, _⟩ := (lookup_claimed distinct).mp claimed
        have free := (mem_claimable member).2.2
        rw [locked_of_lookup running connected found] at free
        cases free

theorem OutboxKept.publish (kept : OutboxKept config system) {rest}
    (running : system.passes.lookup thread = some pass) (next : pass.waiting = row :: rest)
    (answer : Except (List UInt16) Unit) (now : Int) :
    OutboxKept config (system.publish config thread pass row rest answer now) := by
  have others : ∀ (published : Nat) (failures : List (PublishFailure κ)) (new : OutboxEventEntity κ π), new.id = row.id →
      pass.connected = true → ∀ other pass', other ≠ thread → system.passes.lookup other = some pass' → pass'.connected = true →
        Apart (marked { pass with waiting := rest, published, failures } system.rows new).locks pass'.locks := by
    intro published failures new same connected other pass' away found both
    have apart := kept.apart thread other pass pass' (Ne.symm away) running found connected both
    have locked := ((kept.passes thread pass running connected).waiting row (next ▸ .head _)).1
    refine apart.write ?_ _
    rw [same]
    rcases apart row.id with none | none
    · cases locked.symm.trans none
    · exact none
  cases answer with
  | ok =>
    refine kept.insert (fun _ given => mem_append_left _ given) (fun connected => ?_) ?_
    · have mine := kept.passes thread pass running connected
      have marked := mine.mark { system with handed := system.handed ++ [(row.id, row.payload)] } (pass.published + 1) []
        next rfl (fun _ given => mem_append_left _ given) (by rintro _ ⟨⟩)
        (.published now rfl (mem_append_right _ (.head _)))
      rw [append_nil] at marked
      exact marked
    · exact fun connected => others _ _ _ rfl connected
  | error error =>
    refine kept.insert (fun _ given => given) (fun connected => ?_) ?_
    · have mine := kept.passes thread pass running connected
      let failed := row.markFailed error now config.maxAttempts
      let failure : PublishFailure κ :=
        ⟨row.id, failed.attempts, if failed.failedAt.isSome then none else some (failed.nextAttemptAt - now)⟩
      have alone : failuresOf [failure] row.id = [failure] := by
        rw [failuresOf, filter_singleton]
        simp [failure]
      refine mine.mark system pass.published [failure] next rfl (fun _ given => given) ?_
        (.failed error now failure alone markFailed_attempts ?_)
      · intro other member
        rw [mem_singleton.mp member]
      · intro delay given
        dsimp only [failure, failed] at given
        split at given
        · cases given
        · next unparked =>
          cases given
          rw [markFailed_delay unparked]
          exact congrArg (fun attempts => (backoffMs attempts : Int)) markFailed_attempts.symm
    · exact fun connected => others _ _ _ markFailed_id connected

namespace OutboxKept

variable {version : Version (OutboxEventEntity κ π)}

section

variable (kept : OutboxKept config system)
include kept

theorem committed (running : system.passes.lookup thread = some pass)
    (connected : pass.connected = true) (found : (apply pass.locks system.rows).lookup id = some new) :
    system.rows.lookup id = some new ∧ failuresOf pass.failures id = [] ∨
      ∃ old, system.rows.lookup id = some old ∧ old.id = id ∧ old.publishedAt = none ∧ old.failedAt = none ∧
        Marked config system.handed pass.failures old new := by
  have mine := kept.passes thread pass running connected
  rw [lookup_apply, seen] at found
  cases locked : pass.locks.lookup id with
  | none =>
    rw [locked] at found
    refine .inl ⟨found, filter_eq_nil_iff.mpr fun failure member same => ?_⟩
    exact mine.named failure member (of_decide_eq_true same ▸ locked)
  | some version =>
    rw [locked] at found
    obtain ⟨old, now, rfl, named, unpublished, unparked, marked⟩ := mine.marked id version locked
    cases found
    exact .inr ⟨old, mine.held id _ locked, named, unpublished, unparked, marked⟩

theorem next_failure (mine : PassKept config system pass) {failure}
    (member : failure ∈ pass.failures) : failuresOf pass.failures failure.id = [failure] ∧
      failure.attempt = (failuresOf system.failures failure.id).length + 1 ∧
        failure.id ∈ system.added.map (·.1) ∧ ∀ delay ∈ failure.delay, delay = backoffMs failure.attempt := by
  obtain ⟨version, locked⟩ := Option.ne_none_iff_exists'.mp (mine.named failure member)
  obtain ⟨old, new, rfl, named, _, _, marked⟩ := mine.marked _ version locked
  have stored := mine.held _ _ locked
  have own : failure ∈ failuresOf pass.failures old.id := mem_failuresOf.mpr ⟨member, named.symm⟩
  obtain ⟨once, numbered, delayed⟩ := marked.numbered own
  rw [named] at once
  rw [kept.counted _ old stored] at numbered
  exact ⟨once, numbered, mem_map_of_mem (f := Prod.fst) (kept.stored _ old stored).2, delayed⟩

theorem commit_failures (mine : PassKept config system pass) :
    FailuresKept (system.failures ++ pass.failures) := by
  refine ⟨fun failure member => ?_, pairwise_append.mpr ⟨kept.failures.increasing, ?_, ?_⟩, fun failure member => ?_⟩
  · rw [failuresOf_append, length_append]
    rcases mem_append.mp member with before | new
    · have bounded := kept.failures.bounded failure before
      omega
    · obtain ⟨once, numbered, _⟩ := kept.next_failure mine new
      rw [once, numbered]
      rfl
  · rw [pairwise_iff_forall_sublist]
    intro first second pair same
    have both : (failuresOf [first, second] first.id).Sublist (failuresOf pass.failures first.id) := pair.filter _
    have once := (kept.next_failure mine (pair.subset (.head _))).1
    rw [once, failuresOf, filter_cons_of_pos (by simp), filter_cons_of_pos (by simp [same])] at both
    have short := both.length_le
    simp at short
  · intro first before second new same
    have bounded := kept.failures.bounded first before
    obtain ⟨_, numbered, _⟩ := kept.next_failure mine new
    rw [numbered, ← same]
    omega
  · exact forall_mem_append.mpr ⟨kept.failures.delayed, fun _ new => (kept.next_failure mine new).2.2.2⟩ failure member

theorem commit (running : system.passes.lookup thread = some pass)
    (connected : pass.connected = true) : OutboxKept config { system.drop thread with
      rows := apply pass.locks system.rows
      failures := system.failures ++ pass.failures } := by
  have mine := kept.passes thread pass running connected
  have others := kept.drop thread
  refine ⟨fun id payload member => ?_, fun id row found => ?_, fun id row found published => ?_, fun id row found => ?_,
    fun id row found parked => ?_, fun failure member => ?_, kept.commit_failures mine, fun other pass' found both => ?_,
    others.apart⟩
  · refine (kept.added id payload member).imp_left ?_
    rintro ⟨row, found, same⟩
    cases locked : pass.locks.lookup id with
    | none => exact ⟨row, by rw [lookup_apply, seen, locked]; exact found, same⟩
    | some version =>
      obtain ⟨old, new, rfl, _, _, _, marked⟩ := mine.marked id version locked
      have stored := mine.held id _ locked
      refine ⟨new, by rw [lookup_apply, seen, locked], ?_⟩
      rw [marked.payload, ← same, Option.some.inj (found.symm.trans stored)]
  · rcases kept.committed running connected found with ⟨before, _⟩ | ⟨old, before, named, _, _, marked⟩
    · exact kept.stored id row before
    · obtain ⟨own, member⟩ := kept.stored id old before
      exact ⟨marked.same_id.trans own, marked.payload ▸ member⟩
  · rcases kept.committed running connected found with ⟨before, _⟩ | ⟨old, _, named, unpublished, _, marked⟩
    · exact kept.published id row before published
    · have given := marked.given unpublished published
      rw [named] at given
      exact marked.payload ▸ given
  · show row.attempts = (failuresOf (system.failures ++ pass.failures) id).length
    rw [failuresOf_append, length_append]
    rcases kept.committed running connected found with ⟨before, none⟩ | ⟨old, before, named, _, _, marked⟩
    · rw [none]
      exact kept.counted id row before
    · rw [marked.attempts, kept.counted id old before, named]
  · rcases kept.committed running connected found with ⟨before, _⟩ | ⟨old, _, _, _, unparked, marked⟩
    · exact kept.parked id row before parked
    · exact marked.parked unparked parked
  · rcases mem_append.mp member with before | new
    · exact kept.known failure before
    · exact (kept.next_failure mine new).2.2.1
  · have before := (of_lookup_erase found).2
    have away : thread ≠ other := by
      rintro rfl
      cases (AList.lookup_erase thread system.passes).symm.trans found
    have apart := kept.apart thread other pass pass' away running before connected both
    have theirs := kept.passes other pass' before both
    exact theirs.outlasts (theirs.held.apply apart) fun _ given => given

theorem step (input : RelayInput κ π) : OutboxKept config (relayStep config system input) := by
  cases input with
  | add id payload now =>
    rw [relayStep]
    split
    · exact kept
    · next fresh => exact kept.add now fresh
  | claim thread now =>
    rw [relayStep]
    split
    · exact kept
    · exact kept.claim thread now config.relayBatch
  | publish thread answer now =>
    rw [relayStep]
    split
    · exact kept
    · next pass running =>
      split
      · exact kept
      · next row rest next => exact kept.publish running next answer now
  | commit thread =>
    rw [relayStep]
    split
    · exact kept
    · next pass running =>
      split
      · exact kept
      · split
        · next connected => exact kept.commit running connected
        · exact kept.drop thread
  | crash thread => exact kept.drop thread
  | disconnect thread =>
    rw [relayStep]
    split
    · exact kept
    · exact kept.disconnect
  | cleanup now =>
    refine kept.cleanup _ fun row old none => ?_
    rw [none] at old
    cases old

end

theorem empty : OutboxKept config ({} : OutboxSystem κ π) := by
  have unlisted : ∀ failure : PublishFailure κ, failure ∉ ({} : OutboxSystem κ π).failures := fun _ => not_mem_nil
  refine ⟨?_, ?_, ?_, ?_, ?_, fun failure member => absurd member (unlisted failure),
    ⟨fun failure member => absurd member (unlisted failure), .nil, fun failure member => absurd member (unlisted failure)⟩,
    ?_, fun first second one other _ found => ?_⟩
  any_goals rintro _ _ ⟨⟩
  cases found

end OutboxKept

structure OutboxSystem.LosesNothing (config : EventsConfig) (system : OutboxSystem κ π) : Prop where
  stored : ∀ id payload, (id, payload) ∈ system.added →
    (∃ row, system.rows.lookup id = some row ∧ row.payload = payload ∧ row.publishedAt = none) ∨ (id, payload) ∈ system.handed
  published : ∀ id row, system.rows.lookup id = some row → row.publishedAt ≠ none → (id, row.payload) ∈ system.handed
  parked : ∀ id row, system.rows.lookup id = some row → row.failedAt ≠ none →
    config.maxAttempts ≤ (failuresOf system.failures id).length
  backsOff : system.failures.Pairwise fun earlier later => earlier.id = later.id →
    ∀ first ∈ earlier.delay, ∀ second ∈ later.delay, first ≤ second ∧ second ≤ (maxBackoffMs : Int)
  cleaned : ∀ now id row, system.rows.lookup id = some row →
    (relayStep config system (.cleanup now)).rows.lookup id = none → row.publishedAt ≠ none

/-- Whatever relays, crashes, publisher answers and cleanups follow one another, the outbox loses no event. -/
theorem outbox_loses_nothing (config : EventsConfig) (inputs : List (RelayInput κ π)) :
    (Run.after (relayStep config) {} inputs).LosesNothing config := by
  have kept := Run.invariant (OutboxKept config) (fun _ input kept => kept.step input) .empty inputs
  generalize Run.after (relayStep config) {} inputs = system at kept
  refine ⟨fun id payload member => ?_, kept.published, fun id row found parked => ?_, ?_, fun now id row found gone => ?_⟩
  · rcases kept.added id payload member with ⟨row, found, same⟩ | given
    · by_cases published : row.publishedAt = none
      · exact .inl ⟨row, found, same, published⟩
      · exact .inr (same ▸ kept.published id row found published)
    · exact .inr given
  · rw [← kept.counted id row found]
    exact kept.parked id row found parked
  · refine kept.failures.increasing.imp_of_mem fun {earlier later} first second numbered same one given two told => ?_
    rw [kept.failures.delayed earlier first one given, kept.failures.delayed later second two told]
    have slower := backoffMs_mono (Nat.le_of_lt (numbered same))
    have capped := backoffMs_le later.attempt
    omega
  · change (system.rows.deleteWhere _).lookup id = none at gone
    rw [lookup_deleteWhere, found] at gone
    intro unpublished
    have stays := Option.filter_eq_none_iff.mp gone row rfl
    rw [unpublished] at stays
    exact stays rfl

end Events
