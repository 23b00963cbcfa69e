import Mathlib.Data.List.Induction
import Mathlib.Data.List.Nodup

/-! At-least-once delivery. A consumer files the name of every event it handles, in the transaction
of the handler, and skips an event whose name is on file. -/

namespace Inbox

open List

variable {σ ε κ : Type*} [DecidableEq κ]

/-- A consumer with the names of the events it has handled. -/
structure Consumer (σ κ : Type*) where
  state : σ
  handled : List κ := []

def deliver (name : ε → κ) (handle : σ → ε → σ) (consumer : Consumer σ κ) (event : ε) : Consumer σ κ :=
  if name event ∈ consumer.handled then consumer
  else ⟨handle consumer.state event, consumer.handled ++ [name event]⟩

/-- The state of a new consumer after a list of deliveries. -/
def delivered (name : ε → κ) (handle : σ → ε → σ) (start : σ) (events : List ε) : σ :=
  (events.foldl (deliver name handle) { state := start }).state

/-- A list that delivers a set of events: each at least once, in any order, and nothing else. -/
def Delivers (deliveries events : List ε) : Prop := ∀ event, event ∈ deliveries ↔ event ∈ events

section Deliveries

variable (name : ε → κ) (handle : σ → ε → σ)

theorem delivered_once (start : σ) (events : List ε) :
    ∃ once : List ε, (once.map name).Nodup ∧ (∀ event ∈ once, event ∈ events) ∧
      (∀ event ∈ events, name event ∈ once.map name) ∧ delivered name handle start events = once.foldl handle start := by
  have general : ∃ once : List ε, (once.map name).Nodup ∧ (∀ event ∈ once, event ∈ events) ∧
      (∀ event ∈ events, name event ∈ once.map name) ∧
      events.foldl (deliver name handle) { state := start } = ⟨once.foldl handle start, once.map name⟩ := by
    induction events using reverseRecOn with
    | nil => exact ⟨[], by simp⟩
    | append_singleton events event inner =>
      obtain ⟨once, distinct, drawn, complete, reached⟩ := inner
      rw [foldl_append, reached, foldl_cons, foldl_nil]
      by_cases filed : name event ∈ once.map name
      · refine ⟨once, distinct, fun other member => by simp [drawn other member],
          forall_mem_append.mpr ⟨complete, forall_mem_singleton.mpr filed⟩, if_pos filed⟩
      · refine ⟨once ++ [event], ?_, fun other member => ?_, fun other member => ?_, ?_⟩
        · rw [map_append, nodup_append]
          refine ⟨distinct, nodup_singleton _, fun first listed second single same => ?_⟩
          rw [mem_singleton.mp single] at same
          exact filed (same ▸ listed)
        · rcases mem_append.mp member with earlier | last
          · simp [drawn other earlier]
          · simp [mem_singleton.mp last]
        · rw [map_append, mem_append]
          rcases mem_append.mp member with earlier | last
          · exact .inl (complete other earlier)
          · exact .inr (by simp [mem_singleton.mp last])
        · rw [deliver, if_neg filed, foldl_append, map_append]
          rfl
  obtain ⟨once, distinct, drawn, complete, reached⟩ := general
  exact ⟨once, distinct, drawn, complete, by rw [delivered, reached]⟩

variable {events deliveries before : List ε} {start : σ} {event : ε}

theorem delivered_of_nodup (distinct : (events.map name).Nodup) (start : σ) :
    delivered name handle start events = events.foldl handle start := by
  have general : events.foldl (deliver name handle) { state := start } = ⟨events.foldl handle start, events.map name⟩ := by
    induction events using reverseRecOn with
    | nil => rfl
    | append_singleton events event inner =>
      rw [map_append, nodup_append] at distinct
      have fresh : name event ∉ events.map name := fun filed => distinct.2.2 _ filed _ (by simp) rfl
      rw [foldl_append, inner distinct.1, foldl_cons, foldl_nil, deliver, if_neg fresh, foldl_append,
        map_append]
      rfl
  rw [delivered, general]

/-- Where the names of a set of events are distinct, every delivery of it handles each event once: the events are handled
in some order of the whole set. -/
theorem delivered_perm (distinct : (events.map name).Nodup) (delivers : Delivers deliveries events)
    (start : σ) : ∃ order : List ε, order.Perm events ∧ delivered name handle start deliveries = order.foldl handle start := by
  obtain ⟨once, single, drawn, complete, reached⟩ := delivered_once name handle start deliveries
  refine ⟨once, ?_, reached⟩
  refine (perm_ext_iff_of_nodup (Nodup.of_map _ single) (Nodup.of_map _ distinct)).mpr fun event => ?_
  refine ⟨fun member => (delivers event).mp (drawn event member), fun member => ?_⟩
  obtain ⟨other, listed, same⟩ := mem_map.mp (complete event ((delivers event).mpr member))
  have inside : other ∈ events := (delivers other).mp (drawn other listed)
  rw [← inj_on_of_nodup_map distinct inside member same]
  exact listed

variable {name handle}

theorem mem_of_handled {filed}
    (handled : filed ∈ (events.foldl (deliver name handle) { state := start }).handled) : filed ∈ events.map name := by
  induction events using reverseRecOn with
  | nil => cases handled
  | append_singleton events event inner =>
    rw [map_append, mem_append]
    rw [foldl_append, foldl_cons, foldl_nil, deliver] at handled
    split at handled
    · exact .inl (inner handled)
    · rcases mem_append.mp handled with earlier | last
      · exact .inl (inner earlier)
      · exact .inr last

theorem deliver_preserves (Holds : σ → Prop)
    (kept : ∀ event ∈ events, ∀ state, Holds state → Holds (handle state event)) {consumer}
    (start : Holds consumer.state) : Holds (events.foldl (deliver name handle) consumer).state := by
  induction events generalizing consumer with
  | nil => exact start
  | cons event events inner =>
    apply inner fun other member => kept other (.tail _ member)
    rw [deliver]
    split
    · exact start
    · exact kept event (.head _) consumer.state start

theorem delivered_from (Holds : σ → Prop) {after} (fresh : name event ∉ before.map name)
    (first : Holds (handle (delivered name handle start before) event))
    (kept : ∀ other ∈ after, ∀ state, Holds state → Holds (handle state other)) :
    Holds (delivered name handle start (before ++ event :: after)) := by
  rw [delivered, foldl_append, foldl_cons]
  refine deliver_preserves Holds kept ?_
  rw [deliver, if_neg fun handled => fresh (mem_of_handled handled)]
  exact first

theorem delivered_last (fresh : name event ∉ before.map name) :
    delivered name handle start (before ++ [event]) = handle (delivered name handle start before) event := by
  rw [delivered, foldl_append, foldl_cons, foldl_nil, deliver, if_neg fun handled => fresh (mem_of_handled handled)]
  rfl

/-- An event with a name of its own brings something about wherever it comes among the deliveries, if what it needs is kept
before it and what it brings about is kept after it. -/
theorem delivered_reaches (Holds Before : σ → Prop)
    (distinct : (events.map name).Nodup) (drawn : ∀ other ∈ deliveries, other ∈ events) (member : event ∈ deliveries)
    (begins : Before start) (before : ∀ other ∈ events, ∀ state, Before state → Before (handle state other))
    (first : ∀ state, Before state → Holds (handle state event))
    (kept : ∀ other ∈ events, ∀ state, Holds state → Holds (handle state other)) :
    Holds (delivered name handle start deliveries) := by
  obtain ⟨earlier, later, rfl, absent⟩ := eq_append_cons_of_mem member
  have fresh : name event ∉ earlier.map name := by
    intro filed
    obtain ⟨other, listed, same⟩ := mem_map.mp filed
    have twice := inj_on_of_nodup_map distinct (drawn other (mem_append_left _ listed)) (drawn event member) same
    exact absent (twice ▸ listed)
  refine delivered_from Holds fresh (first _ ?_) fun other listed => kept other (drawn other ?_)
  · exact deliver_preserves Before (fun other listed => before other (drawn other (mem_append_left _ listed))) begins
  · exact mem_append_right _ (.tail _ listed)

section Last

variable [DecidableEq ε]

/-- The delivery of a set of events in which one of them comes last. -/
def lastly (events : List ε) (event : ε) : List ε := events.filter (· ≠ event) ++ [event]

theorem delivers_lastly {events} {event : ε} (member : event ∈ events) : Delivers (lastly events event) events := by
  intro other
  rw [lastly, mem_append, mem_filter, mem_singleton, decide_eq_true_iff]
  constructor
  · rintro (⟨listed, -⟩ | rfl)
    · exact listed
    · exact member
  · intro listed
    by_cases same : other = event
    · exact .inr same
    · exact .inl ⟨listed, same⟩

theorem delivered_lastly {start} {events} {event} (distinct : (events.map name).Nodup) (member : event ∈ events) :
    delivered name handle start (lastly events event) =
      handle (delivered name handle start (events.filter (· ≠ event))) event := by
  refine delivered_last fun filed => ?_
  obtain ⟨other, listed, same⟩ := mem_map.mp filed
  obtain ⟨inside, apart⟩ := mem_filter.mp listed
  exact of_decide_eq_true apart (inj_on_of_nodup_map distinct inside member same)

end Last

end Deliveries

end Inbox
