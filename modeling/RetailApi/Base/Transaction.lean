import Mathlib.Algebra.Order.Ring.Int
import Mathlib.Data.List.Forall2

/-! Transactions as `Except` programs over an explicit state. A transaction that
fails has no result state, so its caller keeps the state it started from. -/

namespace Transaction

open List

universe u v
variable {ε : Type u} {α β σ : Type v}

/-- The row a statement must find. -/
def required (row : Option α) (failure : ε) : Except ε α :=
  match row with
  | some found => .ok found
  | none => .error failure

/-- A guard that aborts the transaction. -/
def ensure (condition : Prop) [Decidable condition] (failure : ε) : Except ε Unit :=
  if condition then .ok () else .error failure

/-- All-or-nothing commit: a failed transaction leaves the state as it was. -/
def commit (before : σ) (outcome : Except ε σ) : σ :=
  match outcome with
  | .ok after => after
  | .error _ => before

variable {failure cause : ε} {first : Except ε α} {next : α → Except ε β} {items : List α} {results : List β}

@[simp] theorem required_eq_ok {row} {found : α} : required row failure = .ok found ↔ row = some found := by
  cases row <;> simp [required]

@[simp] theorem ensure_eq_ok {condition} [Decidable condition] {passed} :
    ensure condition failure = .ok passed ↔ condition := by
  unfold ensure
  split <;> simp_all

@[simp] theorem bind_eq_ok {result} :
    (first >>= next) = .ok result ↔ ∃ value, first = .ok value ∧ next value = .ok result := by
  cases first <;> simp [bind, Except.bind]

@[simp] theorem pure_eq_ok {value result} :
    (pure value : Except ε α) = .ok result ↔ value = result := by
  simp [pure, Except.pure]

@[simp] theorem map_eq_ok {change} {result : β} :
    (change <$> first) = .ok result ↔ ∃ value, first = .ok value ∧ change value = result := by
  cases first <;> simp [Functor.map, Except.map]

/-- What each step of a transaction that went through came to. -/
theorem eq_ok :
    (∀ {α β ε : Type} {first : Except ε α} {next : α → Except ε β} {result},
      (first >>= next) = .ok result ↔ ∃ value, first = .ok value ∧ next value = .ok result) ∧
    (∀ {α ε : Type} {row : Option α} {failure : ε} {found}, required row failure = .ok found ↔ row = some found) ∧
    (∀ {ε : Type} {condition : Prop} [Decidable condition] {failure : ε} {passed},
      ensure condition failure = .ok passed ↔ condition) ∧
    (∀ {α β ε : Type} {first : Except ε α} {change : α → β} {result},
      (change <$> first) = .ok result ↔ ∃ value, first = .ok value ∧ change value = result) ∧
    ∀ {α ε : Type} {value result : α}, (pure value : Except ε α) = .ok result ↔ value = result :=
  ⟨bind_eq_ok, required_eq_ok, ensure_eq_ok, map_eq_ok, pure_eq_ok⟩

/-- A run on a fixed input, evaluated together with what is read off its result. -/
theorem evaluates (outcome : Except ε α) (property : α → Bool) (evaluated : outcome.toOption.any property = true) :
    ∃ value, outcome = .ok value ∧ property value = true := by
  cases outcome with
  | ok value => exact ⟨value, rfl, by simpa [Except.toOption] using evaluated⟩
  | error failure => simp [Except.toOption] at evaluated

theorem required_eq_error {row : Option α} : required row failure = .error cause ↔ row = none ∧ failure = cause := by
  cases row <;> simp [required]

theorem ensure_eq_error {condition} [Decidable condition] :
    ensure condition failure = .error cause ↔ ¬condition ∧ failure = cause := by
  unfold ensure
  split <;> simp_all

theorem bind_eq_error :
    (first >>= next) = .error cause ↔ first = .error cause ∨ ∃ value, first = .ok value ∧ next value = .error cause := by
  cases first <;> simp [bind, Except.bind]

theorem pure_ne_error {value} : (pure value : Except ε α) ≠ .error cause := nofun

theorem forall_concat {Holds : α → Prop} (each : ∀ item ∈ items, Holds item) {last} (added : Holds last) :
    ∀ item ∈ items ++ [last], Holds item :=
  forall_mem_append.mpr ⟨each, forall_mem_singleton.mpr added⟩

theorem sum_map_sub (items : List α) (first second : α → Int) :
    (items.map fun item => first item - second item).sum = (items.map first).sum - (items.map second).sum := by
  induction items with
  | nil => rfl
  | cons item items inner =>
    simp only [map_cons, sum_cons, inner]
    omega

theorem commit_preserves {before} {outcome : Except ε σ} (Holds : σ → Prop) (start : Holds before)
    (preserved : ∀ after, outcome = .ok after → Holds after) : Holds (commit before outcome) := by
  cases outcome with
  | ok after => exact preserved after rfl
  | error _ => exact start

section Loops

variable {step : σ → α → Except ε σ}

variable {before after : σ} {items : List α}

@[simp] theorem foldlM_nil : foldlM step before [] = .ok after ↔ before = after := by
  simp [foldlM]

@[simp] theorem foldlM_cons {item} : foldlM step before (item :: items) = .ok after ↔
      ∃ middle, step before item = .ok middle ∧ foldlM step middle items = .ok after := by
  simp [foldlM]

theorem foldlM_preserves (Holds : σ → Prop)
    (preserved : ∀ item ∈ items, ∀ before after, Holds before → step before item = .ok after → Holds after)
    (start : Holds before) (ran : foldlM step before items = .ok after) : Holds after := by
  induction items generalizing before with
  | nil =>
    rw [foldlM_nil] at ran
    exact ran ▸ start
  | cons item items inner =>
    obtain ⟨middle, stepped, rest⟩ := foldlM_cons.mp ran
    refine inner (fun other member => preserved other (.tail _ member)) ?_ rest
    exact preserved item (.head _) before middle start stepped

theorem foldlM_links (Link : List α → σ → Prop) (start : Link [] before)
    (extended : ∀ finished item rest middle next, items = finished ++ item :: rest → Link finished middle →
      step middle item = .ok next → Link (finished ++ [item]) next)
    (executed : foldlM step before items = .ok after) : Link items after := by
  have general : ∀ pending finished middle, items = finished ++ pending → Link finished middle →
      foldlM step middle pending = .ok after → Link items after := by
    intro pending
    induction pending with
    | nil =>
      intro finished middle whole linked done
      rw [foldlM_nil] at done
      rw [append_nil] at whole
      rwa [whole, ← done]
    | cons item pending inner =>
      intro finished middle whole linked ran
      obtain ⟨next, stepped, rest⟩ := foldlM_cons.mp ran
      refine inner (finished ++ [item]) next (by simpa using whole) ?_ rest
      exact extended finished item pending middle next whole linked stepped
  exact general items [] before rfl start executed

theorem foldlM_eq_error {cause} (failed : List.foldlM step before items = .error cause) :
    ∃ finished item rest middle, items = finished ++ item :: rest ∧ List.foldlM step before finished = .ok middle ∧
      step middle item = .error cause := by
  induction items generalizing before with
  | nil => exact absurd failed pure_ne_error
  | cons item items inner =>
    rcases bind_eq_error.mp failed with first | ⟨middle, stepped, later⟩
    · exact ⟨[], item, items, before, rfl, rfl, first⟩
    · obtain ⟨finished, other, rest, last, split, ran, broke⟩ := inner later
      exact ⟨item :: finished, other, rest, last, congrArg (item :: ·) split, foldlM_cons.mpr ⟨middle, stepped, ran⟩, broke⟩

end Loops

theorem mapM_eq_ok {change : α → Except ε β} :
    items.mapM change = .ok results ↔ Forall₂ (fun item result => change item = .ok result) items results := by
  induction items generalizing results with
  | nil => cases results <;> simp [forall₂_nil_left_iff]
  | cons item items inner =>
    simp only [mapM_cons, bind_eq_ok, pure_eq_ok]
    constructor
    · rintro ⟨result, first, rest, mapped, rfl⟩
      exact .cons first (inner.mp mapped)
    · rintro (_ | ⟨first, rest⟩)
      exact ⟨_, first, _, inner.mpr rest, rfl⟩

theorem forall₂_mem {γ δ : Type*} {R : γ → δ → Prop} {first second} (paired : Forall₂ R first second) {other}
    (member : other ∈ second) : ∃ item ∈ first, R item other := by
  induction paired with
  | nil => cases member
  | cons related _ inner =>
    rcases mem_cons.mp member with rfl | later
    · exact ⟨_, .head _, related⟩
    · obtain ⟨item, inside, found⟩ := inner later
      exact ⟨item, .tail _ inside, found⟩

theorem mapM_mem {change : α → Except ε β} (mapped : items.mapM change = .ok results) {result : β} (member : result ∈ results) :
    ∃ item ∈ items, change item = .ok result :=
  forall₂_mem (mapM_eq_ok.mp mapped) member

theorem mapM_made {change : α → Except ε β} (mapped : items.mapM change = .ok results) {item : α} (member : item ∈ items) :
    ∃ result ∈ results, change item = .ok result :=
  forall₂_mem (Forall₂.flip (mapM_eq_ok.mp mapped)) member

theorem mapM_map_eq {γ : Type*} {change : α → Except ε β} {before : α → γ} {after : β → γ}
    (kept : ∀ item result, change item = .ok result → after result = before item)
    (mapped : items.mapM change = .ok results) : results.map after = items.map before := by
  induction mapM_eq_ok.mp mapped with
  | nil => rfl
  | cons first _ inner =>
    rename_i rest
    rw [map_cons, map_cons, kept _ _ first, inner (mapM_eq_ok.mpr rest)]

end Transaction
