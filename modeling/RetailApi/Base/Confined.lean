import RetailApi.Base.Process

/-! What calls can still do. A program that uses actions of one kind only, whatever likely
answers it gets, keeps to them in every pool whose shared state gives no other answers. -/

namespace Process

open Program

variable {S : Signature} {α β ε : Type}

/-- As long as the answers it gets are likely, a program performs actions of one kind only. -/
def Program.Uses (likely : (action : S.Action) → S.Answer action → Prop) (kind : S.Action → Prop) : Program S α → Prop
  | .done _ => True
  | .perform action next => kind action ∧ ∀ answer, likely action answer → (next answer).Uses likely kind

variable {likely surer : (action : S.Action) → S.Answer action → Prop} {kind wider : S.Action → Prop}

namespace Program.Uses

variable {program : Program S α}

theorem bind {next : α → Program S β} (first : program.Uses likely kind)
    (resume : ∀ value, (next value).Uses likely kind) : (program >>= next).Uses likely kind := by
  induction program with
  | done result => exact resume result
  | perform action rest inner => exact ⟨first.1, fun answer expected => inner answer (first.2 answer expected)⟩

theorem mono (uses : program.Uses likely kind) (wide : ∀ action, kind action → wider action)
    (narrow : ∀ action answer, surer action answer → likely action answer) : program.Uses surer wider := by
  induction program with
  | done result => trivial
  | perform action rest inner =>
    refine ⟨wide action uses.1, fun answer expected => ?_⟩
    exact inner answer (uses.2 answer (narrow action answer expected))

theorem of_idle (idle : program.action = none) : program.Uses likely kind := by
  cases program with
  | done result => trivial
  | perform action next => cases idle

end Program.Uses

/-- The same of a saga. -/
def SagaUses (likely : (action : S.Action) → S.Answer action → Prop) (kind : S.Action → Prop) (saga : Saga S ε α) : Prop :=
  saga.run.Uses likely kind

namespace SagaUses

theorem pure (value : α) : SagaUses likely kind (pure value : Saga S ε α) := trivial

theorem throw (failure : ε) : SagaUses likely kind (MonadExcept.throw failure : Saga S ε α) := trivial

theorem attempt {action} {read : S.Answer action → Except ε α} (allowed : kind action) :
    SagaUses likely kind (Process.attempt action read) := ⟨allowed, fun _ _ => trivial⟩

variable {saga : Saga S ε α} {next : α → Saga S ε β}

theorem bind (first : SagaUses likely kind saga)
    (resume : ∀ value, SagaUses likely kind (next value)) : SagaUses likely kind (saga >>= next) := by
  refine Uses.bind first fun result => ?_
  cases result with
  | ok value => exact resume value
  | error failure => trivial

theorem attempt_bind {action} {read} (allowed : kind action)
    (resume : ∀ answer value, likely action answer → read answer = .ok value → SagaUses likely kind (next value)) :
    SagaUses likely kind (Process.attempt action read >>= next) := by
  refine ⟨allowed, fun answer expected => ?_⟩
  show Uses likely kind (ExceptT.bindCont next (read answer))
  cases answered : read answer with
  | ok value => exact resume answer value expected answered
  | error failure => trivial

theorem tryCatch {handler : ε → Saga S ε α} (first : SagaUses likely kind saga)
    (handled : ∀ failure, SagaUses likely kind (handler failure)) : SagaUses likely kind (MonadExcept.tryCatch saga handler) := by
  refine Uses.bind first fun result => ?_
  cases result with
  | ok value => trivial
  | error failure => exact handled failure

theorem forM {items : List α} {body : α → Saga S ε PUnit} (each : ∀ item, SagaUses likely kind (body item)) :
    SagaUses likely kind (items.forM body) := by
  induction items with
  | nil => trivial
  | cons item items inner => exact (each item).bind fun _ => inner

theorem map (wrap : α → β) (uses : SagaUses likely kind saga) : SagaUses likely kind (wrap <$> saga) := by
  rw [map_eq_pure_bind]
  exact uses.bind fun value => .pure (wrap value)

theorem mono (uses : SagaUses likely kind saga) (wide : ∀ action, kind action → wider action)
    (narrow : ∀ action answer, surer action answer → likely action answer) : SagaUses surer wider saga :=
  Uses.mono uses wide narrow

end SagaUses

section Steady

variable {σ χ : Type} {D : Discipline S σ χ}

theorem Program.Uses.safe {program} (uses : program.Uses (fun _ _ => True) kind)
    (steady : ∀ action, kind action → ¬D.Urgent action ∧ ∀ now choice, D.Holds now → D.Allowed action choice now →
      D.Holds (D.perform action choice now).1 ∧ D.Later now (D.perform action choice now).1)
    {Post : σ → α → Prop} (ends : ∀ now value, Post now value) {base current} (holds : D.Holds current)
    (later : D.Later base current) : Safe D Post program base current := by
  induction program generalizing base current with
  | done result => exact ⟨holds, later, fun now _ _ => ends now result⟩
  | perform action next inner =>
    obtain ⟨calm, keeps⟩ := steady action uses.1
    refine ⟨later, fun urgent => absurd urgent calm, fun _ => ⟨holds, fun now choice _ kept allowed => ?_⟩⟩
    obtain ⟨stays, moved⟩ := keeps now choice kept allowed
    exact inner _ (uses.2 _ trivial) stays moved

/-- A saga of actions that each keep the invariant keeps it. -/
theorem Steady.of_uses {saga : Saga S ε α} (uses : SagaUses (fun _ _ => True) kind saga)
    (steady : ∀ action, kind action → ¬D.Urgent action ∧ ∀ now choice, D.Holds now → D.Allowed action choice now →
      D.Holds (D.perform action choice now).1 ∧ D.Later now (D.perform action choice now).1) : Steady D saga :=
  fun state holds => Uses.safe uses steady (fun _ _ _ _ => trivial) holds (D.refl state)

end Steady

section Pools

variable {σ χ κ η : Type}

/-- The calls of a pool keep to actions of one kind, and the shared state to what makes the answers likely. -/
structure Confined (Holds : σ → Prop) (likely : (action : S.Action) → S.Answer action → Prop) (kind : S.Action → Prop)
    (pool : Pool S σ κ α) : Prop where
  holds : Holds pool.shared
  calls : ∀ thread program, pool.running thread = some program → program.Uses likely kind

variable {Holds : σ → Prop} {machine : Machine S σ χ κ η α} {pool : Pool S σ κ α}

theorem Confined.step {input} (confined : Confined Holds likely kind pool)
    (acts : ∀ action choice state, kind action → Holds state →
      Holds (machine.perform action choice state).1 ∧ likely action (machine.perform action choice state).2)
    (happens : ∀ state event, Holds state → Holds (machine.environment state event))
    (starts : ∀ call, (machine.program call).Uses likely kind) : Confined Holds likely kind (machine.step pool input) := by
  cases input with
  | call call =>
    refine ⟨confined.holds, fun thread program running => ?_⟩
    rw [running_call] at running
    split at running
    · cases running
      exact starts call
    · exact confined.calls thread program running
  | crash thread =>
    refine ⟨by rw [step_crash_shared]; exact confined.holds, fun other program running => ?_⟩
    rw [running_crash] at running
    split at running
    · cases running
    · exact confined.calls other program running
  | environment event => exact ⟨happens pool.shared event confined.holds, confined.calls⟩
  | advance thread choice =>
    cases pending : pool.pending thread with
    | none =>
      rw [step_advance_idle pending]
      exact confined
    | some action =>
      obtain ⟨program, running, performs⟩ := Option.bind_eq_some_iff.mp pending
      cases program with
      | done => cases performs
      | perform action next =>
        cases performs
        obtain ⟨allowed, rest⟩ := confined.calls thread _ running
        obtain ⟨stays, expected⟩ := acts action choice pool.shared allowed confined.holds
        obtain ⟨shared, threads⟩ := step_advance machine choice running
        refine ⟨by rw [shared]; exact stays, fun other program continues => ?_⟩
        rw [threads other] at continues
        split at continues
        · cases continues
          exact rest _ expected
        · exact confined.calls other program continues

end Pools

end Process
