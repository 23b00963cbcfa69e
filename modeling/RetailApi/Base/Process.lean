import RetailApi.Base.Run

/-! Calls that run concurrently over shared state: programs of atomic actions that take turns in a pool, any of which may stop
between two actions. A program is proved safe against everything the others may do in between. -/

namespace Process

open MonadExcept

/-- Atomic actions, and the type of what each answers. -/
structure Signature where
  Action : Type
  Answer : Action → Type

variable {S : Signature} {α β : Type}

inductive Program (S : Signature) (α : Type) where
  | done (result : α)
  | perform (action : S.Action) (next : S.Answer action → Program S α)

namespace Program

def bind : Program S α → (α → Program S β) → Program S β
  | .done result, next => next result
  | .perform action rest, next => .perform action fun answer => (rest answer).bind next

instance : Monad (Program S) where
  pure := .done
  bind := bind

/-- The action a program performs next. -/
def action : Program S α → Option S.Action
  | .done _ => none
  | .perform action _ => some action

instance : LawfulMonad (Program S) := LawfulMonad.mk' (Program S)
  (fun program => by
    induction program with
    | done result => rfl
    | perform action next inner => exact congrArg (Program.perform action) (funext inner))
  (fun _ _ => rfl)
  (fun program first second => by
    induction program with
    | done result => rfl
    | perform action next inner => exact congrArg (Program.perform action) (funext inner))

/-- A program over one signature, its actions carried out as actions of another. -/
def embed {T : Signature} (into : S.Action → T.Action) (answer : ∀ action, T.Answer (into action) → S.Answer action) :
    Program S α → Program T α
  | .done result => .done result
  | .perform action next => .perform (into action) fun answered => (next (answer action answered)).embed into answer

end Program

/-- One action, and its answer. -/
def ask (action : S.Action) : Program S (S.Answer action) := .perform action .done

/-- A program that may fail. -/
abbrev Saga (S : Signature) (ε : Type) (α : Type) := ExceptT ε (Program S) α

/-- One action, whose answer is read as a success or a failure. -/
def attempt {ε : Type} (action : S.Action) (read : S.Answer action → Except ε α) : Saga S ε α :=
  ExceptT.mk (ask action >>= fun answer => .done (read answer))

/-- What the calls of a pool hold to: an invariant of the shared state, the changes they make to it, the
choices the surroundings make for an action, and the actions a call performs before any other takes a turn. -/
structure Discipline (S : Signature) (σ χ : Type) where
  perform : (action : S.Action) → χ → σ → σ × S.Answer action
  Holds : σ → Prop
  Later : σ → σ → Prop
  Urgent : S.Action → Prop
  Allowed : S.Action → χ → σ → Prop
  refl : ∀ state, Later state state
  trans : ∀ {first second third}, Later first second → Later second third → Later first third

variable {σ χ : Type} (D : Discipline S σ χ)

/-- From `base`, the last state in which the invariant held, a program that has reached `current` restores the
invariant before it lets the others on, and ends in `Post`. -/
def Safe (Post : σ → α → Prop) : Program S α → σ → σ → Prop
  | .done result, base, current =>
    D.Holds current ∧ D.Later base current ∧ ∀ now, D.Later current now → D.Holds now → Post now result
  | .perform action next, base, current =>
    D.Later base current ∧
    (D.Urgent action → ∀ choice, D.Allowed action choice current →
      Safe Post (next (D.perform action choice current).2) base (D.perform action choice current).1) ∧
    (¬D.Urgent action → D.Holds current ∧
      ∀ now choice, D.Later current now → D.Holds now → D.Allowed action choice now →
        Safe Post (next (D.perform action choice now).2) now (D.perform action choice now).1)

/-- The program is about to perform an urgent action. -/
def Program.Pressing (program : Program S α) : Prop := ∃ action, program.action = some action ∧ D.Urgent action

variable {D} {Post Mid : σ → α → Prop} {base current now : σ}

namespace Safe

variable {program : Program S α}

theorem rebase {earlier} (before : D.Later earlier base)
    (safe : Safe D Post program base current) : Safe D Post program earlier current := by
  induction program generalizing base current with
  | done result => exact ⟨safe.1, D.trans before safe.2.1, safe.2.2⟩
  | perform action next inner =>
    refine ⟨D.trans before safe.1, ?_, safe.2.2⟩
    intro urgent choice allowed
    exact inner _ before (safe.2.1 urgent choice allowed)

section

variable (safe : Safe D Post program base current)
include safe

theorem later (calm : ¬program.Pressing D)
    (moved : D.Later current now) (holds : D.Holds now) : Safe D Post program now now := by
  cases program with
  | done result =>
    refine ⟨holds, D.refl now, ?_⟩
    intro final after
    exact safe.2.2 final (D.trans moved after)
  | perform action next =>
    have notUrgent : ¬D.Urgent action := fun urgent => calm ⟨action, rfl, urgent⟩
    refine ⟨D.refl now, fun urgent => absurd urgent notUrgent, fun _ => ⟨holds, ?_⟩⟩
    intro final choice after
    exact (safe.2.2 notUrgent).2 final choice (D.trans moved after)

theorem moved : D.Later base current := by
  cases program with
  | done result => exact safe.2.1
  | perform action next => exact safe.1

theorem quiet (calm : ¬program.Pressing D) : D.Holds current := by
  cases program with
  | done result => exact safe.1
  | perform action next => exact (safe.2.2 fun urgent => calm ⟨action, rfl, urgent⟩).1

end

theorem bind {Post} {next : α → Program S β} (first : Safe D Mid program base current)
    (resume : ∀ value now, D.Holds now → D.Later base now → Mid now value → Safe D Post (next value) now now) :
    Safe D Post (program >>= next) base current := by
  induction program generalizing base current with
  | done result =>
    obtain ⟨holds, later, ended⟩ := first
    exact (resume result current holds later (ended current (D.refl current) holds)).rebase later
  | perform action rest inner =>
    obtain ⟨later, pressed, waiting⟩ := first
    refine ⟨later, ?_, ?_⟩
    · intro urgent choice allowed
      exact inner _ (pressed urgent choice allowed) resume
    · intro calm
      obtain ⟨holds, step⟩ := waiting calm
      refine ⟨holds, ?_⟩
      intro now choice moved kept allowed
      refine inner _ (step now choice moved kept allowed) ?_
      intro value final finalHolds after
      exact resume value final finalHolds (D.trans later (D.trans moved after))

theorem of_stable (calm : ∀ action, ¬D.Urgent action) (holds : D.Holds base)
    (acts : ∀ action choice now, D.Holds now → D.Allowed action choice now →
      D.Holds (D.perform action choice now).1 ∧ D.Later now (D.perform action choice now).1)
    (stable : ∀ now result, D.Later base now → Post now result) : Safe D Post program base base := by
  induction program generalizing base with
  | done result => exact ⟨holds, D.refl base, fun now later _ => stable now result later⟩
  | perform action next inner =>
    refine ⟨D.refl base, fun urgent => absurd urgent (calm action), fun _ => ⟨holds, ?_⟩⟩
    intro now choice later kept allowed
    obtain ⟨stays, moved⟩ := acts action choice now kept allowed
    refine rebase moved (inner _ stays ?_)
    intro final result after
    exact stable final result (D.trans later (D.trans moved after))

end Safe

section Sagas

variable {ε : Type}

/-- A saga safe from `base` in `current`; only its successful results are described. -/
def SafeSaga (D : Discipline S σ χ) (Post : σ → α → Prop) (saga : Saga S ε α) (base current : σ) : Prop :=
  Safe D (fun now result => ∀ value, result = Except.ok value → Post now value) saga.run base current

theorem SafeSaga.failed {failure} (holds : D.Holds current) (later : D.Later base current) :
    SafeSaga D Post (throw failure : Saga S ε α) base current :=
  ⟨holds, later, fun _ _ _ _ same => by cases same⟩

theorem SafeSaga.urgent {Post : σ → β → Prop} {action} {read : S.Answer action → Except ε α}
    {next : α → Saga S ε β} (urgent : D.Urgent action) (later : D.Later base current)
    (performed : ∀ choice, D.Allowed action choice current → match read (D.perform action choice current).2 with
      | .ok value => SafeSaga D Post (next value) base (D.perform action choice current).1
      | .error _ => D.Holds (D.perform action choice current).1 ∧ D.Later base (D.perform action choice current).1) :
    SafeSaga D Post (attempt action read >>= next) base current := by
  refine And.intro later ⟨?_, fun calm => absurd urgent calm⟩
  intro _ choice allowed
  have after := performed choice allowed
  show Safe D _ (ExceptT.bindCont next (read (D.perform action choice current).2)) base _
  split at after
  · next value answered =>
    rw [answered]
    exact after
  · next failure answered =>
    rw [answered]
    exact SafeSaga.failed after.1 after.2

/-- A saga is ready in a state when it is safe from there. -/
def Ready (D : Discipline S σ χ) (Post : σ → α → Prop) (saga : Saga S ε α) (state : σ) : Prop :=
  SafeSaga D Post saga state state

namespace Ready

theorem pure {value} (holds : D.Holds current)
    (ended : ∀ now, D.Later current now → D.Holds now → Post now value) :
    Ready D Post (pure value : Saga S ε α) current := by
  refine ⟨holds, D.refl current, ?_⟩
  intro now after kept result same
  cases same
  exact ended now after kept

theorem throw {failure} (holds : D.Holds current) :
    Ready D Post (throw failure : Saga S ε α) current :=
  ⟨holds, D.refl current, fun _ _ _ _ same => by cases same⟩

variable {saga : Saga S ε α} {next : α → Saga S ε β} {action : S.Action}

theorem bind {Post : σ → β → Prop} (first : Ready D Mid saga current)
    (resume : ∀ value now, D.Holds now → D.Later current now → Mid now value → Ready D Post (next value) now) :
    Ready D Post (saga >>= next) current := by
  refine Safe.bind first ?_
  intro result now holds later ended
  cases result with
  | ok value => exact resume value now holds later (ended value rfl)
  | error failure => exact ⟨holds, D.refl now, fun _ _ _ _ same => by cases same⟩

theorem tryCatch {handler : ε → Saga S ε α} (first : Ready D Post saga current)
    (handled : ∀ failure now, D.Holds now → D.Later current now → Ready D Post (handler failure) now)
    (stable : ∀ before after value, D.Later before after → D.Holds after → Post before value → Post after value) :
    Ready D Post (tryCatch saga handler) current := by
  refine Safe.bind first ?_
  intro result now holds later ended
  cases result with
  | ok value =>
    refine ⟨holds, D.refl now, ?_⟩
    intro final after kept result same
    cases same
    exact stable now final value after kept (ended value rfl)
  | error failure => exact handled failure now holds later

theorem attempt {read : S.Answer action → Except ε α} (calm : ¬D.Urgent action) (holds : D.Holds current)
    (performed : ∀ now choice, D.Later current now → D.Holds now → D.Allowed action choice now →
      D.Holds (D.perform action choice now).1 ∧ D.Later now (D.perform action choice now).1 ∧
      ∀ final value, D.Later (D.perform action choice now).1 final → D.Holds final →
        read (D.perform action choice now).2 = .ok value → Post final value) :
    Ready D Post (Process.attempt action read) current := by
  refine ⟨D.refl current, fun urgent => absurd urgent calm, fun _ => ⟨holds, ?_⟩⟩
  intro now choice after kept allowed
  obtain ⟨stays, later, ended⟩ := performed now choice after kept allowed
  refine ⟨stays, later, ?_⟩
  intro final moved finalHolds value same
  exact ended final value moved finalHolds same

theorem attempt_bind {Post : σ → β → Prop} {read : S.Answer action → Except ε α}
    (calm : ¬D.Urgent action) (holds : D.Holds current)
    (performed : ∀ now choice, D.Later current now → D.Holds now → D.Allowed action choice now →
      match read (D.perform action choice now).2 with
      | .ok value => SafeSaga D Post (next value) now (D.perform action choice now).1
      | .error _ => D.Holds (D.perform action choice now).1 ∧ D.Later now (D.perform action choice now).1) :
    Ready D Post (Process.attempt action read >>= next) current := by
  refine And.intro (D.refl current) ⟨fun urgent => absurd urgent calm, fun _ => ⟨holds, ?_⟩⟩
  intro now choice later kept allowed
  have after := performed now choice later kept allowed
  show Safe D _ (ExceptT.bindCont next (read (D.perform action choice now).2)) now _
  split at after
  · next value answered =>
    rw [answered]
    exact after
  · next failure answered =>
    rw [answered]
    exact SafeSaga.failed after.1 after.2

end Ready

/-- A saga that is safe wherever the invariant holds, whatever it returns. -/
def Steady (D : Discipline S σ χ) (saga : Saga S ε α) : Prop :=
  ∀ state, D.Holds state → Ready D (fun _ _ => True) saga state

namespace Steady

theorem pure (value : α) : Steady D (pure value : Saga S ε α) :=
  fun _ holds => Ready.pure holds fun _ _ _ => trivial

theorem throw (failure : ε) : Steady D (throw failure : Saga S ε α) := fun _ holds => Ready.throw holds

variable {saga : Saga S ε α} {next : α → Saga S ε β}

theorem bind (first : Steady D saga) (resume : ∀ value, Steady D (next value)) : Steady D (saga >>= next) :=
  fun state holds => (first state holds).bind fun value now kept _ _ => resume value now kept

theorem andThen {Post} (first : Steady D saga) (holds : D.Holds current)
    (resume : ∀ value now, D.Holds now → D.Later current now → Ready D Post (next value) now) :
    Ready D Post (saga >>= next) current :=
  (first current holds).bind fun value now kept later _ => resume value now kept later

theorem ite {condition} [Decidable condition] {first second : Saga S ε α} (yes : condition → Steady D first)
    (no : ¬condition → Steady D second) : Steady D (if condition then first else second) := by
  split
  · next true_ => exact yes true_
  · next false_ => exact no false_

theorem attempt {action} {read : S.Answer action → Except ε α} (calm : ¬D.Urgent action)
    (performed : ∀ now choice, D.Holds now → D.Allowed action choice now →
      D.Holds (D.perform action choice now).1 ∧ D.Later now (D.perform action choice now).1) :
    Steady D (Process.attempt action read) := by
  intro state holds
  refine Ready.attempt calm holds ?_
  intro now choice _ kept allowed
  obtain ⟨stays, later⟩ := performed now choice kept allowed
  exact ⟨stays, later, fun _ _ _ _ _ => trivial⟩

end Steady

end Sagas

structure Thread (S : Signature) (κ α : Type) where
  call : κ
  /-- `none` once the call has crashed. -/
  program : Option (Program S α)

structure Pool (S : Signature) (σ κ α : Type) where
  shared : σ
  threads : List (Thread S κ α) := []

inductive Input (κ χ η : Type) where
  | call (call : κ)
  | advance (thread : Nat) (choice : χ)
  | crash (thread : Nat)
  | environment (event : η)

/-- What calls run, what their actions do, and what else happens to the shared state. -/
structure Machine (S : Signature) (σ χ κ η α : Type) where
  program : κ → Program S α
  perform : (action : S.Action) → χ → σ → σ × S.Answer action
  environment : σ → η → σ

variable {κ η : Type}

/-- The program of a thread that has not crashed. -/
def Pool.running (pool : Pool S σ κ α) (thread : Nat) : Option (Program S α) :=
  pool.threads[thread]? |>.bind (·.program)

/-- The action a thread is about to perform. -/
def Pool.pending (pool : Pool S σ κ α) (thread : Nat) : Option S.Action := (pool.running thread).bind Program.action

def Machine.step (machine : Machine S σ χ κ η α) (pool : Pool S σ κ α) : Input κ χ η → Pool S σ κ α
  | .call call => { pool with threads := pool.threads ++ [⟨call, some (machine.program call)⟩] }
  | .advance thread choice =>
    match pool.threads[thread]? with
    | some ⟨call, some (.perform action next)⟩ =>
      let performed := machine.perform action choice pool.shared
      { shared := performed.1, threads := pool.threads.set thread ⟨call, some (next performed.2)⟩ }
    | _ => pool
  | .crash thread =>
    match pool.threads[thread]? with
    | some ⟨call, _⟩ => { pool with threads := pool.threads.set thread ⟨call, none⟩ }
    | none => pool
  | .environment event => { pool with shared := machine.environment pool.shared event }

theorem running_inside {pool : Pool S σ κ α} {thread program}
    (running : pool.running thread = some program) : thread < pool.threads.length := by
  obtain ⟨entry, found, _⟩ := Option.bind_eq_some_iff.mp running
  exact (List.getElem?_eq_some_iff.mp found).1

section Steps

variable {machine : Machine S σ χ κ η α} {pool : Pool S σ κ α}

open Machine

theorem running_call (call : κ) (thread : Nat) :
    (machine.step pool (.call call)).running thread =
      if thread = pool.threads.length then some (machine.program call) else pool.running thread := by
  simp only [step, Pool.running]
  rcases Nat.lt_trichotomy thread pool.threads.length with below | same | above
  · rw [if_neg (by omega), List.getElem?_append_left below]
  · subst same
    simp
  · rw [if_neg (by omega), List.getElem?_eq_none (by simp; omega), List.getElem?_eq_none (by omega)]

theorem step_advance (machine : Machine S σ χ κ η α) {thread} (choice : χ) {action} {next}
    (running : pool.running thread = some (.perform action next)) :
    (machine.step pool (.advance thread choice)).shared = (machine.perform action choice pool.shared).1 ∧
    ∀ other, (machine.step pool (.advance thread choice)).running other =
      if other = thread then some (next (machine.perform action choice pool.shared).2) else pool.running other := by
  obtain ⟨⟨call, program⟩, found, rfl⟩ := Option.bind_eq_some_iff.mp running
  have inside : thread < pool.threads.length := (List.getElem?_eq_some_iff.mp found).1
  simp only [step, found]
  refine ⟨trivial, fun other => ?_⟩
  unfold Pool.running
  by_cases same : other = thread
  · subst same
    simp [inside]
  · rw [if_neg same, List.getElem?_set_ne (Ne.symm same)]

theorem step_advance_idle {thread} {choice} (idle : pool.pending thread = none) :
    machine.step pool (.advance thread choice) = pool := by
  unfold Pool.pending Pool.running at idle
  simp only [step]
  split
  · next call action next found =>
    rw [found] at idle
    cases idle
  · rfl

theorem running_crash (thread other : Nat) :
    (machine.step pool (.crash thread)).running other = if other = thread then none else pool.running other := by
  simp only [step, Pool.running]
  split
  · next call program found =>
    by_cases same : other = thread
    · subst same
      have inside := (List.getElem?_eq_some_iff.mp found).1
      simp [inside]
    · rw [if_neg same, List.getElem?_set_ne (Ne.symm same)]
  · next missing =>
    split
    · next same => rw [same, missing]; rfl
    · rfl

@[simp] theorem step_crash_shared (thread : Nat) : (machine.step pool (.crash thread)).shared = pool.shared := by
  simp only [step]
  split <;> rfl

theorem spared {taken held} {own} [Decidable own] (clears : (!taken && (decide ¬own || !held)) = true) :
    taken = false ∧ (own → held = false) := by
  obtain ⟨untaken, through⟩ := Bool.and_eq_true_iff.mp clears
  exact ⟨by simpa using untaken, fun mine => by simpa [mine] using through⟩

theorem step_shared (Reached : σ → Prop) {input} (stays : Reached pool.shared)
    (acts : ∀ thread choice action, input = .advance thread choice → pool.pending thread = some action →
      Reached (machine.perform action choice pool.shared).1)
    (happens : ∀ event, input = .environment event → Reached (machine.environment pool.shared event)) :
    Reached (machine.step pool input).shared := by
  cases input with
  | call call => exact stays
  | crash thread =>
    rw [step_crash_shared]
    exact stays
  | environment event => exact happens event rfl
  | advance thread choice =>
    cases pending : pool.pending thread with
    | none =>
      rw [step_advance_idle pending]
      exact stays
    | some action =>
      obtain ⟨program, running, performs⟩ := Option.bind_eq_some_iff.mp pending
      cases program with
      | done => cases performs
      | perform action next =>
        cases performs
        rw [(step_advance machine choice running).1]
        exact acts thread choice action rfl pending

end Steps

section Kept

variable (D : Discipline S σ χ) (Post : Nat → σ → α → Prop)

/-- The inputs that leave the shared state to what a thread is about to do. -/
def Input.yieldsTo (thread : Nat) : Input κ χ η → Bool
  | .call _ => true
  | .advance other _ => other = thread
  | .crash other => other ≠ thread
  | .environment _ => false

/-- The inputs a discipline admits: nothing comes before an urgent action, and every action is performed under an
allowed choice. -/
structure Obeys (pool : Pool S σ κ α) (input : Input κ χ η) : Prop where
  urgent : ∀ thread action, pool.pending thread = some action → D.Urgent action → input.yieldsTo thread = true
  allowed : ∀ thread choice action, input = .advance thread choice → pool.pending thread = some action →
    D.Allowed action choice pool.shared

/-- Every call is safe: all of them from the present state, or all but a pressing one from the state before it. -/
inductive Kept (pool : Pool S σ κ α) : Prop where
  | quiet (holds : D.Holds pool.shared)
    (calls : ∀ thread program, pool.running thread = some program →
      ¬program.Pressing D ∧ Safe D (Post thread) program pool.shared pool.shared)
  | pressed (base : σ) (holds : D.Holds base) (first : Nat) (program : Program S α)
    (running : pool.running first = some program) (pressing : program.Pressing D)
    (safe : Safe D (Post first) program base pool.shared)
    (others : ∀ thread program, thread ≠ first → pool.running thread = some program →
      ¬program.Pressing D ∧ Safe D (Post thread) program base base)

variable {D Post} {machine : Machine S σ χ κ η α} {pool : Pool S σ κ α}

variable {thread : Nat} {program : Program S α}

theorem Kept.of_action {after : Pool S σ κ α} {base} (holds : D.Holds base)
    (running : after.running thread = some program) (safe : Safe D (Post thread) program base after.shared)
    (others : ∀ other program, other ≠ thread → after.running other = some program →
      ¬program.Pressing D ∧ Safe D (Post other) program base base) : Kept D Post after := by
  by_cases pressing : program.Pressing D
  · exact .pressed base holds thread program running pressing safe others
  · have kept := safe.quiet pressing
    refine .quiet kept ?_
    intro other otherProgram otherRunning
    by_cases same : other = thread
    · subst same
      cases running.symm.trans otherRunning
      exact ⟨pressing, safe.later pressing (D.refl _) kept⟩
    · obtain ⟨calm, otherSafe⟩ := others other otherProgram same otherRunning
      exact ⟨calm, otherSafe.later calm safe.moved kept⟩

section

variable (kept : Kept D Post pool)
include kept

theorem Kept.step {input} (same : machine.perform = D.perform)
    (environment : ∀ state event, D.Holds state →
      D.Holds (machine.environment state event) ∧ D.Later state (machine.environment state event))
    (starts : ∀ call, input = .call call → ∀ state, D.Holds state → ¬(machine.program call).Pressing D ∧
      Safe D (Post pool.threads.length) (machine.program call) state state)
    (obeys : Obeys D pool input) : Kept D Post (machine.step pool input) := by
  cases kept with
  | quiet holds calls =>
    cases input with
    | call call =>
      refine .quiet holds ?_
      intro thread program running
      rw [running_call] at running
      split at running
      · next last =>
        cases running
        rw [last]
        exact starts call rfl pool.shared holds
      · exact calls thread program running
    | advance thread choice =>
      cases pending : pool.pending thread with
      | none =>
        rw [step_advance_idle pending]
        exact .quiet holds calls
      | some action =>
        obtain ⟨program, running, acts⟩ := Option.bind_eq_some_iff.mp pending
        cases program with
        | done => cases acts
        | perform action next =>
          cases acts
          obtain ⟨calm, safe⟩ := calls thread _ running
          have allowed := obeys.allowed thread choice action rfl pending
          have stepped := (safe.2.2 fun urgent => calm ⟨action, rfl, urgent⟩).2 pool.shared choice (D.refl _) holds allowed
          obtain ⟨shared, rest⟩ := step_advance machine choice running
          refine .of_action holds (by rw [rest thread, if_pos rfl]) ?_ ?_
          · rw [shared, same]
            exact stepped
          · intro other otherProgram different otherRunning
            rw [rest other, if_neg different] at otherRunning
            exact calls other otherProgram otherRunning
    | crash thread =>
      refine .quiet (by rw [step_crash_shared]; exact holds) ?_
      intro other program running
      rw [running_crash] at running
      rw [step_crash_shared]
      split at running
      · cases running
      · exact calls other program running
    | environment event =>
      obtain ⟨stays, moved⟩ := environment pool.shared event holds
      refine .quiet stays ?_
      intro thread program running
      obtain ⟨calm, safe⟩ := calls thread program running
      exact ⟨calm, safe.later calm moved stays⟩
  | pressed base holds first program running pressing safe others =>
    obtain ⟨action, acts, urgent⟩ := pressing
    have pending : pool.pending first = some action := by rw [Pool.pending, running]; exact acts
    have yields := obeys.urgent first action pending urgent
    cases input with
    | call call =>
      have later : first ≠ pool.threads.length := by
        have := running_inside running
        omega
      refine .pressed base holds first program (by rw [running_call, if_neg later]; exact running)
        ⟨action, acts, urgent⟩ safe ?_
      intro thread other different otherRunning
      rw [running_call] at otherRunning
      split at otherRunning
      · next last =>
        cases otherRunning
        rw [last]
        exact starts call rfl base holds
      · exact others thread other different otherRunning
    | advance thread choice =>
      cases of_decide_eq_true yields
      cases program with
      | done => cases acts
      | perform action next =>
        cases acts
        have stepped := safe.2.1 urgent choice (obeys.allowed first choice action rfl pending)
        obtain ⟨shared, rest⟩ := step_advance machine choice running
        refine .of_action holds (by rw [rest first, if_pos rfl]) ?_ ?_
        · rw [shared, same]
          exact stepped
        · intro other otherProgram different otherRunning
          rw [rest other, if_neg different] at otherRunning
          exact others other otherProgram different otherRunning
    | crash thread =>
      have spared : first ≠ thread := Ne.symm (of_decide_eq_true yields)
      refine .pressed base holds first program (by rw [running_crash, if_neg spared]; exact running)
        ⟨action, acts, urgent⟩ (by rw [step_crash_shared]; exact safe) ?_
      intro other otherProgram different otherRunning
      rw [running_crash] at otherRunning
      split at otherRunning
      · cases otherRunning
      · exact others other otherProgram different otherRunning
    | environment event => cases yields

theorem Kept.holds (calm : ∀ action, ¬D.Urgent action) : D.Holds pool.shared := by
  cases kept with
  | quiet holds _ => exact holds
  | pressed _ _ _ _ _ pressing =>
    obtain ⟨action, _, urgent⟩ := pressing
    exact absurd urgent (calm action)

theorem Kept.safe (calm : ∀ action, ¬D.Urgent action)
    (running : pool.running thread = some program) : Safe D (Post thread) program pool.shared pool.shared := by
  cases kept with
  | quiet _ calls => exact (calls thread program running).2
  | pressed _ _ _ _ _ pressing =>
    obtain ⟨action, _, urgent⟩ := pressing
    exact absurd urgent (calm action)

theorem Kept.returned {result} (running : pool.running thread = some (.done result)) :
    ∃ base, D.Later base pool.shared ∧ Post thread base result := by
  cases kept with
  | quiet holds calls => exact ⟨pool.shared, D.refl _, (calls thread _ running).2.2.2 pool.shared (D.refl _) holds⟩
  | pressed base holds first program pressed pressing safe others =>
    have different : thread ≠ first := by
      rintro rfl
      obtain ⟨action, acts, _⟩ := pressing
      cases running.symm.trans pressed
      cases acts
    exact ⟨base, safe.moved, (others thread _ different running).2.2.2 base (D.refl _) holds⟩

end

end Kept

section Tracked

variable (D : Discipline S σ χ) (Post : σ → α → Prop)

/-- A call of the pool that is safe from the present state, or has crashed. -/
structure Tracked (thread : Nat) (pool : Pool S σ κ α) : Prop where
  called : thread < pool.threads.length
  safe : ∀ program, pool.running thread = some program → Safe D Post program pool.shared pool.shared

variable {D Post} {machine : Machine S σ χ κ η α} {pool : Pool S σ κ α} {thread : Nat}

theorem threads_length_le (machine : Machine S σ χ κ η α) (pool : Pool S σ κ α) (input : Input κ χ η) :
    pool.threads.length ≤ (machine.step pool input).threads.length := by
  cases input with
  | call call => simp [Machine.step]
  | advance thread choice =>
    simp only [Machine.step]
    split <;> simp
  | crash thread =>
    simp only [Machine.step]
    split <;> simp
  | environment event => exact Nat.le_refl _

theorem Tracked.step {input} (tracked : Tracked D Post thread pool) (same : machine.perform = D.perform)
    (calm : ∀ action, ¬D.Urgent action) (before : D.Holds pool.shared)
    (own : ∀ choice action, input = .advance thread choice → pool.pending thread = some action →
      D.Allowed action choice pool.shared)
    (after : D.Holds (machine.step pool input).shared) (moved : D.Later pool.shared (machine.step pool input).shared) :
    Tracked D Post thread (machine.step pool input) := by
  refine ⟨Nat.lt_of_lt_of_le tracked.called (threads_length_le machine pool input), ?_⟩
  have quiet : ∀ program : Program S α, ¬program.Pressing D := by
    rintro program ⟨action, _, urgent⟩
    exact calm action urgent
  -- Whatever the input was, the call runs on as it was, unless it was the call's own turn.
  have waits : ∀ program, pool.running thread = some program →
      Safe D Post program (machine.step pool input).shared (machine.step pool input).shared :=
    fun program running => (tracked.safe program running).later (quiet program) moved after
  intro program running
  cases input with
  | call call =>
    rw [running_call, if_neg (by have := tracked.called; omega)] at running
    exact waits program running
  | crash other =>
    rw [running_crash] at running
    split at running
    · cases running
    · exact waits program running
  | environment event => exact waits program running
  | advance other choice =>
    cases pending : pool.pending other with
    | none =>
      rw [step_advance_idle pending] at running ⊢
      exact tracked.safe program running
    | some action =>
      obtain ⟨performing, otherRunning, acts⟩ := Option.bind_eq_some_iff.mp pending
      cases performing with
      | done => cases acts
      | perform action next =>
        cases acts
        obtain ⟨shared, rest⟩ := step_advance machine choice otherRunning
        rw [rest thread] at running
        split at running
        · next mine =>
          subst mine
          cases running
          have stepped := ((tracked.safe _ otherRunning).2.2 (calm action)).2 pool.shared choice (D.refl _) before
            (own choice action rfl pending)
          rw [← same, ← shared] at stepped
          exact stepped.later (quiet _) (D.refl _) after
        · exact waits program running

theorem Tracked.of_action {condition} {action}
    {next : S.Answer action → Program S α} {choice} {during} (running : pool.running thread = some (.perform action next))
    (safe : Safe D Post (next (machine.perform action choice pool.shared).2)
      (machine.perform action choice pool.shared).1 (machine.perform action choice pool.shared).1)
    (keeps : ∀ pool input, condition pool input → Tracked D Post thread pool → Tracked D Post thread (machine.step pool input))
    (met : Run.Meets machine.step condition (machine.step pool (.advance thread choice)) during) :
    Tracked D Post thread (Run.after machine.step pool (.advance thread choice :: during)) := by
  have start : Tracked D Post thread (machine.step pool (.advance thread choice)) := by
    obtain ⟨shared, rest⟩ := step_advance machine choice running
    refine ⟨Nat.lt_of_lt_of_le (running_inside running) (threads_length_le _ _ _), ?_⟩
    intro program continues
    rw [rest thread, if_pos rfl] at continues
    cases continues
    rw [shared]
    exact safe
  have kept := Run.invariant_of_meets (Tracked D Post thread) keeps met start
  exact kept

theorem Tracked.returned {result} (tracked : Tracked D Post thread pool) (holds : D.Holds pool.shared)
    (running : pool.running thread = some (.done result)) : Post pool.shared result :=
  (tracked.safe _ running).2.2 pool.shared (D.refl _) holds

end Tracked

end Process
