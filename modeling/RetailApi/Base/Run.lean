import Mathlib.Logic.Basic

/-! Runs of a state machine, and the invariants that hold along them. -/

namespace Run

open List

variable {σ ι : Type*} {step : σ → ι → σ}

/-- The state after a list of inputs. -/
def after (step : σ → ι → σ) (start : σ) (inputs : List ι) : σ :=
  inputs.foldl step start

theorem after_append (start : σ) (first second : List ι) :
    after step start (first ++ second) = after step (after step start first) second :=
  foldl_append

/-- Every input meets a condition in the state it arrives in. -/
def Meets (step : σ → ι → σ) (condition : σ → ι → Prop) : σ → List ι → Prop
  | _, [] => True
  | state, input :: inputs => condition state input ∧ Meets step condition (step state input) inputs

instance decidable {condition : σ → ι → Prop} [∀ state input, Decidable (condition state input)] :
    ∀ (state : σ) (inputs : List ι), Decidable (Meets step condition state inputs)
  | _, [] => isTrue trivial
  | state, input :: inputs => @instDecidableAnd _ _ _ (decidable (step state input) inputs)

variable {state start : σ} {inputs : List ι}

theorem Meets.imp {condition weaker} (implied : ∀ state input, condition state input → weaker state input)
    (met : Meets step condition state inputs) : Meets step weaker state inputs := by
  induction inputs generalizing state with
  | nil => trivial
  | cons input inputs inner => exact ⟨implied state input met.1, inner met.2⟩

theorem Meets.and {condition other} (first : Meets step condition state inputs)
    (second : Meets step other state inputs) :
    Meets step (fun state input => condition state input ∧ other state input) state inputs := by
  induction inputs generalizing state with
  | nil => trivial
  | cons input inputs inner => exact ⟨⟨first.1, second.1⟩, inner first.2 second.2⟩

theorem meets_iff_each {condition} : Meets step condition start inputs ↔
      ∀ earlier input later, inputs = earlier ++ input :: later → condition (after step start earlier) input := by
  induction inputs generalizing start with
  | nil => simp [Meets]
  | cons first inputs inner =>
    constructor
    · rintro ⟨now, met⟩ earlier input later split
      cases earlier with
      | nil =>
        cases split
        exact now
      | cons _ earlier =>
        cases split
        exact inner.mp met earlier input later rfl
    · intro each
      refine ⟨each [] first inputs rfl, inner.mpr ?_⟩
      intro earlier input later split
      exact each (first :: earlier) input later (by rw [split]; rfl)

theorem meets_append {condition} {first second} : Meets step condition start (first ++ second) ↔
      Meets step condition start first ∧ Meets step condition (after step start first) second := by
  induction first generalizing start with
  | nil => exact (iff_of_eq (true_and _)).symm
  | cons input first inner =>
    show condition start input ∧ Meets step condition (step start input) (first ++ second) ↔ _
    rw [inner, ← and_assoc]
    rfl

theorem invariant_of_meets {condition} (Holds : σ → Prop)
    (preserved : ∀ state input, condition state input → Holds state → Holds (step state input))
    (met : Meets step condition start inputs) (initially : Holds start) : Holds (after step start inputs) := by
  induction inputs generalizing start with
  | nil => exact initially
  | cons input inputs inner => exact inner met.2 (preserved start input met.1 initially)

theorem iff_meets {condition} {Holds Valid : σ → Prop}
    (preserved : ∀ state input, Valid state → Valid (step state input))
    (exactly : ∀ state input, Valid state → (Holds (step state input) ↔ Holds state ∧ condition state input))
    (valid : Valid start) (inputs : List ι) :
    Holds (after step start inputs) ↔ Holds start ∧ Meets step condition start inputs := by
  induction inputs generalizing start with
  | nil => exact (iff_of_eq (and_true _)).symm
  | cons input inputs inner =>
    have later := inner (preserved start input valid)
    have first := exactly start input valid
    unfold after at later ⊢
    rw [foldl_cons, later, first, and_assoc]
    rfl

theorem invariant (Holds : σ → Prop) (preserved : ∀ state input, Holds state → Holds (step state input))
    (initially : Holds start) (inputs : List ι) : Holds (after step start inputs) := by
  induction inputs generalizing start with
  | nil => exact initially
  | cons input inputs inner => exact inner (preserved start input initially)

theorem meets_of_inputs {condition : ι → Prop}
    (each : ∀ input ∈ inputs, condition input) : Meets step (fun _ input => condition input) start inputs := by
  induction inputs generalizing start with
  | nil => trivial
  | cons input inputs inner =>
    exact ⟨each input (.head _), inner fun other member => each other (.tail _ member)⟩

section FirstValue

variable {ρ : Type*} {value : ι → Option ρ} {start : σ} {Taken : ρ → σ → Prop}

/-- Inputs without a value change nothing, the first one with a value settles it, and no later input unsettles it. -/
structure Settles (step : σ → ι → σ) (value : ι → Option ρ) (start : σ) (Taken : ρ → σ → Prop) (inputs : List ι) : Prop where
  pass : ∀ input ∈ inputs, value input = none → step start input = start
  take : ∀ input ∈ inputs, ∀ result, value input = some result → Taken result (step start input)
  keep : ∀ input ∈ inputs, ∀ result state, Taken result state → Taken result (step state input)

variable {inputs : List ι}

theorem Settles.rest {first} (settles : Settles step value start Taken (first :: inputs)) :
    Settles step value start Taken inputs :=
  ⟨fun input member => settles.pass input (.tail _ member), fun input member => settles.take input (.tail _ member),
    fun input member => settles.keep input (.tail _ member)⟩

theorem Settles.kept (settles : Settles step value start Taken inputs) {result} {state}
    (taken : Taken result state) : Taken result (after step state inputs) := by
  induction inputs generalizing state with
  | nil => exact taken
  | cons input inputs inner => exact inner settles.rest (settles.keep input (.head _) result state taken)

theorem Settles.after (settles : Settles step value start Taken inputs) :
    (inputs.findSome? value = none → Run.after step start inputs = start) ∧
      ∀ result, inputs.findSome? value = some result → Taken result (Run.after step start inputs) := by
  induction inputs with
  | nil => exact ⟨fun _ => rfl, nofun⟩
  | cons input inputs inner =>
    rw [findSome?_cons]
    cases has : value input with
    | none =>
      have same := settles.pass input (.head _) has
      show (inputs.findSome? value = none → Run.after step (step start input) inputs = start) ∧
        ∀ result, inputs.findSome? value = some result → Taken result (Run.after step (step start input) inputs)
      rw [same]
      exact inner settles.rest
    | some first =>
      refine ⟨nofun, ?_⟩
      rintro _ ⟨⟩
      exact settles.rest.kept (settles.take input (.head _) first has)

/-- A list has each of some items, and no others, each any number of times. -/
def Covers (items inputs : List ι) : Prop := ∀ item, item ∈ inputs ↔ item ∈ items

theorem firstValue_free_iff {items} :
    (∀ first second, Covers items first → Covers items second → first.findSome? value = second.findSome? value) ↔
      ∀ one ∈ items, ∀ other ∈ items, ∀ result ∈ value one, ∀ different ∈ value other, result = different := by
  constructor
  · intro free one oneIn other otherIn result given different differs
    have cover : ∀ item ∈ items, Covers items (item :: items) := by
      intro item member wanted
      rw [mem_cons]
      exact ⟨fun listed => listed.elim (fun same => same ▸ member) id, .inr⟩
    have same := free _ _ (cover one oneIn) (cover other otherIn)
    rw [findSome?_cons, findSome?_cons, Option.mem_def.mp given, Option.mem_def.mp differs] at same
    exact Option.some.inj same
  · intro agree first second firstCovers secondCovers
    have found : ∀ {inputs result}, Covers items inputs → inputs.findSome? value = some result →
        ∃ item ∈ items, result ∈ value item := by
      intro inputs result covers found
      obtain ⟨item, member, given⟩ := exists_of_findSome?_eq_some found
      exact ⟨item, (covers item).mp member, given⟩
    have absent : ∀ {inputs others result}, Covers items inputs → Covers items others →
        inputs.findSome? value = none → others.findSome? value ≠ some result := by
      intro inputs others result covers other none some
      obtain ⟨item, member, given⟩ := found other some
      exact Option.some_ne_none _ ((Option.mem_def.mp given).symm.trans
        (findSome?_eq_none_iff.mp none item ((covers item).mpr member)))
    cases one : first.findSome? value with
    | none =>
      cases other : second.findSome? value with
      | none => rfl
      | some result => exact absurd other (absent firstCovers secondCovers one)
    | some result =>
      cases other : second.findSome? value with
      | none => exact absurd one (absent secondCovers firstCovers other)
      | some different =>
        obtain ⟨item, member, given⟩ := found firstCovers one
        obtain ⟨second, inside, differs⟩ := found secondCovers other
        rw [agree item member second inside result given different differs]

end FirstValue

end Run
