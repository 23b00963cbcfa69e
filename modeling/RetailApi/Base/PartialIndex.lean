import RetailApi.Base.RowLocks

/-! A unique partial index under read committed: at most one row that it covers, in what is committed and in what each open
transaction sees. A transaction that brings a row under the index waits for every other that has one pending. -/

namespace RowLocks

open Option

variable {κ ρ ι : Type*} {covers : ρ → Bool}

/-- No two rows of a view are covered. -/
def Single (covers : ρ → Bool) (view : κ → Option ρ) : Prop :=
  ∀ key other row otherRow, view key = some row → view other = some otherRow → covers row = true →
    covers otherRow = true → key = other

def Occupied (covers : ρ → Bool) (view : κ → Option ρ) : Prop := ∃ key row, view key = some row ∧ covers row = true

variable [DecidableEq κ] {table : Table κ ρ} {locks other : Locks κ ρ} {transactions later : ι → Locks κ ρ} {mine : ι} {key : κ}

/-- The transaction brings a row under the index. -/
def Raises (covers : ρ → Bool) (locks : Locks κ ρ) (key : κ) : Prop :=
  ∃ version, locks.lookup key = some version ∧ version.after.any covers = true ∧ version.before.any covers = false

/-- The open transactions, by name; one that is not open has no locks. -/
structure Indexed (covers : ρ → Bool) (table : Table κ ρ) (transactions : ι → Locks κ ρ) : Prop where
  held : ∀ one, Held (transactions one) table
  apart : ∀ one two, one ≠ two → Apart (transactions one) (transactions two)
  single : Single covers table.lookup
  views : ∀ one, Single covers (seen (transactions one) table)
  alone : ∀ one two key other, one ≠ two → Raises covers (transactions one) key → ¬Raises covers (transactions two) other

theorem seen_locked {version} (found : locks.lookup key = some version) : seen locks table key = version.after := by
  rw [seen, found]

theorem seen_free (free : locks.lookup key = none) : seen locks table key = table.lookup key := by
  rw [seen, free]

theorem seen_write (locks : Locks κ ρ) (table : Table κ ρ) (key wanted : κ) (after : Option ρ) :
    seen (write locks table key after) table wanted = if wanted = key then after else seen locks table wanted := by
  rw [seen, lookup_write]
  by_cases same : wanted = key
  · rw [if_pos same, if_pos same]
  · rw [if_neg same, if_neg same, seen]

theorem seen_apply (locks other : Locks κ ρ) (table : Table κ ρ) (key : κ) :
    seen other (apply locks table) key = if (other.lookup key).isSome = true then seen other table key else seen locks table key := by
  cases found : other.lookup key with
  | none => rw [seen_free found, lookup_apply, isSome_none, if_neg Bool.false_ne_true]
  | some version => rw [seen_locked found, seen_locked found, isSome_some, if_pos rfl]

namespace Indexed

variable (indexed : Indexed covers table transactions) (others : ∀ one, one ≠ mine → later one = transactions one)
include indexed

theorem committed_or_raised {one} {row} (locked : ((transactions one).lookup key).isSome = true)
    (found : seen (transactions one) table key = some row) (covered : covers row = true) :
    Raises covers (transactions one) key ∨ ∃ before, table.lookup key = some before ∧ covers before = true := by
  obtain ⟨version, stored⟩ := isSome_iff_exists.mp locked
  rw [seen_locked stored] at found
  cases before : version.before.any covers with
  | false => exact .inl ⟨version, stored, by rw [found]; exact covered, before⟩
  | true =>
    obtain ⟨old, held, was⟩ := (any_eq_true _ _).mp before
    exact .inr ⟨old, (indexed.held one key version stored).trans held, was⟩

theorem not_both {one two} {other} {row otherRow} (different : one ≠ two)
    (locked : ((transactions one).lookup key).isSome = true) (found : seen (transactions one) table key = some row)
    (covered : covers row = true) (otherLocked : ((transactions two).lookup other).isSome = true)
    (otherFound : seen (transactions two) table other = some otherRow) (otherCovered : covers otherRow = true) : False := by
  have free : ∀ {first second : ι} {wanted : κ}, first ≠ second → ((transactions first).lookup wanted).isSome = true →
      (transactions second).lookup wanted = none := by
    intro first second wanted unequal taken
    refine (indexed.apart first second unequal wanted).resolve_left ?_
    rw [← isNone_iff_eq_none, isNone_eq_false_iff.mpr taken]
    exact Bool.false_ne_true
  have apart : key ≠ other := by
    rintro rfl
    rw [free different locked] at otherLocked
    cases otherLocked
  rcases indexed.committed_or_raised locked found covered with raised | ⟨before, stored, was⟩
  · rcases indexed.committed_or_raised otherLocked otherFound otherCovered with otherRaised | ⟨before, stored, was⟩
    · exact indexed.alone one two key other different raised otherRaised
    · have sees : seen (transactions one) table other = some before := (seen_free (free different.symm otherLocked)).trans stored
      exact apart (indexed.views one key other row before found sees covered was)
  · have sees : seen (transactions two) table key = some before := (seen_free (free different locked)).trans stored
    exact apart (indexed.views two key other before otherRow sees otherFound was otherCovered)

include others

theorem apart_closed (closed : later mine = ∅) : ∀ one two, one ≠ two → Apart (later one) (later two) := by
  intro one two different
  by_cases same : one = mine
  · rw [same, closed]
    exact fun key => .inl rfl
  · by_cases otherSame : two = mine
    · rw [otherSame, closed]
      exact fun key => .inr rfl
    · rw [others one same, others two otherSame]
      exact indexed.apart one two different

theorem commit (closed : later mine = ∅) : Indexed covers (apply (transactions mine) table) later := by
  have committed : (fun key => (apply (transactions mine) table).lookup key) = seen (transactions mine) table :=
    funext (lookup_apply (transactions mine) table)
  refine ⟨?_, ?_, ?_, ?_, ?_⟩
  · intro one
    by_cases same : one = mine
    · rw [same, closed]
      exact fun key version found => by cases found
    · rw [others one same]
      exact (indexed.held one).apply (indexed.apart mine one (Ne.symm same))
  · exact indexed.apart_closed others closed
  · rw [committed]
    exact indexed.views mine
  · intro one
    by_cases same : one = mine
    · rw [same, closed]
      show Single covers (fun key => (apply (transactions mine) table).lookup key)
      rw [committed]
      exact indexed.views mine
    · rw [others one same]
      intro key other row otherRow found otherFound covered otherCovered
      rw [seen_apply] at found otherFound
      split at found
      · next locked =>
        split at otherFound
        · exact indexed.views one key other row otherRow found otherFound covered otherCovered
        · next free =>
          -- one row is pending here, the other has just been committed
          by_cases written : ((transactions mine).lookup other).isSome = true
          · exact (indexed.not_both same locked found covered written otherFound otherCovered).elim
          · have stored := otherFound
            rw [seen_free (not_isSome_iff_eq_none.mp written)] at stored
            exact indexed.views one key other row otherRow found
              ((seen_free (not_isSome_iff_eq_none.mp free)).trans stored) covered otherCovered
      · next free =>
        split at otherFound
        · next locked =>
          by_cases written : ((transactions mine).lookup key).isSome = true
          · exact (indexed.not_both same locked otherFound otherCovered written found covered).elim
          · have stored := found
            rw [seen_free (not_isSome_iff_eq_none.mp written)] at stored
            exact indexed.views one key other row otherRow
              ((seen_free (not_isSome_iff_eq_none.mp free)).trans stored) otherFound covered otherCovered
        · exact indexed.views mine key other row otherRow found otherFound covered otherCovered
  · intro one two key other different raised otherRaised
    by_cases same : one = mine
    · rw [same, closed] at raised
      obtain ⟨version, found, -⟩ := raised
      cases found
    · by_cases otherSame : two = mine
      · rw [otherSame, closed] at otherRaised
        obtain ⟨version, found, -⟩ := otherRaised
        cases found
      · rw [others one same] at raised
        rw [others two otherSame] at otherRaised
        exact indexed.alone one two key other different raised otherRaised

theorem write (row : ρ) (free : ∀ one, one ≠ mine → (transactions one).lookup key = none)
    (unique : covers row = true → (∀ one, one ≠ mine → ∀ other, ¬Raises covers (transactions one) other) ∧
      ∀ other otherRow, other ≠ key → seen (transactions mine) table other = some otherRow → covers otherRow = false)
    (written : later mine = RowLocks.write (transactions mine) table key (some row)) : Indexed covers table later := by
  refine ⟨?_, ?_, indexed.single, ?_, ?_⟩
  · intro one
    by_cases same : one = mine
    · rw [same, written]
      exact (indexed.held mine).write key _
    · rw [others one same]
      exact indexed.held one
  · intro one two different
    by_cases same : one = mine
    · rw [others two (fun equal => different (same.trans equal.symm)), same, written]
      exact (indexed.apart mine two (same ▸ different)).write (free two fun equal => different (same.trans equal.symm)) _
    · by_cases otherSame : two = mine
      · rw [others one same, otherSame, written]
        exact ((indexed.apart mine one (Ne.symm same)).write (free one same) _).symm
      · rw [others one same, others two otherSame]
        exact indexed.apart one two different
  · intro one
    by_cases same : one = mine
    · rw [same, written]
      intro wanted other found otherFound sees otherSees covered otherCovered
      rw [seen_write] at sees otherSees
      by_cases here : wanted = key
      · rw [if_pos here] at sees
        cases sees
        by_cases there : other = key
        · exact here.trans there.symm
        · rw [if_neg there] at otherSees
          rw [(unique covered).2 other otherFound there otherSees] at otherCovered
          cases otherCovered
      · rw [if_neg here] at sees
        by_cases there : other = key
        · rw [if_pos there] at otherSees
          cases otherSees
          rw [(unique otherCovered).2 wanted found here sees] at covered
          cases covered
        · rw [if_neg there] at otherSees
          exact indexed.views mine wanted other found otherFound sees otherSees covered otherCovered
    · rw [others one same]
      exact indexed.views one
  · -- a row that comes under the index now does so alone
    have sole : ∀ wanted, Raises covers (RowLocks.write (transactions mine) table key (some row)) wanted →
        Raises covers (transactions mine) wanted ∨ covers row = true := by
      rintro wanted ⟨version, found, after, before⟩
      rw [lookup_write] at found
      by_cases here : wanted = key
      · rw [if_pos here] at found
        cases found
        exact .inr after
      · rw [if_neg here] at found
        exact .inl ⟨version, found, after, before⟩
    intro one two wanted other different raised otherRaised
    by_cases same : one = mine
    · have unequal : two ≠ mine := fun equal => different (same.trans equal.symm)
      rw [same, written] at raised
      rw [others two unequal] at otherRaised
      rcases sole wanted raised with earlier | covered
      · exact indexed.alone mine two wanted other (Ne.symm unequal) earlier otherRaised
      · exact (unique covered).1 two unequal other otherRaised
    · rw [others one same] at raised
      by_cases otherSame : two = mine
      · rw [otherSame, written] at otherRaised
        rcases sole other otherRaised with earlier | covered
        · exact indexed.alone one mine wanted other same raised earlier
        · exact (unique covered).1 one same wanted raised
      · rw [others two otherSame] at otherRaised
        exact indexed.alone one two wanted other different raised otherRaised

theorem drop (closed : later mine = ∅) : Indexed covers table later := by
  have empty : ∀ key, ¬Raises covers (later mine) key := by
    rintro key ⟨version, found, -⟩
    rw [closed] at found
    cases found
  refine ⟨?_, ?_, indexed.single, ?_, ?_⟩
  · intro one
    by_cases same : one = mine
    · rw [same, closed]
      exact fun key version found => by cases found
    · rw [others one same]
      exact indexed.held one
  · exact indexed.apart_closed others closed
  · intro one
    by_cases same : one = mine
    · rw [same, closed]
      exact indexed.single
    · rw [others one same]
      exact indexed.views one
  · intro one two key other different raised otherRaised
    by_cases same : one = mine
    · exact empty key (same ▸ raised)
    · by_cases otherSame : two = mine
      · exact empty other (otherSame ▸ otherRaised)
      · rw [others one same] at raised
        rw [others two otherSame] at otherRaised
        exact indexed.alone one two key other different raised otherRaised

omit others

theorem occupied_commit {one} (different : one ≠ mine) (occupied : Occupied covers (seen (transactions mine) table))
    (before : Occupied covers (seen (transactions one) table)) :
    Occupied covers (seen (transactions one) (apply (transactions mine) table)) := by
  obtain ⟨wanted, row, sees, covered⟩ := before
  by_cases locked : ((transactions one).lookup wanted).isSome = true
  · exact ⟨wanted, row, by rw [seen_apply, if_pos locked]; exact sees, covered⟩
  · -- the row that it saw was committed; the new one is the same, or one that nobody else has
    rw [seen_free (not_isSome_iff_eq_none.mp locked)] at sees
    obtain ⟨fresh, freshRow, freshSees, freshCovered⟩ := occupied
    by_cases taken : ((transactions one).lookup fresh).isSome = true
    · have free : (transactions mine).lookup fresh = none := by
        refine (indexed.apart one mine different fresh).resolve_left ?_
        exact fun none => by rw [none] at taken; cases taken
      rw [seen_free free] at freshSees
      have same := indexed.single fresh wanted freshRow row freshSees sees freshCovered covered
      exact absurd (same ▸ taken) locked
    · exact ⟨fresh, freshRow, by rw [seen_apply, if_neg taken]; exact freshSees, freshCovered⟩

end Indexed

end RowLocks
