import RetailApi.Base.Table

/-! Row locks. A transaction locks a row when it writes it or reads it for update, and keeps the version it locked
and the version it has made of it. The others see the committed rows until it commits. -/

namespace RowLocks

open Option Table AList

variable {κ ρ : Type*}

/-- A locked row: as it is committed, and as the transaction leaves it; `none` where there is no row. -/
structure Version (ρ : Type*) where
  before : Option ρ
  after : Option ρ

/-- The rows that a transaction has locked. -/
abbrev Locks (κ ρ : Type*) := Table κ (Version ρ)

/-- What a version of a row counts for. -/
def worth (amount : κ → ρ → Int) (key : κ) (version : Option ρ) : Int := (version.map (amount key)).getD 0

/-- What a transaction adds to a sum over all rows. -/
def change (amount : κ → ρ → Int) (locks : Locks κ ρ) : Int :=
  sumBy (fun key version => worth amount key version.after - worth amount key version.before) locks

/-- The locks hold the committed versions. -/
def Held [DecidableEq κ] (locks : Locks κ ρ) (table : Table κ ρ) : Prop :=
  ∀ key version, locks.lookup key = some version → table.lookup key = version.before

/-- No row is locked by both. -/
def Apart [DecidableEq κ] (first second : Locks κ ρ) : Prop := ∀ key, first.lookup key = none ∨ second.lookup key = none

variable [DecidableEq κ] {locks other : Locks κ ρ} {table : Table κ ρ}

/-- One row as it is to be, or gone. -/
def put (table : Table κ ρ) (key : κ) : Option ρ → Table κ ρ
  | some row => table.insert key row
  | none => table.erase key

theorem lookup_put (table : Table κ ρ) (key wanted : κ) (version : Option ρ) :
    (put table key version).lookup wanted = if wanted = key then version else table.lookup wanted := by
  cases version with
  | some row => exact lookup_insert_if table key wanted row
  | none =>
    by_cases same : wanted = key
    · rw [if_pos same, same]
      exact lookup_erase key table
    · rw [if_neg same]
      exact lookup_erase_ne same

theorem sumBy_put (amount : κ → ρ → Int) (table : Table κ ρ) (key : κ) (version : Option ρ) :
    sumBy amount (put table key version) =
      sumBy amount table - worth amount key (table.lookup key) + worth amount key version := by
  cases found : table.lookup key with
  | none =>
    cases version with
    | some row =>
      have added := sumBy_insert_fresh found amount row
      simp only [put, added, worth, map_none, map_some, getD_none, getD_some]
      omega
    | none =>
      have absent : key ∉ table := lookup_eq_none.mp found
      have same : (table.erase key).entries = table.entries := List.kerase_of_notMem_keys absent
      simp [put, sumBy, same, worth]
  | some old =>
    cases version with
    | some row =>
      have replaced := sumBy_insert_existing found amount row
      simpa only [put, worth, map_some, getD_some] using replaced
    | none =>
      have erased := sumBy_insert_existing found amount old
      have added := sumBy_insert_fresh (lookup_erase key table) amount old
      have again : sumBy amount ((table.erase key).insert key old) = sumBy amount (table.insert key old) := by
        rw [sumBy, sumBy, entries_insert, entries_insert]
        congr 3
        exact List.kerase_of_notMem_keys (lookup_eq_none.mp (lookup_erase key table))
      simp only [put, worth, map_some, map_none, getD_some, getD_none]
      omega

/-- What the transaction sees of a row. -/
def seen (locks : Locks κ ρ) (table : Table κ ρ) (key : κ) : Option ρ :=
  match locks.lookup key with
  | some version => version.after
  | none => table.lookup key

/-- A row locked, and left as `after`. -/
def write (locks : Locks κ ρ) (table : Table κ ρ) (key : κ) (after : Option ρ) : Locks κ ρ :=
  locks.insert key ⟨((locks.lookup key).map (·.before)).getD (table.lookup key), after⟩

theorem lookup_write (locks : Locks κ ρ) (table : Table κ ρ) (key wanted : κ) (after : Option ρ) :
    (write locks table key after).lookup wanted = if wanted = key then
      some ⟨((locks.lookup key).map (·.before)).getD (table.lookup key), after⟩ else locks.lookup wanted :=
  lookup_insert_if locks key wanted _

theorem Held.before (held : Held locks table) (key : κ) :
    ((locks.lookup key).map (·.before)).getD (table.lookup key) = table.lookup key := by
  cases found : locks.lookup key with
  | none => rfl
  | some version => exact (held key version found).symm

theorem Held.write (held : Held locks table) (key : κ) (after : Option ρ) : Held (RowLocks.write locks table key after) table := by
  intro wanted version found
  rw [lookup_write, held.before] at found
  by_cases same : wanted = key
  · rw [if_pos same] at found
    cases found
    exact congrArg table.lookup same
  · rw [if_neg same] at found
    exact held wanted version found

theorem change_write (amount : κ → ρ → Int) (locks : Locks κ ρ) (table : Table κ ρ) (key : κ) (after : Option ρ) :
    change amount (write locks table key after) =
      change amount locks + worth amount key after - worth amount key (seen locks table key) := by
  cases found : locks.lookup key with
  | none =>
    rw [change, write, sumBy_insert_fresh found, found, seen, found]
    simp only [map_none, getD_none, change]
    omega
  | some version =>
    rw [change, write, sumBy_insert_existing found, found, seen, found]
    simp only [map_some, getD_some, change]
    omega

/-- What a transaction adds to the amount of one row. -/
def changeAt (amount : κ → ρ → Int) (locks : Locks κ ρ) (key : κ) : Int :=
  match locks.lookup key with
  | some version => worth amount key version.after - worth amount key version.before
  | none => 0

theorem changeAt_write (amount : κ → ρ → Int) (locks : Locks κ ρ) (table : Table κ ρ) (key wanted : κ) (after : Option ρ) :
    changeAt amount (write locks table key after) wanted = changeAt amount locks wanted +
      if wanted = key then worth amount key after - worth amount key (seen locks table key) else 0 := by
  rw [changeAt, lookup_write]
  by_cases same : wanted = key
  · subst same
    rw [if_pos rfl, if_pos rfl, changeAt, seen]
    cases found : locks.lookup wanted with
    | none =>
      simp only [map_none, getD_none]
      omega
    | some version =>
      simp only [map_some, getD_some]
      omega
  · rw [if_neg same, if_neg same, Int.add_zero, changeAt]

theorem worth_seen (amount : κ → ρ → Int) (held : Held locks table) (key : κ) :
    worth amount key (seen locks table key) = worth amount key (table.lookup key) + changeAt amount locks key := by
  rw [seen, changeAt]
  cases found : locks.lookup key with
  | none => exact (Int.add_zero _).symm
  | some version =>
    rw [held key version found]
    dsimp only
    omega

/-- The committed rows once the transaction has committed. -/
def apply (locks : Locks κ ρ) (table : Table κ ρ) : Table κ ρ :=
  locks.entries.foldl (fun table entry => put table entry.1 entry.2.after) table

theorem lookup_foldl_put {entries : List (Sigma fun _ : κ => Version ρ)} (distinct : entries.NodupKeys) (wanted : κ) :
    (entries.foldl (fun table entry => put table entry.1 entry.2.after) table).lookup wanted =
      ((entries.dlookup wanted).map (·.after)).getD (table.lookup wanted) := by
  induction entries generalizing table with
  | nil => rfl
  | cons entry entries inner =>
    obtain ⟨key, version⟩ := entry
    obtain ⟨absent, rest⟩ := List.nodupKeys_cons.mp distinct
    rw [List.foldl_cons, inner rest, lookup_put]
    by_cases same : wanted = key
    · subst same
      rw [List.dlookup_cons_eq, List.dlookup_eq_none.mpr absent]
      simp
    · rw [List.dlookup_cons_ne entries ⟨key, version⟩ same, if_neg same]

theorem lookup_apply (locks : Locks κ ρ) (table : Table κ ρ) (wanted : κ) :
    (apply locks table).lookup wanted = seen locks table wanted := by
  rw [apply, lookup_foldl_put locks.nodupKeys, seen]
  cases found : locks.lookup wanted with
  | none =>
    rw [lookup] at found
    rw [found]
    rfl
  | some version =>
    rw [lookup] at found
    rw [found]
    rfl

theorem sumBy_foldl_put (amount : κ → ρ → Int) {entries : List (Sigma fun _ : κ => Version ρ)} (distinct : entries.NodupKeys)
    (held : ∀ entry ∈ entries, table.lookup entry.1 = entry.2.before) :
    sumBy amount (entries.foldl (fun table entry => put table entry.1 entry.2.after) table) =
      sumBy amount table +
        (entries.map fun entry => worth amount entry.1 entry.2.after - worth amount entry.1 entry.2.before).sum := by
  induction entries generalizing table with
  | nil => simp
  | cons entry entries inner =>
    obtain ⟨absent, rest⟩ := List.nodupKeys_cons.mp distinct
    have own := held entry (.head _)
    have others : ∀ other ∈ entries, (put table entry.1 entry.2.after).lookup other.1 = other.2.before := by
      intro other member
      have apart : other.1 ≠ entry.1 := fun same => absent (same ▸ List.mem_keys_of_mem member)
      rw [lookup_put, if_neg apart]
      exact held other (.tail _ member)
    rw [List.foldl_cons, inner rest others, sumBy_put, own, List.map_cons, List.sum_cons]
    omega

theorem sumBy_apply (amount : κ → ρ → Int) (held : Held locks table) :
    sumBy amount (apply locks table) = sumBy amount table + change amount locks := by
  refine sumBy_foldl_put amount locks.nodupKeys fun entry member => ?_
  exact held entry.1 entry.2 (mem_lookup_iff.mpr member)

theorem Apart.symm (apart : Apart locks other) : Apart other locks := fun key => (apart key).symm

theorem Held.apply (held : Held other table) (apart : Apart locks other) : Held other (RowLocks.apply locks table) := by
  intro key version found
  have free : locks.lookup key = none := (apart key).resolve_right (by rw [found]; nofun)
  rw [lookup_apply, seen, free]
  exact held key version found

theorem Apart.write {key} (apart : Apart locks other) (free : other.lookup key = none) (after : Option ρ) :
    Apart (RowLocks.write locks table key after) other := by
  intro wanted
  by_cases same : wanted = key
  · exact .inr (same ▸ free)
  · rw [lookup_write, if_neg same]
    exact apart wanted

end RowLocks
