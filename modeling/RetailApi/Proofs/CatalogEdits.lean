import RetailApi.Proofs.EditTransactions

/-! Edits of the catalog by several calls. As long as nobody else commits an entity between a call's reading and its saving, no
edit is lost, an expected version is used up once, and the events of an entity count up; without that, two calls may save over
one version. -/

namespace Catalog

open RowLocks EditRun

/-- A save that is at its `SELECT`, or at an `UPDATE` that does not wait, finds the row that the call read. -/
def EditRun.findsCopy (run : EditRun) (call : Nat) (tx : EditTransaction) : Bool :=
  match tx.stage with
  | .reread save _ => seen tx.locks run.rows save.entity = some save.copy
  | .update save _ _ => !run.isFree call save.entity || decide (seen tx.locks run.rows save.entity = some save.copy)
  | _ => true

/-- The statement to come, if it belongs to a save, finds the row as the call read it. -/
def EditRun.undisturbed (run : EditRun) (input : EditInput) : Bool :=
  match input with
  | .next call =>
    match run.calls.lookup call with
    | some (.running tx) => run.findsCopy call tx
    | _ => true
  | _ => true

def EditRun.Succeeded (run : EditRun) (call : Nat) (request : EditRequest) : Prop :=
  run.calls.lookup call = some (.finished request (.ok ()))

structure EditsKept (rows : Table Entity CatalogRow) (run : EditRun) : Prop where
  /-- Of the calls that expect one version of an entity, one succeeds at most. -/
  single : ∀ one two request other version, run.Succeeded one request → run.Succeeded two other → request.entity = other.entity →
    request.expected = some version → other.expected = some version → one = two
  /-- Each row is the one it was, with the changes of all calls that succeeded, in the order of their commits. -/
  changes : ∀ entity, run.rows.lookup entity = (rows.lookup entity).map (editsOn run.history entity |>.foldl RowEdit.apply)
  increasing : ∀ entity, (versionsOn run.outbox entity).Pairwise (· < ·)

def EditRun.locksOf (run : EditRun) (call : Nat) : Locks Entity CatalogRow := ((run.calls.lookup call).map (·.locks)).getD ∅

structure EditRun.Kept (rows : Table Entity CatalogRow) (run : EditRun) : Prop where
  sound : ∀ call tx, run.calls.lookup call = some (.running tx) → tx.Sound run.rows
  apart : ∀ one two, one ≠ two → Apart (run.locksOf one) (run.locksOf two)
  kept : EditsKept rows run
  published : ∀ entity, ∀ number ∈ versionsOn run.outbox entity, ∃ row, run.rows.lookup entity = some row ∧ number ≤ row.version
  spent : ∀ call request version, run.Succeeded call request → request.expected = some version →
    ∃ row, run.rows.lookup request.entity = some row ∧ version < row.version

section Runs

variable {rows : Table Entity CatalogRow} {run : EditRun} {call : Nat} {tx : EditTransaction}

theorem locksOf_running (found : run.calls.lookup call = some (.running tx)) : run.locksOf call = tx.locks := by
  rw [locksOf, found]
  rfl

theorem locksOf_put (call other : Nat) (state : EditCall) :
    (run.put call state).locksOf other = if other = call then state.locks else run.locksOf other := by
  rw [EditRun.locksOf, EditRun.put, Table.lookup_insert_if]
  split <;> rfl

theorem EditRun.isFree_locksOf {entity} (free : run.isFree call entity = true) {other} (different : other ≠ call) :
    (run.locksOf other).lookup entity = none := by
  rw [locksOf]
  cases found : run.calls.lookup other with
  | none => rfl
  | some state =>
    have listed : (⟨other, state⟩ : Sigma fun _ : Nat => EditCall) ∈ run.calls.entries := AList.mem_lookup_iff.mp found
    have beside : state.locks ∈ run.lockedBeside call :=
      List.mem_map.mpr ⟨_, List.mem_filter.mpr ⟨listed, decide_eq_true different⟩, rfl⟩
    exact Option.isNone_iff_eq_none.mp (List.all_eq_true.mp free _ beside)

theorem EditRun.unmoved (found : run.calls.lookup call = some (.running tx)) (undisturbed : run.undisturbed (.next call) = true) :
    run.Unmoved call tx := by
  rw [EditRun.undisturbed, found] at undisturbed
  dsimp only at undisturbed
  constructor
  · intro save loop here
    rw [EditRun.findsCopy, here] at undisturbed
    exact of_decide_eq_true undisturbed
  · intro save before loop here free
    rw [EditRun.findsCopy, here] at undisturbed
    dsimp only at undisturbed
    rw [free, Bool.not_true, Bool.false_or] at undisturbed
    exact of_decide_eq_true undisturbed

theorem EditRun.Kept.put (kept : run.Kept rows) {state}
    (sound : ∀ tx, state = .running tx → tx.Sound run.rows)
    (apart : ∀ other, other ≠ call → Apart state.locks (run.locksOf other))
    (unfinished : ∀ request, state ≠ .finished request (.ok ())) : (run.put call state).Kept rows := by
  have succeeded : ∀ other request, (run.put call state).Succeeded other request → run.Succeeded other request := by
    intro other request done
    rcases Table.of_lookup_insert done with ⟨-, same⟩ | ⟨-, earlier⟩
    · exact absurd same.symm (unfinished request)
    · exact earlier
  refine ⟨?_, ?_, ⟨?_, kept.kept.changes, kept.kept.increasing⟩, kept.published, ?_⟩
  · intro other tx found
    rcases Table.of_lookup_insert found with ⟨-, same⟩ | ⟨-, earlier⟩
    · exact sound tx same.symm
    · exact kept.sound other tx earlier
  · intro one two different
    rw [locksOf_put, locksOf_put]
    by_cases first : one = call
    · rw [if_pos first, if_neg fun second => different (first.trans second.symm)]
      exact apart two fun second => different (first.trans second.symm)
    · rw [if_neg first]
      by_cases second : two = call
      · rw [if_pos second]
        exact (apart one first).symm
      · rw [if_neg second]
        exact kept.apart one two different
  · intro one two request other version first second
    exact kept.kept.single one two request other version (succeeded one request first) (succeeded two other second)
  · intro other request version done
    exact kept.spent other request version (succeeded other request done)

theorem EditRun.Kept.putIdle (kept : run.Kept rows) {state} (unlocked : state.locks = ∅)
    (sound : ∀ tx, state = .running tx → tx.Sound run.rows)
    (unfinished : ∀ request, state ≠ .finished request (.ok ())) : (run.put call state).Kept rows := by
  refine kept.put sound (fun other _ entity => ?_) unfinished
  rw [unlocked]
  exact .inl rfl

section Commit

variable (kept : run.Kept rows) (found : run.calls.lookup call = some (.running tx)) (here : tx.stage = .commit)

include kept found

theorem EditRun.Kept.grows {entity row} (stored : run.rows.lookup entity = some row) :
    ∃ after, (apply tx.locks run.rows).lookup entity = some after ∧ row.version ≤ after.version := by
  have sound := kept.sound call tx found
  rw [lookup_apply, seen]
  cases locked : tx.locks.lookup entity with
  | none => exact ⟨row, stored, le_refl _⟩
  | some version =>
    obtain ⟨before, after, had, left, lower⟩ := sound.coherent.raised entity version locked
    rw [sound.held entity version locked, had] at stored
    cases stored
    exact ⟨after, left, lower.le⟩

theorem EditRun.Kept.passed {entity number} (passed : Passed tx.locks entity number) :
    (∀ row, run.rows.lookup entity = some row → row.version < number) ∧
      ∃ after, (apply tx.locks run.rows).lookup entity = some after ∧ number ≤ after.version := by
  obtain ⟨version, before, after, locked, had, left, above, below⟩ := passed
  have stored := (kept.sound call tx found).held entity version locked
  refine ⟨fun row same => ?_, after, ?_, below⟩
  · rw [stored, had] at same
    cases same
    exact above
  · rw [lookup_apply, seen, locked]
    exact left

include here

theorem EditRun.Kept.uses {expected} (wanted : tx.request.expected = some expected) :
    (∃ row, run.rows.lookup tx.request.entity = some row ∧ row.version = expected) ∧
      ∃ after, (apply tx.locks run.rows).lookup tx.request.entity = some after ∧ expected < after.version := by
  have sound := kept.sound call tx found
  have replaces := sound.fits
  rw [EditTransaction.Fits, here] at replaces
  obtain ⟨version, before, locked, had, rfl⟩ := replaces expected wanted
  obtain ⟨first, last, alsoHad, left, lower⟩ := sound.coherent.raised _ version locked
  cases had.symm.trans alsoHad
  refine ⟨⟨before, (sound.held _ version locked).trans had, rfl⟩, last, ?_, lower⟩
  rw [lookup_apply, seen, locked]
  exact left

theorem EditRun.Kept.commit : (run.commit call tx).Kept rows := by
  have sound := kept.sound call tx found
  have succeeded : ∀ other request, (run.commit call tx).Succeeded other request →
      other = call ∧ request = tx.request ∨ other ≠ call ∧ run.Succeeded other request := by
    intro other request done
    rcases Table.of_lookup_insert done with ⟨mine, same⟩ | ⟨different, earlier⟩
    · cases same
      exact .inl ⟨mine, rfl⟩
    · exact .inr ⟨different, earlier⟩
  have unspent : ∀ other request version, run.Succeeded other request → request.entity = tx.request.entity →
      request.expected = some version → tx.request.expected ≠ some version := by
    intro other request version done same wanted alsoWanted
    obtain ⟨row, stored, above⟩ := kept.spent other request version done wanted
    obtain ⟨⟨current, alsoStored, rfl⟩, -⟩ := kept.uses found here alsoWanted
    rw [same, alsoStored] at stored
    cases stored
    exact Nat.lt_irrefl _ above
  refine ⟨?_, ?_, ⟨?_, ?_, ?_⟩, ?_, ?_⟩
  · intro other beside running
    rcases Table.of_lookup_insert running with ⟨-, impossible⟩ | ⟨different, earlier⟩
    · cases impossible
    · have otherSound := kept.sound other beside earlier
      have apart := kept.apart call other (Ne.symm different)
      rw [locksOf_running found, locksOf_running earlier] at apart
      exact ⟨otherSound.held.apply apart, otherSound.coherent, otherSound.fits⟩
  · have dropped : ∀ other, (run.commit call tx).locksOf other = if other = call then ∅ else run.locksOf other :=
      fun other => locksOf_put call other (.finished tx.request (.ok ()))
    intro one two different
    rw [dropped, dropped]
    split
    · exact fun _ => .inl rfl
    · split
      · exact fun _ => .inr rfl
      · exact kept.apart one two different
  · intro one two request other version first second same wanted alsoWanted
    rcases succeeded one request first with ⟨rfl, rfl⟩ | ⟨-, earlier⟩ <;>
      rcases succeeded two other second with ⟨rfl, rfl⟩ | ⟨-, alsoEarlier⟩
    · rfl
    · exact absurd wanted (unspent two other version alsoEarlier same.symm alsoWanted)
    · exact absurd alsoWanted (unspent one request version earlier same wanted)
    · exact kept.kept.single one two request other version earlier alsoEarlier same wanted alsoWanted
  · intro entity
    change (apply tx.locks run.rows).lookup entity = _
    rw [lookup_apply, sound.coherent.seen sound.held, kept.kept.changes, Option.map_map]
    change _ = (rows.lookup entity).map (editsOn (run.history ++ tx.edits) entity |>.foldl RowEdit.apply)
    rw [editsOn_append]
    congr 1
    funext row
    exact List.foldl_append.symm
  · intro entity
    change (versionsOn (run.outbox ++ tx.events) entity).Pairwise (· < ·)
    rw [versionsOn_append]
    refine List.pairwise_append.mpr ⟨kept.kept.increasing entity, sound.coherent.ordered entity, ?_⟩
    intro old listed number new
    obtain ⟨row, stored, upTo⟩ := kept.published entity old listed
    exact upTo.trans_lt ((kept.passed found (sound.coherent.announced entity number new)).1 row stored)
  · intro entity number listed
    change number ∈ versionsOn (run.outbox ++ tx.events) entity at listed
    rw [versionsOn_append] at listed
    rcases List.mem_append.mp listed with old | new
    · obtain ⟨row, stored, upTo⟩ := kept.published entity number old
      obtain ⟨after, stands, grown⟩ := kept.grows found stored
      exact ⟨after, stands, upTo.trans grown⟩
    · exact (kept.passed found (sound.coherent.announced entity number new)).2
  · intro other request version done wanted
    rcases succeeded other request done with ⟨-, rfl⟩ | ⟨-, earlier⟩
    · exact (kept.uses found here wanted).2
    · obtain ⟨row, stored, above⟩ := kept.spent other request version earlier wanted
      obtain ⟨after, stands, grown⟩ := kept.grows found stored
      exact ⟨after, stands, above.trans_le grown⟩

end Commit

theorem EditRun.Kept.goes (kept : run.Kept rows) (found : run.calls.lookup call = some (.running tx))
    (unmoved : run.Unmoved call tx) {after} (went : run.statement call tx = .goes after) :
    (run.put call (.running after)).Kept rows := by
  obtain ⟨sound, locked, -⟩ := statement_goes (kept.sound call tx found) unmoved went
  refine kept.put ?_ ?_ ?_
  · rintro _ ⟨⟩
    exact sound
  · intro other different
    have apart := kept.apart call other (Ne.symm different)
    rw [locksOf_running found] at apart
    rcases locked with same | ⟨entity, version, free, written⟩
    · change Apart after.locks _
      rw [same]
      exact apart
    · change Apart after.locks _
      rw [written]
      exact apart.write (isFree_locksOf free different) version
  · intro request impossible
    cases impossible

theorem EditRun.Kept.step (kept : run.Kept rows) {input} (undisturbed : run.undisturbed input = true) :
    (run.step input).Kept rows := by
  cases input with
  | start call now request =>
    rw [EditRun.step]
    split
    · exact kept
    · refine kept.putIdle rfl ?_ ?_
      · rintro _ ⟨⟩
        have idle : ({ request, now } : EditTransaction).Idle := ⟨rfl, rfl, rfl⟩
        refine ⟨fun entity version locked => ?_, idle.coherent, idle⟩
        cases locked
      · intro request impossible
        cases impossible
  | next call =>
    rw [EditRun.step]
    split
    · next tx found =>
      have unmoved := EditRun.unmoved found undisturbed
      rw [EditRun.next]
      split
      · next here => exact kept.commit found here
      · split
        · exact kept
        · refine kept.putIdle rfl ?_ ?_
          · rintro _ ⟨⟩
          · rintro request ⟨⟩
        · next went => exact kept.goes found unmoved went
    · exact kept
  | refuse call =>
    rw [EditRun.step]
    split
    · refine kept.putIdle rfl ?_ ?_
      · rintro _ ⟨⟩
      · rintro request ⟨⟩
    · exact kept

end Runs

/-- Edits are kept in every run whose calls all find the rows that they save as they read them. -/
theorem edits_kept (rows : Table Entity CatalogRow) (inputs : List EditInput)
    (undisturbed : Run.Meets step (fun run input => run.undisturbed input = true) { rows } inputs) :
    EditsKept rows (Run.after step { rows } inputs) := by
  refine (Run.invariant_of_meets (Kept rows) (fun run input meets kept => kept.step meets) undisturbed ?_).kept
  refine ⟨fun call tx found => ?_, fun _ _ _ _ => .inl rfl, ⟨fun one two request other version done => ?_, fun entity => ?_,
    fun entity => .nil⟩, fun entity number listed => ?_, fun call request version done => ?_⟩
  · cases found
  · cases done
  · exact Option.map_id'.symm
  · cases listed
  · cases done

def teaRows : Table Entity CatalogRow :=
  (∅ : Table Entity CatalogRow).insert (.product 7) (.product { name := "Tea", status := .active, version := 1, updatedAt := 0 })

def renameTea (name : String) : EditRequest :=
  .updateProduct 7 { name := some name, version := some 1 } {}

def renameBoth : List EditInput := [.start 0 1 (renameTea "Green tea"), .start 1 2 (renameTea "Black tea")]

theorem edits_kept_in_turn :
    EditsKept teaRows (Run.after step { rows := teaRows } (renameBoth ++
      [.next 0, .next 0, .next 0, .next 0, .next 1, .next 1])) := by
  apply edits_kept
  decide +kernel

/-- Both read before either saves: both succeed, and both announce version 2. -/
theorem stale_rename_kept :
    let run := Run.after step { rows := teaRows } (renameBoth ++
      [.next 0, .next 1, .next 0, .next 0, .next 0, .next 1, .next 1, .next 1])
    run.Succeeded 0 (renameTea "Green tea") ∧ run.Succeeded 1 (renameTea "Black tea") ∧
      versionsOn run.outbox (.product 7) = [2, 2] ∧ ¬ EditsKept teaRows run := by
  refine ⟨rfl, rfl, rfl, fun kept => ?_⟩
  have ordered := kept.increasing (.product 7)
  revert ordered
  decide +kernel

end Catalog
