import RetailApi.Proofs.HoldTransactions

/-! Branch stock holds are exact while no late sale is noted short of stock that others hold, and no order that tries
again deletes a hold that has been committed meanwhile. -/

namespace Inventory

open Process RowLocks HoldStatement Table List Writes Run

/-- What is reserved is held, and holds have stock rows and identifiers of their own. -/
structure HoldsDb.Exact (db : HoldsDb) : Prop where
  counted : ∀ key, worth reservedQty key (db.stockItems.lookup key) = sumBy (heldOn key) db.reservations
  drawn : ∀ orderId row, db.reservations.lookup orderId = some row → db.drawn[row.id]? = some orderId
  stocked : ∀ orderId row, db.reservations.lookup orderId = some row → ∀ line ∈ row.items,
    db.stockItems.lookup ⟨row.branchId, line.sku⟩ ≠ none

inductive HoldEffect (others : List Writes) (db : HoldsDb) (writes : Writes) : HoldsDb → Writes → Prop where
  | read : HoldEffect others db writes db writes
  | item (key : LegacyKey) (after : LegalItem) (free : ∀ other ∈ others, other.stockItems.lookup key = none) :
      HoldEffect others db writes db (writes.writeItem db key after)
  | reservation (orderId : Uuid) (after : Option ReservationRow)
      (free : ∀ other ∈ others, other.reservations.lookup orderId = none)
      (changed : ∀ row, after = some row → ∃ old, seen writes.reservations db.reservations orderId = some old ∧
        row.id = old.id ∧ (old.status ≠ .held → row.status ≠ .held)) :
      HoldEffect others db writes db (writes.writeReservation db orderId after)
  | inserted (orderId : Uuid) (row : ReservationRow) (free : ∀ other ∈ others, other.replaces orderId = false)
      (none : seen writes.reservations db.reservations orderId = none) (drawn : row.id = db.drawn.length) :
      HoldEffect others db writes { db with drawn := db.drawn ++ [orderId] } (writes.writeReservation db orderId (some row))
  | noted (row : InventoryLedgerRow) : HoldEffect others db writes db { writes with ledger := writes.ledger ++ [row] }

variable {others : List Writes} {db later : HoldsDb} {writes written : Writes}

theorem updateItem_effect {α : Type} {key item} {answer given : α}
    (ran : updateItem others db writes key item answer = .ran later written given) :
    HoldEffect others db writes later written := by
  obtain ⟨rfl, _, free, _, rfl⟩ := updateItem_ran ran
  exact .item key _ free

variable {orderId id : Uuid} {row : ReservationRow} {statement : HoldStatement} {reply : HoldReply}

theorem updateReservation_effect {α : Type} {after} {answer given : α}
    (changed : ∀ row, after = some row → ∃ old, seen writes.reservations db.reservations orderId = some old ∧
      row.id = old.id ∧ (old.status ≠ .held → row.status ≠ .held))
    (ran : updateReservation others db writes orderId after answer = .ran later written given) :
    HoldEffect others db writes later written := by
  obtain ⟨rfl, _, free, rfl⟩ := updateReservation_ran ran
  exact .reservation orderId after free changed

theorem reservation_sees (read : writes.reservation db orderId id = some row) :
    seen writes.reservations db.reservations orderId = some row := (Option.filter_eq_some_iff.mp read).1

theorem run_effect {now} {answer : statement.Answer}
    (ran : run now others db writes statement = .ran later written answer) :
    HoldEffect others db writes later written := by
  cases statement with
  | findByOrder | available =>
    cases ran
    exact .read
  | insertLedger row =>
    cases ran
    exact .noted row
  | insertReservation orderId branchId ttlMinutes =>
    simp only [run] at ran
    split at ran
    · cases ran
    · next free =>
      split at ran
      · cases ran
        exact .read
      · next none =>
        cases ran
        refine .inserted orderId _ (fun other member => ?_) none rfl
        simp only [any_eq_true, not_exists, not_and] at free
        exact Bool.eq_false_iff.mpr (free other member)
  | lockReservation orderId wanted =>
    simp only [run] at ran
    split at ran
    · next row read =>
      refine updateReservation_effect ?_ ran
      rintro _ ⟨⟩
      exact ⟨row, reservation_sees read, rfl, id⟩
    · cases ran
      exact .read
  | lockDue orderId wanted =>
    simp only [run] at ran
    split at ran
    · next row read =>
      obtain ⟨named, _⟩ := Option.filter_eq_some_iff.mp read
      split at ran
      · cases ran
        exact .read
      · next free =>
        cases ran
        refine .reservation orderId (some row) (fun other member => ?_) ?_
        · simp only [any_eq_true, not_exists, not_and] at free
          simpa [locksReservation] using free other member
        · rintro _ ⟨⟩
          exact ⟨row, reservation_sees named, rfl, id⟩
    · cases ran
      exact .read
  | deleteReservation orderId wanted =>
    simp only [run] at ran
    split at ran
    · refine updateReservation_effect ?_ ran
      rintro _ ⟨⟩
    · cases ran
      exact .read
  | insertItem orderId wanted line =>
    simp only [run] at ran
    split at ran
    · next row read =>
      obtain ⟨_, _, own⟩ := Option.bind_eq_some_iff.mp read
      refine updateReservation_effect ?_ ran
      rintro _ ⟨⟩
      exact ⟨row, reservation_sees own, rfl, id⟩
    · cases ran
  | setStatus orderId wanted status =>
    simp only [run] at ran
    split at ran
    · next row read =>
      refine updateReservation_effect ?_ ran
      rintro _ ⟨⟩
      exact ⟨row, reservation_sees read, rfl, fun _ => status.2⟩
    · cases ran
      exact .read
  | holdStock | lockFree | moveStock =>
    simp only [run] at ran
    split at ran
    · exact updateItem_effect ran
    · cases ran
      exact .read

/-- No row with the identifier is held, committed or in what a transaction has written. -/
structure Retired (pool : HoldPool) (id : Uuid) : Prop where
  drawn : id < pool.db.drawn.length
  committed : ∀ orderId row, pool.db.reservations.lookup orderId = some row → row.id = id → row.status ≠ .held
  written : ∀ thread tx orderId version row, pool.running.lookup thread = some tx →
    tx.writes.reservations.lookup orderId = some version → version.after = some row → row.id = id → row.status ≠ .held

/-- The locks of a transaction hold what is committed; what it has written keeps to the identifiers drawn, and holds
nothing again that was closed. -/
structure WritesKept (db : HoldsDb) (writes : Writes) : Prop where
  items : Held writes.stockItems db.stockItems
  reservations : Held writes.reservations db.reservations
  drawn : ∀ orderId version row, writes.reservations.lookup orderId = some version → version.after = some row →
    db.drawn[row.id]? = some orderId
  closes : ∀ orderId version old row, writes.reservations.lookup orderId = some version → version.before = some old →
    version.after = some row → row.id = old.id → old.status ≠ .held → row.status ≠ .held

def WritesApart (first second : Writes) : Prop :=
  Apart first.stockItems second.stockItems ∧ Apart first.reservations second.reservations

def HoldsDb.Rowless (db : HoldsDb) (key : LegacyKey) : Prop := db.stockItems.lookup key = none

/-- What holds of the tables and of all open transactions, from `start` on. -/
structure PoolKept (start : HoldsDb) (pool : HoldPool) : Prop where
  exact : pool.db.Exact
  recorded : ∃ rows, pool.db.ledger = start.ledger ++ rows ∧ ∀ key, Recorded (worth onHandQty key (start.stockItems.lookup key))
    (ledgerOf rows key) (worth onHandQty key (pool.db.stockItems.lookup key))
  rowless : ∀ key, pool.db.stockItems.lookup key = none ↔ start.Rowless key
  writes : ∀ thread tx, pool.running.lookup thread = some tx → WritesKept pool.db tx.writes
  apart : ∀ first second one other, first ≠ second → pool.running.lookup first = some one →
    pool.running.lookup second = some other → WritesApart one.writes other.writes
  safe : ∀ thread tx, pool.running.lookup thread = some tx →
    TransactionSafe start.Rowless tx.program (Retired pool) tx.writes

variable {start : HoldsDb} {pool : HoldPool} {thread : Nat} {tx : HoldTransaction} {program : HoldProgram}

theorem same_order {first second} {drawn : List Uuid} {other} (one : drawn[id]? = some first)
    (two : drawn[other]? = some second) (same : id = other) : first = second := by
  subst same
  exact Option.some.inj (one.symm.trans two)

theorem PoolKept.retired (kept : PoolKept start pool)
    (stored : pool.db.reservations.lookup orderId = some row) (closed : row.status ≠ .held) : Retired pool row.id := by
  have own := kept.exact.drawn orderId row stored
  refine ⟨(List.getElem?_eq_some_iff.mp own).1, fun other now found same => ?_, fun thread tx other version now running
    locked after same => ?_⟩
  · obtain rfl := same_order (kept.exact.drawn other now found) own same
    cases found.symm.trans stored
    exact closed
  · have writes := kept.writes thread tx running
    obtain rfl := same_order (writes.drawn other version now locked after) own same
    exact writes.closes other version row now locked ((writes.reservations other version locked).symm.trans stored) after same closed

theorem PoolKept.view (kept : PoolKept start pool) (running : pool.running.lookup thread = some tx) :
    View start.Rowless (Retired pool) pool.db tx.writes where
  items := (kept.writes thread tx running).items
  reservations := (kept.writes thread tx running).reservations
  closes := fun _ _ stored closed => kept.retired stored closed
  closed := fun orderId row sees retired => by
    rw [seen] at sees
    cases locked : tx.writes.reservations.lookup orderId with
    | none =>
      rw [locked] at sees
      exact retired.committed orderId row sees rfl
    | some version =>
      rw [locked] at sees
      exact retired.written thread tx orderId version row running locked sees rfl
  rowless := kept.rowless
  stocked := fun orderId row stored line member nowhere =>
    kept.exact.stocked orderId row stored line member ((kept.rowless _).mpr nowhere)

theorem Retired.drop (retired : Retired pool id) (thread : Nat) : Retired (pool.drop thread) id :=
  ⟨retired.drawn, retired.committed, fun other tx orderId version row found =>
    retired.written other tx orderId version row (of_lookup_erase found).2⟩

theorem PoolKept.drop (kept : PoolKept start pool) (thread : Nat) : PoolKept start (pool.drop thread) := by
  refine ⟨kept.exact, kept.recorded, kept.rowless, fun other tx found => ?_,
    fun first second one other differ found listed => ?_, fun other tx found => ?_⟩
  · exact kept.writes other tx (of_lookup_erase found).2
  · exact kept.apart first second one other differ (of_lookup_erase found).2 (of_lookup_erase listed).2
  · exact (kept.safe other tx (of_lookup_erase found).2).mono fun id retired => retired.drop thread

theorem Retired.begin (retired : Retired pool id) (thread : Nat) (call : HoldCall) :
    Retired { pool with running := pool.running.insert thread ⟨call.program, {}⟩ } id := by
  refine ⟨retired.drawn, retired.committed, fun other tx orderId version row found locked => ?_⟩
  rcases of_lookup_insert found with ⟨_, rfl⟩ | ⟨_, old⟩
  · cases locked
  · exact retired.written other tx orderId version row old locked

theorem PoolKept.begin (kept : PoolKept start pool) (thread : Nat) (call : HoldCall) :
    PoolKept start { pool with running := pool.running.insert thread ⟨call.program, {}⟩ } := by
  refine ⟨kept.exact, kept.recorded, kept.rowless, ?_, fun first second one other differ found listed => ?_, ?_⟩
  · exact forall_insert ⟨nofun, nofun, nofun, nofun⟩ kept.writes
  · rcases of_lookup_insert found with ⟨_, rfl⟩ | ⟨_, one⟩
    · exact ⟨fun _ => .inl rfl, fun _ => .inl rfl⟩
    · rcases of_lookup_insert listed with ⟨_, rfl⟩ | ⟨_, two⟩
      · exact ⟨fun _ => .inr rfl, fun _ => .inr rfl⟩
      · exact kept.apart first second _ _ differ one two
  · exact forall_insert call.safe fun other tx old => (kept.safe other tx old).mono fun id retired => retired.begin thread call

namespace HoldEffect

theorem frame (effect : HoldEffect others db writes later written) : later.stockItems = db.stockItems ∧
    later.reservations = db.reservations ∧ later.ledger = db.ledger ∧ ∃ more, later.drawn = db.drawn ++ more := by
  cases effect with
  | inserted orderId => exact ⟨rfl, rfl, rfl, [orderId], rfl⟩
  | read | item | reservation | noted => exact ⟨rfl, rfl, rfl, [], (append_nil _).symm⟩

theorem drawn_kept {first more : List Uuid} {id : Nat} {orderId} (drawn : first[id]? = some orderId) :
    (first ++ more)[id]? = some orderId := by
  rw [List.getElem?_append_left (List.getElem?_eq_some_iff.mp drawn).1]
  exact drawn

section

variable (effect : HoldEffect others db writes later written)

include effect

theorem keeps (exact_ : db.Exact) (kept : WritesKept db writes) : WritesKept later written := by
  have seenDrawn : ∀ orderId row, seen writes.reservations db.reservations orderId = some row →
      db.drawn[row.id]? = some orderId := by
    intro orderId row sees
    rw [seen] at sees
    cases locked : writes.reservations.lookup orderId with
    | none =>
      rw [locked] at sees
      exact exact_.drawn orderId row sees
    | some version =>
      rw [locked] at sees
      exact kept.drawn orderId version row locked sees
  cases effect with
  | read => exact kept
  | noted => exact ⟨kept.items, kept.reservations, kept.drawn, kept.closes⟩
  | item key after => exact { kept with items := kept.items.write key _ }
  | reservation orderId after free changed =>
    refine ⟨kept.items, kept.reservations.write orderId after, fun other version row locked is => ?_,
      fun other version old row locked was is own closed => ?_⟩
    · rw [writeReservation, lookup_write] at locked
      by_cases same : other = orderId
      · rw [if_pos same] at locked
        cases locked
        obtain ⟨before, sees, id, _⟩ := changed row is
        rw [id, same]
        exact seenDrawn orderId before sees
      · rw [if_neg same] at locked
        exact kept.drawn other version row locked is
    · rw [writeReservation, lookup_write, kept.reservations.before] at locked
      by_cases same : other = orderId
      · rw [if_pos same] at locked
        cases locked
        obtain ⟨before, sees, id, closes⟩ := changed row is
        apply closes
        rw [seen] at sees
        cases earlier : writes.reservations.lookup orderId with
        | none =>
          rw [earlier] at sees
          cases was.symm.trans sees
          exact closed
        | some version =>
          rw [earlier] at sees
          exact kept.closes orderId version old before earlier ((kept.reservations _ _ earlier).symm.trans was) sees
            (id.symm.trans own) closed
      · rw [if_neg same] at locked
        exact kept.closes other version old row locked was is own closed
  | inserted orderId row free none drawn =>
    refine ⟨kept.items, kept.reservations.write orderId _, fun other version now locked is => ?_,
      fun other version old now locked was is own closed => ?_⟩
    · rw [writeReservation, lookup_write] at locked
      by_cases same : other = orderId
      · rw [if_pos same] at locked
        cases locked
        cases is
        rw [drawn, same]
        exact List.getElem?_concat_length
      · rw [if_neg same] at locked
        exact drawn_kept (kept.drawn other version now locked is)
    · rw [writeReservation, lookup_write, kept.reservations.before] at locked
      by_cases same : other = orderId
      · rw [if_pos same] at locked
        cases locked
        cases is
        have below := (List.getElem?_eq_some_iff.mp (exact_.drawn orderId old was)).1
        exact absurd (own.symm.trans drawn) (Nat.ne_of_lt below)
      · rw [if_neg same] at locked
        exact kept.closes other version old now locked was is own closed

theorem staysApart {other} (member : other ∈ others)
    (kept : WritesKept db other) (apart : WritesApart writes other) : WritesApart written other := by
  cases effect with
  | read => exact apart
  | noted => exact apart
  | item key after free => exact ⟨apart.1.write (free other member) _, apart.2⟩
  | reservation orderId after free => exact ⟨apart.1, apart.2.write (free other member) after⟩
  | inserted orderId row free none =>
    refine ⟨apart.1, apart.2.write ?_ _⟩
    cases locked : other.reservations.lookup orderId with
    | none => rfl
    | some version =>
      have unlocked := (apart.2 orderId).resolve_right (by rw [locked]; nofun)
      rw [seen_unlocked unlocked] at none
      have before := (kept.reservations orderId version locked).symm.trans none
      have waits := free other member
      simp [replaces, locked, before] at waits

theorem retires {id} (drawn : id < db.drawn.length)
    (committed : ∀ orderId row, db.reservations.lookup orderId = some row → row.id = id → row.status ≠ .held)
    (closed : ∀ orderId version row, writes.reservations.lookup orderId = some version → version.after = some row →
      row.id = id → row.status ≠ .held) (orderId : Uuid) (version : Version ReservationRow) (row : ReservationRow)
    (locked : written.reservations.lookup orderId = some version) (after : version.after = some row) (own : row.id = id) :
    row.status ≠ .held := by
  cases effect with
  | read => exact closed orderId version row locked after own
  | noted => exact closed orderId version row locked after own
  | item => exact closed orderId version row locked after own
  | reservation changedOrder now free changed =>
    rw [writeReservation, lookup_write] at locked
    by_cases same : orderId = changedOrder
    · rw [if_pos same] at locked
      cases locked
      obtain ⟨before, sees, kept, closes⟩ := changed row after
      apply closes
      rw [seen] at sees
      cases earlier : writes.reservations.lookup changedOrder with
      | none =>
        rw [earlier] at sees
        exact committed changedOrder before sees (kept.symm.trans own)
      | some version =>
        rw [earlier] at sees
        exact closed changedOrder version before earlier sees (kept.symm.trans own)
    · rw [if_neg same] at locked
      exact closed orderId version row locked after own
  | inserted newOrder new free none number =>
    rw [writeReservation, lookup_write] at locked
    by_cases same : orderId = newOrder
    · rw [if_pos same] at locked
      cases locked
      cases after
      exact absurd (own.symm.trans number) (Nat.ne_of_lt drawn)
    · rw [if_neg same] at locked
      exact closed orderId version row locked after own

end

end HoldEffect

theorem mem_others {other waiting} (apart : other ≠ thread)
    (running : pool.running.lookup other = some waiting) : waiting.writes ∈ pool.others thread := by
  have found : (pool.running.erase thread).lookup other = some waiting := (AList.lookup_erase_ne apart).trans running
  have listed : (⟨other, waiting⟩ : Sigma fun _ : Nat => HoldTransaction) ∈ (pool.running.erase thread).entries :=
    AList.mem_lookup_iff.mp found
  exact mem_map_of_mem (mem_map_of_mem listed)

theorem HoldsDb.Exact.drawnMore (exact_ : db.Exact) (effect : HoldEffect others db writes later written) : later.Exact := by
  obtain ⟨items, reservations, _, more, drawn⟩ := effect.frame
  constructor
  · rw [items, reservations]
    exact exact_.counted
  · intro orderId row stored
    rw [drawn]
    rw [reservations] at stored
    exact HoldEffect.drawn_kept (exact_.drawn orderId row stored)
  · rw [items, reservations]
    exact exact_.stocked

theorem WritesKept.drawnMore {other : Writes} (kept : WritesKept db other)
    (effect : HoldEffect others db writes later written) : WritesKept later other := by
  obtain ⟨items, reservations, _, more, drawn⟩ := effect.frame
  refine ⟨items ▸ kept.items, reservations ▸ kept.reservations, fun orderId version row locked after => ?_, kept.closes⟩
  rw [drawn]
  exact HoldEffect.drawn_kept (kept.drawn orderId version row locked after)

theorem Retired.ran (retired : Retired pool id) (running : pool.running.lookup thread = some ⟨program, writes⟩)
    (effect : HoldEffect (pool.others thread) pool.db writes later written) (next : HoldProgram) :
    Retired { db := later, running := pool.running.insert thread ⟨next, written⟩ } id := by
  obtain ⟨_, reservations, _, more, drawn⟩ := effect.frame
  refine ⟨?_, fun orderId row stored => ?_, fun other tx orderId version row found locked => ?_⟩
  · show id < later.drawn.length
    rw [drawn, length_append]
    exact Nat.lt_add_right _ retired.drawn
  · exact retired.committed orderId row (by rw [← reservations]; exact stored)
  · rcases of_lookup_insert found with ⟨_, rfl⟩ | ⟨_, old⟩
    · exact effect.retires retired.drawn retired.committed
        (fun orderId version row locked => retired.written thread _ orderId version row running locked) orderId version row locked
    · exact retired.written other tx orderId version row old locked

theorem PoolKept.ran (kept : PoolKept start pool) {now} {next : statement.Answer → HoldProgram} {answer : statement.Answer}
    (running : pool.running.lookup thread = some ⟨.perform statement next, writes⟩)
    (sound : HoldStatement.Sound pool.db writes statement)
    (ran : run now (pool.others thread) pool.db writes statement = .ran later written answer) :
    PoolKept start { db := later, running := pool.running.insert thread ⟨next answer, written⟩ } := by
  have effect := run_effect ran
  obtain ⟨items, reservations, ledger, more, drawn⟩ := effect.frame
  have own := kept.writes thread _ running
  have grown : ∀ id, Retired pool id →
      Retired { db := later, running := pool.running.insert thread ⟨next answer, written⟩ } id :=
    fun id retired => retired.ran running effect (next answer)
  have mine := effect.keeps kept.exact own
  have apart : ∀ other waiting, other ≠ thread → pool.running.lookup other = some waiting → WritesApart written waiting.writes :=
    fun other waiting differ found => effect.staysApart (mem_others differ found) (kept.writes other waiting found)
      (kept.apart thread other _ waiting differ.symm running found)
  refine ⟨kept.exact.drawnMore effect, ?_, fun key => ?_, ?_, fun first second one other differ found listed => ?_, ?_⟩
  · show ∃ rows, later.ledger = _ ∧ ∀ key, Recorded _ _ (worth onHandQty key (later.stockItems.lookup key))
    rw [items, ledger]
    exact kept.recorded
  · show later.stockItems.lookup key = none ↔ _
    rw [items]
    exact kept.rowless key
  · exact forall_insert mine fun other tx old => (kept.writes other tx old).drawnMore effect
  · rcases of_lookup_insert found with ⟨rfl, rfl⟩ | ⟨apartFirst, old⟩
    · rcases of_lookup_insert listed with ⟨same, _⟩ | ⟨apartSecond, two⟩
      · exact absurd same.symm differ
      · exact apart second other apartSecond two
    · rcases of_lookup_insert listed with ⟨rfl, rfl⟩ | ⟨_, two⟩
      · obtain ⟨itemsApart, reservationsApart⟩ := apart first one apartFirst old
        exact ⟨itemsApart.symm, reservationsApart.symm⟩
      · exact kept.apart first second one other differ old two
  · refine forall_insert ?_ fun other tx old => (kept.safe other tx old).mono grown
    have safe := kept.safe thread _ running now (pool.others thread) pool.db later answer written (Retired pool)
      (fun _ => id) (kept.view running) sound ran
    exact HoldsSafe.mono safe grown

theorem stored_commit (found : (db.commit writes).reservations.lookup orderId = some row) :
    (∃ version, writes.reservations.lookup orderId = some version ∧ version.after = some row) ∨
      db.reservations.lookup orderId = some row := by
  have sees : seen writes.reservations db.reservations orderId = some row := (lookup_apply ..).symm.trans found
  rw [seen] at sees
  cases locked : writes.reservations.lookup orderId with
  | none =>
    rw [locked] at sees
    exact .inr sees
  | some version =>
    rw [locked] at sees
    exact .inl ⟨version, rfl, sees⟩

theorem Retired.commit (retired : Retired pool id) (running : pool.running.lookup thread = some ⟨program, writes⟩) :
    Retired { db := pool.db.commit writes, running := pool.running.erase thread } id := by
  refine ⟨retired.drawn, fun orderId row found own => ?_,
    fun other waiting orderId version row found => retired.written other waiting orderId version row (of_lookup_erase found).2⟩
  rcases stored_commit found with ⟨version, locked, after⟩ | old
  · exact retired.written thread _ orderId version row running locked after own
  · exact retired.committed orderId row old own

section

variable (kept : PoolKept start pool)
include kept

theorem PoolKept.rowless_commit {pending}
    (whole : Midway start.Rowless writes pending []) (key : LegacyKey) :
    (pool.db.commit writes).stockItems.lookup key = none ↔ start.Rowless key := by
  have sees : (pool.db.commit writes).stockItems.lookup key = seen writes.stockItems pool.db.stockItems key := lookup_apply ..
  rw [sees, seen]
  cases locked : writes.stockItems.lookup key with
  | none => exact kept.rowless key
  | some version =>
    obtain ⟨known, present⟩ := whole.known key version locked
    exact iff_of_false present known

theorem PoolKept.exact_commit (own : WritesKept pool.db writes)
    (whole : Midway start.Rowless writes (fun _ => 0) []) : (pool.db.commit writes).Exact := by
  refine ⟨fun key => ?_, fun orderId row found => ?_, fun orderId row found line member nowhere => ?_⟩
  · show worth reservedQty key ((apply writes.stockItems pool.db.stockItems).lookup key) =
      sumBy (heldOn key) (apply writes.reservations pool.db.reservations)
    rw [lookup_apply, worth_seen reservedQty own.items, sumBy_apply (heldOn key) own.reservations, kept.exact.counted,
      whole.counted, Int.add_zero]
  · rcases stored_commit found with ⟨version, locked, after⟩ | old
    · exact own.drawn orderId version row locked after
    · exact kept.exact.drawn orderId row old
  · have missing := (kept.rowless_commit whole _).mp nowhere
    rcases stored_commit found with ⟨version, locked, after⟩ | old
    · exact whole.stocked orderId version row locked after line member missing
    · exact kept.exact.stocked orderId row old line member ((kept.rowless _).mpr missing)

theorem PoolKept.recorded_commit (own : WritesKept pool.db writes)
    (whole : Midway start.Rowless writes (fun _ => 0) []) (key : LegacyKey) :
    Recorded (worth onHandQty key (pool.db.stockItems.lookup key)) (ledgerOf writes.ledger key)
      (worth onHandQty key ((pool.db.commit writes).stockItems.lookup key)) := by
  have sees : (pool.db.commit writes).stockItems.lookup key = seen writes.stockItems pool.db.stockItems key := lookup_apply ..
  have follows := whole.follows key
  rw [append_nil] at follows
  rw [sees, seen]
  cases follows with
  | locked version locked moved =>
    rw [locked, own.items key version locked]
    exact moved
  | untouched free none =>
    rw [free, none]
    exact rfl
  | missing free nowhere moved =>
    rw [free, (kept.rowless key).mpr nowhere]
    exact moved

theorem PoolKept.commit (running : pool.running.lookup thread = some ⟨.done (.ok reply), writes⟩) :
    PoolKept start { db := pool.db.commit writes, running := pool.running.erase thread } := by
  have own := kept.writes thread _ running
  have whole : Midway start.Rowless writes (fun _ => 0) [] := kept.safe thread _ running reply rfl
  refine ⟨kept.exact_commit own whole, ?_, kept.rowless_commit whole, fun other waiting found => ?_,
    fun first second one other differ found listed => ?_, fun other waiting found => ?_⟩
  · obtain ⟨rows, ledger, recorded⟩ := kept.recorded
    refine ⟨rows ++ writes.ledger, ?_, fun key => ?_⟩
    · show pool.db.ledger ++ writes.ledger = _
      rw [ledger, append_assoc]
    · rw [ledgerOf_append]
      exact (recorded key).append (kept.recorded_commit own whole key)
  · obtain ⟨differ, old⟩ := of_lookup_erase found
    have waits := kept.writes other waiting old
    obtain ⟨items, reservations⟩ := kept.apart thread other _ _ differ.symm running old
    exact ⟨waits.items.apply items, waits.reservations.apply reservations, waits.drawn, waits.closes⟩
  · exact kept.apart first second one other differ (of_lookup_erase found).2 (of_lookup_erase listed).2
  · exact (kept.safe other waiting (of_lookup_erase found).2).mono fun id retired => retired.commit running

theorem PoolKept.lawful (running : pool.running.lookup thread = some ⟨.done (.ok reply), writes⟩)
    (stored : pool.db.reservations.lookup orderId = some row) :
    Lawful ⟨some row, (pool.db.commit writes).reservations.lookup orderId⟩ := by
  have whole : Midway start.Rowless writes (fun _ => 0) [] := kept.safe thread _ running reply rfl
  have sees : (pool.db.commit writes).reservations.lookup orderId = seen writes.reservations pool.db.reservations orderId :=
    lookup_apply ..
  rw [sees, seen]
  cases locked : writes.reservations.lookup orderId with
  | none =>
    rintro _ ⟨⟩
    exact ⟨fun _ => stored, fun _ => ⟨row, stored, rfl⟩⟩
  | some version =>
    have before := ((kept.writes thread _ running).reservations orderId version locked).symm.trans stored
    have law := whole.lawful orderId version locked
    rintro _ ⟨⟩
    exact law row before

end

def HoldTransaction.Sound (db : HoldsDb) : HoldTransaction → Prop
  | ⟨.perform statement _, writes⟩ => HoldStatement.Sound db writes statement
  | ⟨.done _, _⟩ => True

def KeepsBooks (pool : HoldPool) : HoldInput → Prop
  | .advance thread _ => ∀ tx ∈ pool.running.lookup thread, tx.Sound pool.db
  | .begin .. | .abort _ => True

theorem Lawful.refl (stored : Option ReservationRow) : Lawful ⟨stored, stored⟩ :=
  fun row is => ⟨fun _ => is, fun _ => ⟨row, is, rfl⟩⟩

/-- What a step does: the books are kept, what is retired stays so, and no hold changes but as it may. -/
structure HoldStepKept (start : HoldsDb) (pool after : HoldPool) : Prop where
  kept : PoolKept start after
  retired : ∀ id, Retired pool id → Retired after id
  lawful : ∀ orderId row, pool.db.reservations.lookup orderId = some row →
    Lawful ⟨some row, after.db.reservations.lookup orderId⟩

theorem HoldStepKept.of_same {after} (kept : PoolKept start after) (retired : ∀ id, Retired pool id → Retired after id)
    (same : after.db.reservations = pool.db.reservations) : HoldStepKept start pool after := by
  refine ⟨kept, retired, fun orderId row stored => ?_⟩
  rw [same, ← stored]
  exact Lawful.refl _

theorem holdStep_kept (kept : PoolKept start pool) (input : HoldInput) (books : KeepsBooks pool input) :
    HoldStepKept start pool (holdStep pool input) := by
  cases input with
  | begin thread call =>
    rw [holdStep]
    split
    · exact .of_same kept (fun _ => id) rfl
    · exact .of_same (kept.begin thread call) (fun id retired => retired.begin thread call) rfl
  | abort thread => exact .of_same (kept.drop thread) (fun id retired => retired.drop thread) rfl
  | advance thread now =>
    rw [holdStep]
    cases running : pool.running.lookup thread with
    | none => exact .of_same kept (fun _ => id) rfl
    | some tx =>
      obtain ⟨program, writes⟩ := tx
      cases program with
      | done result =>
        cases result with
        | error failure => exact .of_same (kept.drop thread) (fun id retired => retired.drop thread) rfl
        | ok reply => exact ⟨kept.commit running, fun id retired => retired.commit running, fun orderId row => kept.lawful running⟩
      | perform statement next =>
        have sound : HoldStatement.Sound pool.db writes statement := books _ running
        show HoldStepKept start pool (HoldPool.advance pool thread now ⟨.perform statement next, writes⟩)
        rw [HoldPool.advance]
        dsimp only
        cases ran : HoldStatement.run now (pool.others thread) pool.db writes statement with
        | waits => exact .of_same kept (fun _ => id) rfl
        | fails => exact .of_same (kept.drop thread) (fun id retired => retired.drop thread) rfl
        | ran later written answer =>
          have effect := run_effect ran
          exact .of_same (kept.ran running sound ran) (fun id retired => retired.ran running effect _) effect.frame.2.1

def holdsAfter (start : HoldsDb) (inputs : List HoldInput) : HoldPool := after holdStep { db := start } inputs

/-- Holds are exact after a run from `start`: what is reserved is held, and no more than is on hand; a hold leaves its status
once and keeps its row until then, a committed hold stays; and the ledger's rows, each with the balance after it, lead from the
stock at the start to the stock now. -/
structure HoldsExact (start : HoldsDb) (inputs : List HoldInput) : Prop where
  reserved : ∀ key, worth reservedQty key ((holdsAfter start inputs).db.stockItems.lookup key) =
    sumBy (heldOn key) (holdsAfter start inputs).db.reservations
  legal : ∀ key item, (holdsAfter start inputs).db.stockItems.lookup key = some item →
    0 ≤ item.1.quantityReserved ∧ item.1.quantityReserved ≤ item.1.quantityOnHand
  left : ∀ earlier later, inputs = earlier ++ later → ∀ orderId row,
    (holdsAfter start earlier).db.reservations.lookup orderId = some row → row.status ≠ .held →
    ∀ other now, (holdsAfter start inputs).db.reservations.lookup other = some now → now.id = row.id → now.status ≠ .held
  stays : ∀ earlier input, inputs = earlier ++ [input] → ∀ orderId row,
    (holdsAfter start earlier).db.reservations.lookup orderId = some row → row.status = .held →
    ∃ now, (holdsAfter start inputs).db.reservations.lookup orderId = some now ∧ now.id = row.id
  committed : ∀ earlier later, inputs = earlier ++ later → ∀ orderId row,
    (holdsAfter start earlier).db.reservations.lookup orderId = some row → row.status = .committed →
    (holdsAfter start inputs).db.reservations.lookup orderId = some row
  ledger : ∃ rows, (holdsAfter start inputs).db.ledger = start.ledger ++ rows ∧ ∀ key,
    Recorded (worth onHandQty key (start.stockItems.lookup key)) (ledgerOf rows key)
      (worth onHandQty key ((holdsAfter start inputs).db.stockItems.lookup key))

theorem PoolKept.idle (exact_ : start.Exact) : PoolKept start { db := start } := by
  refine ⟨exact_, ⟨[], (append_nil _).symm, fun key => rfl⟩, fun key => Iff.rfl, ?_, ?_, ?_⟩
  · nofun
  · nofun
  · nofun

theorem holdsAfter_append (start : HoldsDb) (earlier later : List HoldInput) :
    holdsAfter start (earlier ++ later) = after holdStep (holdsAfter start earlier) later := after_append _ _ _

/-- Holds are exact after every run in which no late sale is noted short of stock that others hold, and no order that
tries again deletes a hold that is committed by then. -/
theorem holds_exact (start : HoldsDb) (exact_ : start.Exact) (inputs : List HoldInput)
    (met : Meets holdStep KeepsBooks { db := start } inputs) : HoldsExact start inputs := by
  have steps : ∀ pool input, KeepsBooks pool input → PoolKept start pool → PoolKept start (holdStep pool input) :=
    fun pool input books kept => (holdStep_kept kept input books).kept
  have keptAfter : ∀ {earlier later}, inputs = earlier ++ later → PoolKept start (holdsAfter start earlier) ∧
      Meets holdStep KeepsBooks (holdsAfter start earlier) later := by
    rintro earlier later rfl
    obtain ⟨first, second⟩ := meets_append.mp met
    exact ⟨invariant_of_meets (PoolKept start) steps first (.idle exact_), second⟩
  have kept := (keptAfter (append_nil inputs).symm).1
  refine ⟨kept.exact.counted, fun key item _ => item.2, ?_, ?_, ?_, kept.recorded⟩
  · intro earlier later whole orderId row stored closed other now found own
    obtain ⟨before, rest⟩ := keptAfter whole
    have retired : PoolKept start (holdsAfter start inputs) ∧ Retired (holdsAfter start inputs) row.id := by
      rw [whole, holdsAfter_append]
      refine invariant_of_meets (fun pool => PoolKept start pool ∧ Retired pool row.id) ?_ rest
        ⟨before, before.retired stored closed⟩
      intro pool input books held
      have step := holdStep_kept held.1 input books
      exact ⟨step.kept, step.retired _ held.2⟩
    exact retired.2.committed other now found own
  · rintro earlier input rfl orderId row stored held
    obtain ⟨before, books, _⟩ := keptAfter rfl
    have law := (holdStep_kept before input books).lawful orderId row stored row rfl
    rw [holdsAfter_append]
    exact law.2 held
  · intro earlier later whole orderId row stored committed
    obtain ⟨before, rest⟩ := keptAfter whole
    have stays : PoolKept start (holdsAfter start inputs) ∧
        (holdsAfter start inputs).db.reservations.lookup orderId = some row := by
      rw [whole, holdsAfter_append]
      refine invariant_of_meets (fun pool => PoolKept start pool ∧ pool.db.reservations.lookup orderId = some row) ?_ rest
        ⟨before, stored⟩
      intro pool input books held
      have step := holdStep_kept held.1 input books
      exact ⟨step.kept, (step.lawful orderId row held.2 row rfl).1 committed⟩
    exact stays.2

instance HoldStatement.decidableSound (db : HoldsDb) (writes : Writes) :
    ∀ statement, Decidable (HoldStatement.Sound db writes statement)
  | .deleteReservation orderId id =>
    inferInstanceAs (Decidable (∀ row ∈ writes.reservation db orderId id, row.status ≠ .committed))
  | .insertLedger row => inferInstanceAs (Decidable (row.refType = .saleShortfall →
      ∀ item ∈ writes.item db ⟨row.branchId, row.sku⟩, item.1.quantityReserved = 0))
  | .insertReservation .. | .findByOrder _ | .lockReservation .. | .lockDue .. | .insertItem .. | .setStatus ..
  | .holdStock .. | .available _ | .lockFree _ | .moveStock .. => isTrue trivial

instance (db : HoldsDb) : ∀ tx : HoldTransaction, Decidable (tx.Sound db)
  | ⟨.perform statement _, writes⟩ => HoldStatement.decidableSound db writes statement
  | ⟨.done _, _⟩ => isTrue trivial

instance (pool : HoldPool) : ∀ input, Decidable (KeepsBooks pool input)
  | .begin .. | .abort _ => isTrue trivial
  | .advance thread _ =>
    inferInstanceAs (Decidable (∀ tx ∈ pool.running.lookup thread, tx.Sound pool.db))

private def riceStock : HoldsDb where
  stockItems := (∅ : Table LegacyKey LegalItem).insert ⟨1, "RICE"⟩ ⟨⟨5, 0⟩, by decide⟩

private theorem riceStock_exact : riceStock.Exact := by
  refine ⟨fun key => ?_, nofun, nofun⟩
  rw [riceStock, lookup_insert_if]
  split <;> rfl

private def reserveRice : List HoldInput :=
  .begin 0 (.reserve ⟨7, 1, [⟨"RICE", 3⟩]⟩ 30) :: replicate 5 (.advance 0 0)

/-- The order that held bags is completed, statement by statement with the expiry of its hold. -/
private def completeRice : List HoldInput :=
  .begin 0 (.commit ⟨7, 1, [⟨"RICE", 3⟩]⟩) :: .begin 1 (.expire 7 0) :: .advance 0 40 :: .advance 0 40 :: .advance 1 40 ::
    replicate 4 (.advance 0 40) ++ [.advance 1 40]

theorem rice_sold_exactly : HoldsExact riceStock (reserveRice ++ completeRice) :=
  holds_exact riceStock riceStock_exact (reserveRice ++ completeRice) (by decide +kernel)

/-- An order without a hold is completed for five bags while three are held: the row that notes what is short shows two
bags on hand, and there are five. -/
private def sellShort : List HoldInput :=
  .begin 0 (.commit ⟨8, 1, [⟨"RICE", 5⟩]⟩) :: replicate 6 (.advance 0 0)

theorem shortfall_breaks_ledger : ¬∀ start : HoldsDb, start.Exact → ∀ inputs, HoldsExact start inputs := by
  intro always
  obtain ⟨rows, ledger, recorded⟩ := (always riceStock riceStock_exact (reserveRice ++ sellShort)).ledger
  have broken : ¬Recorded 5 (ledgerOf (holdsAfter riceStock (reserveRice ++ sellShort)).db.ledger ⟨1, "RICE"⟩)
      (worth onHandQty ⟨1, "RICE"⟩ ((holdsAfter riceStock (reserveRice ++ sellShort)).db.stockItems.lookup ⟨1, "RICE"⟩)) := by
    decide +kernel
  rw [ledger] at broken
  exact broken (recorded ⟨1, "RICE"⟩)

end Inventory
