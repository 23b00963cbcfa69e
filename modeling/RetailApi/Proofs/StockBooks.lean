import Mathlib.Algebra.BigOperators.Pi
import RetailApi.Base.Chain
import RetailApi.Inventory.Operations

/-! What stock statements do to the books. Quantities are read off the store as one
vector of measures, and the effect of any group of statements is the vector it adds. -/

namespace Inventory

open Transaction Chain Store LedgerRow List

inductive Measure where
  | onHand (key : Key)
  | reserved (key : Key)
  | inTransit (key : Key)
  /-- Units of a transfer line written off as `TRANSFER_LOSS`. -/
  | lost (transferId skuId : Uuid)
deriving DecidableEq

def LedgerRow.writtenOff (row : LedgerRow) (transferId skuId : Uuid) : Int :=
  if row.movementType = .transferLoss ∧ row.referenceType = .stockTransfer ∧ row.referenceId = transferId ∧
      row.key.skuId = skuId then -row.qtyDelta
  else 0

def Store.lostQty (store : Store) (transferId skuId : Uuid) : Int :=
  (store.ledger.map fun row => row.writtenOff transferId skuId).sum

def Store.measure (store : Store) : Measure → Int
  | .onHand key => store.onHandQty key
  | .reserved key => store.reservedQty key
  | .inTransit key => store.inTransitQty key
  | .lost transferId skuId => store.lostQty transferId skuId

abbrev Change := Measure → Int

def Change.row (key : Key) (onHand reserved inTransit : Int) : Change
  | .onHand other => if key = other then onHand else 0
  | .reserved other => if key = other then reserved else 0
  | .inTransit other => if key = other then inTransit else 0
  | .lost _ _ => 0

def Change.loss (transferId skuId : Uuid) (qty : Int) : Change
  | .lost otherTransfer otherSku => if otherTransfer = transferId ∧ otherSku = skuId then qty else 0
  | _ => 0

/-- The ledger is a chain ending at the balance, and every row is valued at its average cost. -/
structure Books (store : Store) : Prop where
  chained : ∀ key, Linked qtyDelta onHandAfter 0 (store.entriesOf key) (store.onHandQty key)
  valued : ∀ key, (store.balance key).valuationAmount =
    valueOf (store.balance key).onHandQty (store.balance key).avgUnitCost

/-- Statements that keep the books and add `change` to the quantities. -/
structure Moved (before after : Store) (change : Change) : Prop where
  books : Books before → Books after
  measure : after.measure = before.measure + change

structure Effect (before after : Store) (change : Change) : Prop extends Moved before after change where
  records : after.toRecords = before.toRecords

theorem Moved.refl (store : Store) : Moved store store 0 :=
  ⟨id, (add_zero _).symm⟩

variable {before middle after : Store} {first second change : Change}

theorem Moved.trans (left : Moved before middle first)
    (right : Moved middle after second) : Moved before after (first + second) := by
  refine ⟨fun books => right.books (left.books books), ?_⟩
  rw [right.measure, left.measure, add_assoc]

theorem Moved.apply (moved : Moved before after change) (measure : Measure) :
    after.measure measure = before.measure measure + change measure :=
  congrFun moved.measure measure

section Framing

variable {first second : Store} (balances : second.balances = first.balances) (ledger : second.ledger = first.ledger)
include balances

theorem balance_inStore (key : Key) : second.balance key = first.balance key := by
  simp only [balance, balances]

include ledger

theorem Books.inStore (books : Books first) : Books second := by
  constructor
  · intro key
    rw [entriesOf, ledger, onHandQty, balance_inStore balances]
    exact books.chained key
  · intro key
    rw [balance_inStore balances]
    exact books.valued key

theorem measure_inStore : second.measure = first.measure := by
  funext measure
  cases measure <;>
    simp only [Store.measure, Store.onHandQty, Store.reservedQty, Store.inTransitQty, Store.lostQty,
      balance_inStore balances, ledger]

end Framing

theorem Moved.inStore (moved : Moved before middle change)
    (balances : after.balances = middle.balances) (ledger : after.ledger = middle.ledger) : Moved before after change :=
  ⟨fun books => (moved.books books).inStore balances ledger, (measure_inStore balances ledger).trans moved.measure⟩

theorem Moved.ofStore (moved : Moved middle after change)
    (balances : middle.balances = before.balances) (ledger : middle.ledger = before.ledger) : Moved before after change :=
  ⟨fun books => moved.books (books.inStore balances ledger),
    by rw [moved.measure, measure_inStore balances ledger]⟩

theorem Effect.refl (store : Store) : Effect store store 0 :=
  ⟨Moved.refl store, rfl⟩

theorem Effect.trans (left : Effect before middle first)
    (right : Effect middle after second) : Effect before after (first + second) :=
  ⟨left.toMoved.trans right.toMoved, right.records.trans left.records⟩

theorem Effect.of_eq {other} (effect : Effect before after change) (same : change = other) : Effect before after other :=
  same ▸ effect

theorem Effect.loop_apart {α : Type} {step : Store → α → Except Failure Store} (change : α → Change)
    (touched : α → Set Key) {items} (each : ∀ finished item rest middle next, items = finished ++ item :: rest →
      Effect before middle (finished.map change).sum →
      (∀ key, (∀ other ∈ finished, key ∉ touched other) → middle.balance key = before.balance key) → step middle item = .ok next →
      Effect middle next (change item) ∧ ∀ key, key ∉ touched item → next.balance key = middle.balance key)
    (ran : items.foldlM step before = .ok after) : Effect before after (items.map change).sum := by
  suffices linked : Effect before after (items.map change).sum ∧
      ∀ key, (∀ other ∈ items, key ∉ touched other) → after.balance key = before.balance key from linked.1
  refine foldlM_links (fun finished middle => Effect before middle (finished.map change).sum ∧
    ∀ key, (∀ other ∈ finished, key ∉ touched other) → middle.balance key = before.balance key)
    ⟨Effect.refl before, fun _ _ => rfl⟩ ?_ ran
  intro finished item rest middle next split linked stepped
  obtain ⟨effect, apart⟩ := each finished item rest middle next split linked.1 linked.2 stepped
  refine ⟨(linked.1.trans effect).of_eq (by simp), fun key untouched => ?_⟩
  rw [apart key (untouched item (by simp)), linked.2 key fun other member => untouched other (by simp [member])]

theorem Effect.loop {α : Type} {step : Store → α → Except Failure Store} (change : α → Change) {items}
    (each : ∀ finished item rest middle next, items = finished ++ item :: rest →
      Effect before middle (finished.map change).sum → step middle item = .ok next → Effect middle next (change item))
    (ran : items.foldlM step before = .ok after) : Effect before after (items.map change).sum :=
  Effect.loop_apart change (fun _ => Set.univ)
    (fun finished item rest middle next split linked _ stepped =>
      ⟨each finished item rest middle next split linked stepped, fun key outside => absurd (Set.mem_univ key) outside⟩)
    ran

@[simp] theorem sum_changes_apply {α : Type} (items : List α) (change : α → Change) (measure : Measure) :
    (items.map change).sum measure = (items.map fun item => change item measure).sum := by
  induction items with
  | nil => rfl
  | cons item items inner => simp [inner]

/-- One balance row is set to `balance` and ledger rows are appended. -/
structure Posting (before after : Store) (key : Key) (balance : Balance) (rows : List LedgerRow) : Prop where
  balance : ∀ other, after.balance other = if other = key then balance else before.balance other
  ledger : after.ledger = before.ledger ++ rows
  records : after.toRecords = before.toRecords

section Statements

variable {before after store : Store} {key : Key}

theorem balance_insert (key other : Key) (row : BalanceRow) :
    ({ store with balances := store.balances.insert key row } : Store).balance other =
      if other = key then row.1 else store.balance other := by
  unfold balance
  rw [Table.lookup_insert_if]
  by_cases same : other = key <;> simp [same]

theorem present_of_balance (filled : store.balance key ≠ {}) : ∃ row, store.balances.lookup key = some row := by
  unfold balance at filled
  split at filled
  · next row found => exact ⟨row, found⟩
  · exact absurd rfl filled

theorem balance_of_lookup {row} (found : store.balances.lookup key = some row) : store.balance key = row.1 := by
  unfold balance
  rw [found]

theorem balance_legal (store : Store) (key : Key) : (store.balance key).Legal := by
  unfold balance
  split
  · next row _ => exact row.2
  · simp [Balance.Legal, numericLimit]

theorem Posting.unchanged (store : Store) (key : Key) : Posting store store key (store.balance key) [] := by
  refine ⟨fun other => ?_, by simp, rfl⟩
  split
  · next same => rw [same]
  · rfl

variable {balance : Balance} {change : Balance → Balance} {guard : Balance → Bool} {rows : List LedgerRow}

theorem writeBalance_posts (written : store.writeBalance key balance = .ok after) : Posting store after key balance [] := by
  unfold writeBalance at written
  split at written
  · cases written
    exact ⟨fun other => balance_insert key other _, by simp, rfl⟩
  · cases written

theorem upsertBalance_posts {fresh} (written : store.upsertBalance key fresh change = .ok after)
    (agree : store.balance key = {} → ∀ version, { fresh with version } = { change {} with version }) :
    ∃ version, Posting store after key { change (store.balance key) with version } [] := by
  unfold upsertBalance at written
  split at written
  · next absent =>
    have empty : store.balance key = {} := by
      unfold balance
      rw [absent]
    refine ⟨fresh.version, ?_⟩
    rw [empty, ← agree empty fresh.version]
    exact writeBalance_posts written
  · next row found =>
    refine ⟨row.1.version + 1, ?_⟩
    rw [balance_of_lookup found]
    exact writeBalance_posts written

theorem updateBalance_posts (written : store.updateBalance key guard change = .ok after)
    (filled : store.balance key ≠ {}) (guarded : guard (store.balance key) = true) :
    ∃ version, Posting store after key { change (store.balance key) with version } [] := by
  obtain ⟨row, found⟩ := present_of_balance filled
  have same := balance_of_lookup found
  unfold updateBalance at written
  rw [found] at written
  simp only [← same, guarded, if_true] at written
  exact ⟨_, writeBalance_posts written⟩

theorem updateBalance_cases (written : store.updateBalance key guard change = .ok after) :
    Posting store after key (store.balance key) [] ∨
      ∃ version, Posting store after key { change (store.balance key) with version } [] := by
  unfold updateBalance at written
  split at written
  · cases written
    exact .inl (Posting.unchanged _ key)
  · next row found =>
    split at written
    · refine .inr ⟨row.1.version + 1, ?_⟩
      rw [balance_of_lookup found]
      exact writeBalance_posts written
    · cases written
      exact .inl (Posting.unchanged _ key)

theorem updateBalanceReturning_posts {updated} (written : store.updateBalanceReturning key guard change = .ok (after, updated)) :
    guard (store.balance key) = true ∧ ∃ version,
      updated = { change (store.balance key) with version } ∧ Posting store after key updated [] := by
  simp only [updateBalanceReturning, eq_ok, Prod.mk.injEq] at written
  obtain ⟨row, found, _, guarded, middle, changed, rfl, rfl⟩ := written
  have same := balance_of_lookup found
  unfold updateBalance at changed
  rw [found] at changed
  simp only [guarded, if_true] at changed
  have posted := writeBalance_posts changed
  have read : middle.balance key = { change row.1 with version := row.1.version + 1 } := by
    rw [posted.balance key, if_pos rfl]
  rw [same]
  refine ⟨guarded, row.1.version + 1, read, ?_⟩
  rw [read]
  exact posted

section

variable (posted : Posting before store key balance rows)

include posted

theorem recordMovement_posts {row} (recorded : store.recordMovement row = .ok after) :
    Posting before after key balance (rows ++ [row]) := by
  simp only [recordMovement, insertLedger, eq_ok] at recorded
  obtain ⟨_, ⟨_, _, rfl⟩, rfl⟩ := recorded
  refine ⟨posted.balance, ?_, posted.records⟩
  simp [emit, posted.ledger]

theorem insertLedger_posts {row} (inserted : store.insertLedger row = .ok after) :
    Posting before after key balance (rows ++ [row]) := by
  simp only [insertLedger, eq_ok] at inserted
  obtain ⟨_, _, rfl⟩ := inserted
  exact ⟨posted.balance, by simp [posted.ledger], posted.records⟩

theorem Posting.emit (event : Event) : Posting before (store.emit event) key balance rows :=
  ⟨posted.balance, posted.ledger, posted.records⟩

theorem Posting.belowMin (other : Key) (availableBefore availableAfter : Int) :
    Posting before (store.emitBelowMinOnCrossing other availableBefore availableAfter) key balance rows := by
  unfold emitBelowMinOnCrossing
  split
  · exact posted
  split
  · exact posted
  split
  · exact posted.emit _
  · exact posted

end

theorem Posting.andThen {middle first second earlier later}
    (left : Posting before middle key first earlier) (right : Posting middle after key second later) :
    Posting before after key second (earlier ++ later) := by
  refine ⟨fun other => ?_, by rw [right.ledger, left.ledger, append_assoc], right.records.trans left.records⟩
  rw [right.balance other, left.balance other]
  split <;> rfl

theorem Posting.recordedLate {first second other written row}
    (posted : Posting before first key balance []) (next : Posting first second other written [])
    (recorded : second.recordMovement row = .ok after) :
    ∃ middle, Posting before middle key balance [row] ∧ Posting middle after other written [] := by
  have last := recordMovement_posts next recorded
  refine ⟨{ first with ledger := first.ledger ++ [row] }, ⟨posted.balance, ?_, posted.records⟩, last.balance, ?_,
    last.records⟩
  · rw [posted.ledger, append_nil]
  · rw [last.ledger, nil_append, append_nil]

end Statements

section Effects

variable {before after : Store} {key : Key} {balance : Balance} {rows : List LedgerRow}

private theorem entriesOf_append (ledger : after.ledger = before.ledger ++ rows)
    (own : ∀ row ∈ rows, row.key = key) (other : Key) :
    after.entriesOf other = before.entriesOf other ++ (if other = key then rows else []) := by
  unfold entriesOf
  rw [ledger, filter_append]
  congr 1
  split
  · next same =>
    rw [filter_eq_self]
    intro row member
    simp [own row member, same]
  · next different =>
    rw [filter_eq_nil_iff]
    intro row member
    simp [own row member, Ne.symm different]

theorem Posting.books (posted : Posting before after key balance rows) (own : ∀ row ∈ rows, row.key = key)
    (linked : Linked qtyDelta onHandAfter (before.onHandQty key) rows balance.onHandQty)
    (valued : Books before → balance.valuationAmount = valueOf balance.onHandQty balance.avgUnitCost)
    (books : Books before) : Books after := by
  constructor
  · intro other
    rw [entriesOf_append posted.ledger own other, onHandQty, posted.balance other]
    split
    · next same =>
      subst same
      exact (books.chained other).append linked
    · rw [append_nil]
      exact books.chained other
  · intro other
    rw [posted.balance other]
    split
    · exact valued books
    · exact books.valued other

open Change

theorem Posting.measure (posted : Posting before after key balance rows) :
    after.measure = before.measure +
      (row key (balance.onHandQty - before.onHandQty key) (balance.reservedQty - before.reservedQty key)
        (balance.inTransitQty - before.inTransitQty key) +
      fun measure => match measure with
        | .lost transferId skuId => (rows.map fun row => row.writtenOff transferId skuId).sum
        | _ => 0) := by
  funext measure
  cases measure with
  | onHand other =>
    simp only [Store.measure, Store.onHandQty, Pi.add_apply, row, posted.balance other, eq_comm (a := key)]
    split
    · next same => subst same; omega
    · omega
  | reserved other =>
    simp only [Store.measure, Store.reservedQty, Pi.add_apply, row, posted.balance other, eq_comm (a := key)]
    split
    · next same => subst same; omega
    · omega
  | inTransit other =>
    simp only [Store.measure, Store.inTransitQty, Pi.add_apply, row, posted.balance other, eq_comm (a := key)]
    split
    · next same => subst same; omega
    · omega
  | lost transferId skuId =>
    simp only [Store.measure, Store.lostQty, Pi.add_apply, row, posted.ledger, map_append, sum_append]
    omega

theorem Posting.effect (posted : Posting before after key balance rows) {onHand reserved inTransit}
    (own : ∀ row ∈ rows, row.key = key ∧ row.movementType ≠ .transferLoss)
    (linked : Linked qtyDelta onHandAfter (before.onHandQty key) rows balance.onHandQty)
    (valued : Books before → balance.valuationAmount = valueOf balance.onHandQty balance.avgUnitCost)
    (onHandMoved : balance.onHandQty = before.onHandQty key + onHand)
    (reservedMoved : balance.reservedQty = before.reservedQty key + reserved)
    (inTransitMoved : balance.inTransitQty = before.inTransitQty key + inTransit) :
    Effect before after (row key onHand reserved inTransit) := by
  refine ⟨⟨posted.books (fun row member => (own row member).1) linked valued, ?_⟩, posted.records⟩
  have nothing : ∀ transferId skuId, (rows.map fun row => row.writtenOff transferId skuId).sum = 0 := by
    intro transferId skuId
    refine sum_eq_zero (forall_mem_map.mpr fun row inside => ?_)
    simp [writtenOff, (own row inside).2]
  rw [posted.measure, onHandMoved, reservedMoved, inTransitMoved]
  congr 1
  funext measure
  cases measure <;> simp [row, nothing]

theorem Posting.quiet (posted : Posting before after key balance []) {reserved inTransit}
    (sameOnHand : balance.onHandQty = (before.balance key).onHandQty)
    (sameCost : balance.avgUnitCost = (before.balance key).avgUnitCost)
    (sameValue : balance.valuationAmount = (before.balance key).valuationAmount)
    (reservedMoved : balance.reservedQty = before.reservedQty key + reserved)
    (inTransitMoved : balance.inTransitQty = before.inTransitQty key + inTransit) :
    Effect before after (row key 0 reserved inTransit) := by
  refine posted.effect (by simp) ?_ ?_ ?_ reservedMoved inTransitMoved
  · exact sameOnHand.symm
  · intro books
    rw [sameValue, sameOnHand, sameCost]
    exact books.valued key
  · rw [sameOnHand, onHandQty, add_zero]

end Effects

end Inventory
