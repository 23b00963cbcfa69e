import RetailApi.Inventory.Holds
import RetailApi.Proofs.SoldStock

/-! What the transactions of the older stock store write. Whatever others commit between its statements, a transaction
that succeeds moves the reserved quantities by what it moves the held lines, and its ledger rows follow the stock. -/

namespace Inventory

open Process RowLocks HoldStatement Option List Int

def quantityOf (lines : List SkuLine) (sku : String) : Int := ((lines.filter (·.sku = sku)).map (·.quantity)).sum

def linesOn (branchId : Uuid) (lines : List SkuLine) (key : LegacyKey) : Int :=
  if branchId = key.branchId then quantityOf lines key.sku else 0

def heldOn (key : LegacyKey) (_ : Uuid) (row : ReservationRow) : Int :=
  if row.status = .held then linesOn row.branchId row.items key else 0

def reservedQty (_ : LegacyKey) (item : LegalItem) : Int := item.1.quantityReserved

def onHandQty (_ : LegacyKey) (item : LegalItem) : Int := item.1.quantityOnHand

def ledgerOf (rows : List InventoryLedgerRow) (key : LegacyKey) : List InventoryLedgerRow :=
  rows.filter fun row => row.branchId = key.branchId ∧ row.sku = key.sku

/-- Ledger rows that take the stock on hand from `start` to `finish`. -/
abbrev Recorded (start : Int) (rows : List InventoryLedgerRow) (finish : Int) : Prop :=
  Chain.Linked (·.changeQty) (·.balanceAfter) start rows finish

theorem linesOn_nil (branchId : Uuid) (key : LegacyKey) : linesOn branchId [] key = 0 := ite_self 0

theorem linesOn_cons (branchId : Uuid) (line : SkuLine) (lines : List SkuLine) (key : LegacyKey) :
    linesOn branchId (line :: lines) key =
      (if key = ⟨branchId, line.sku⟩ then line.quantity else 0) + linesOn branchId lines key := by
  obtain ⟨branch, sku⟩ := key
  by_cases here : branchId = branch
  · subst here
    by_cases same : line.sku = sku
    · subst same
      simp [linesOn, quantityOf]
    · have apart : ¬sku = line.sku := fun other => same other.symm
      simp [linesOn, quantityOf, same, apart]
  · have apart : ¬branch = branchId := fun other => here other.symm
    simp [linesOn, here, apart]

theorem linesOn_append (branchId : Uuid) (first second : List SkuLine) (key : LegacyKey) :
    linesOn branchId (first ++ second) key = linesOn branchId first key + linesOn branchId second key := by
  induction first with
  | nil => rw [nil_append, linesOn_nil, zero_add]
  | cons line lines inner =>
    rw [cons_append, linesOn_cons, linesOn_cons, inner]
    omega

theorem linesOn_perm (branchId : Uuid) {first second} (perm : first.Perm second) (key : LegacyKey) :
    linesOn branchId first key = linesOn branchId second key := by
  rw [linesOn, linesOn, quantityOf, quantityOf, ((perm.filter _).map _).sum_eq]

theorem ledgerOf_append (first second : List InventoryLedgerRow) (key : LegacyKey) :
    ledgerOf (first ++ second) key = ledgerOf first key ++ ledgerOf second key := filter_append ..

/-- What may become of a committed hold: one that is committed stays as it is, and one that is held keeps its row. -/
def Lawful (version : Version ReservationRow) : Prop :=
  ∀ row, version.before = some row → (row.status = .committed → version.after = some row) ∧
    (row.status = .held → ∃ now, version.after = some now ∧ now.id = row.id)

/-- The ledger rows of a stock row follow what the transaction makes of it; `unknown` has the keys without a stock row. -/
inductive StockFollows (unknown : LegacyKey → Prop) (locks : Locks LegacyKey LegalItem) (key : LegacyKey)
    (rows : List InventoryLedgerRow) : Prop where
  | locked (version : Version LegalItem) (found : locks.lookup key = some version)
      (recorded : Recorded (worth onHandQty key version.before) rows (worth onHandQty key version.after))
  | untouched (free : locks.lookup key = none) (none : rows = [])
  | missing (free : locks.lookup key = none) (nowhere : unknown key) (recorded : Recorded 0 rows 0)

variable {unknown : LegacyKey → Prop}

/-- What a transaction has done: `pending` is reserved and not held by any line yet, and `noted` is to be recorded. -/
structure Midway (unknown : LegacyKey → Prop) (writes : Writes) (pending : LegacyKey → Int)
    (noted : List InventoryLedgerRow) : Prop where
  counted : ∀ key, changeAt reservedQty writes.stockItems key = change (heldOn key) writes.reservations + pending key
  follows : ∀ key, StockFollows unknown writes.stockItems key (ledgerOf (writes.ledger ++ noted) key)
  known : ∀ key version, writes.stockItems.lookup key = some version → ¬unknown key ∧ version.after ≠ none
  lawful : ∀ orderId version, writes.reservations.lookup orderId = some version → Lawful version
  stocked : ∀ orderId version row, writes.reservations.lookup orderId = some version → version.after = some row →
    ∀ line ∈ row.items, ¬unknown ⟨row.branchId, line.sku⟩

/-- What a transaction may rely on: its locks hold, `closed` has the holds that were once seen closed, and lines that
are held have a stock row. -/
structure View (unknown : LegacyKey → Prop) (closed : Uuid → Prop) (db : HoldsDb) (writes : Writes) : Prop where
  items : Held writes.stockItems db.stockItems
  reservations : Held writes.reservations db.reservations
  closes : ∀ orderId row, db.reservations.lookup orderId = some row → row.status ≠ .held → closed row.id
  closed : ∀ orderId row, seen writes.reservations db.reservations orderId = some row → closed row.id → row.status ≠ .held
  rowless : ∀ key, db.stockItems.lookup key = none ↔ unknown key
  stocked : ∀ orderId row, db.reservations.lookup orderId = some row → ∀ line ∈ row.items,
    ¬unknown ⟨row.branchId, line.sku⟩

variable {closed : Uuid → Prop} {db : HoldsDb} {writes : Writes} {pending : LegacyKey → Int}
  {noted : List InventoryLedgerRow}

theorem Midway.start : Midway unknown {} (fun _ => 0) [] where
  counted := fun _ => rfl
  follows := fun _ => .untouched rfl rfl
  known := nofun
  lawful := nofun
  stocked := nofun

theorem Midway.congr {other} (midway : Midway unknown writes pending noted)
    (same : ∀ key, pending key = other key) : Midway unknown writes other noted :=
  { midway with counted := fun key => same key ▸ midway.counted key }

variable {key : LegacyKey} {reply : HoldReply} {others : List Writes} {orderId branchId : Uuid} {lines : List SkuLine}
  {request : ReserveStockRequest} {status : ClosedStatus}

section

variable (midway : Midway unknown writes pending noted)

include midway

section

variable (view : View unknown closed db writes)
include view

theorem Midway.known_item
    {item} (found : writes.item db key = some item) : ¬unknown key := by
  intro nowhere
  rw [Writes.item, seen] at found
  cases locked : writes.stockItems.lookup key with
  | some version => exact (midway.known key version locked).1 nowhere
  | none =>
    rw [locked] at found
    cases found.symm.trans ((view.rowless key).mpr nowhere)

theorem Midway.rowless (none : writes.item db key = none) : unknown key := by
  rw [Writes.item, seen] at none
  cases locked : writes.stockItems.lookup key with
  | some version =>
    rw [locked] at none
    exact absurd none (midway.known key version locked).2
  | none =>
    rw [locked] at none
    exact (view.rowless key).mp none

theorem Midway.writeItem
    {item} (found : writes.item db key = some item) (after : LegalItem)
    (rows : List InventoryLedgerRow) (own : ∀ row ∈ rows, row.branchId = key.branchId ∧ row.sku = key.sku)
    (recorded : Recorded item.1.quantityOnHand rows after.1.quantityOnHand) :
    Midway unknown (writes.writeItem db key after) (fun other => pending other +
      if other = key then after.1.quantityReserved - item.1.quantityReserved else 0) (noted ++ rows) := by
  refine ⟨fun other => ?_, fun other => ?_, fun other version locked => ?_, midway.lawful, midway.stocked⟩
  · show changeAt reservedQty (write _ _ _ _) other = change (heldOn other) writes.reservations + _
    rw [changeAt_write, midway.counted]
    rw [Writes.item] at found
    rw [found]
    show _ + (if other = key then after.1.quantityReserved - item.1.quantityReserved else 0) = _
    omega
  · show StockFollows unknown _ other (ledgerOf (writes.ledger ++ (noted ++ rows)) other)
    rw [← append_assoc, ledgerOf_append]
    have before := midway.follows other
    by_cases same : other = key
    · subst same
      have all : ledgerOf rows other = rows := filter_eq_self.mpr fun row member => decide_eq_true (own row member)
      rw [all]
      refine .locked ⟨_, some after⟩ ((lookup_write ..).trans (if_pos rfl)) ?_
      rw [Writes.item, seen] at found
      cases before with
      | locked version locked old =>
        rw [locked] at found ⊢
        dsimp only at found
        rw [found] at old
        exact old.append recorded
      | untouched free none =>
        rw [free] at found ⊢
        dsimp only at found
        rw [map_none, getD_none, found, none]
        exact recorded
      | missing free nowhere =>
        rw [free] at found
        rw [(view.rowless other).mpr nowhere] at found
        cases found
    · have nothing : ledgerOf rows other = [] := by
        apply filter_eq_nil_iff.mpr
        intro row member
        obtain ⟨branch, sku⟩ := own row member
        rw [decide_eq_true_eq, branch, sku]
        rintro ⟨sameBranch, sameSku⟩
        exact same (LegacyKey.mk.injEq .. ▸ ⟨sameBranch.symm, sameSku.symm⟩)
      have lookup : (writes.writeItem db key after).stockItems.lookup other = writes.stockItems.lookup other :=
        (lookup_write ..).trans (if_neg same)
      rw [nothing, append_nil]
      cases before with
      | locked version locked old => exact .locked version (lookup.trans locked) old
      | untouched free none => exact .untouched (lookup.trans free) none
      | missing free nowhere old => exact .missing (lookup.trans free) nowhere old
  · by_cases same : other = key
    · subst same
      cases locked.symm.trans ((lookup_write ..).trans (if_pos rfl))
      exact ⟨midway.known_item view found, by rintro ⟨⟩⟩
    · exact midway.known other version (((lookup_write ..).trans (if_neg same)).symm.trans locked)

theorem Midway.writeReservation
    (orderId : Uuid) {after} (lawful : Lawful ⟨db.reservations.lookup orderId, after⟩)
    (stocked : ∀ row, after = some row → ∀ line ∈ row.items, ¬unknown ⟨row.branchId, line.sku⟩) :
    Midway unknown (writes.writeReservation db orderId after) (fun key => pending key +
      worth (heldOn key) orderId (seen writes.reservations db.reservations orderId) - worth (heldOn key) orderId after)
      noted := by
  refine ⟨fun key => ?_, midway.follows, midway.known, fun wanted version found => ?_, fun wanted version row found own => ?_⟩
  · show _ = change (heldOn key) (write _ _ _ _) + _
    rw [change_write]
    have counted := midway.counted key
    show changeAt reservedQty writes.stockItems key = _
    omega
  · rw [Writes.writeReservation, lookup_write, view.reservations.before] at found
    by_cases same : wanted = orderId
    · rw [if_pos same] at found
      cases found
      exact lawful
    · rw [if_neg same] at found
      exact midway.lawful wanted version found
  · rw [Writes.writeReservation, lookup_write] at found
    by_cases same : wanted = orderId
    · rw [if_pos same] at found
      cases found
      exact stocked row own
    · rw [if_neg same] at found
      exact midway.stocked wanted version row found own

end

end

theorem Midway.record {row} (midway : Midway unknown writes pending [row]) :
    Midway unknown { writes with ledger := writes.ledger ++ [row] } pending [] where
  counted := midway.counted
  follows := fun key => by
    rw [append_nil]
    exact midway.follows key
  known := midway.known
  lawful := midway.lawful
  stocked := midway.stocked

theorem Midway.note (midway : Midway unknown writes pending []) (key : LegacyKey) {row}
    (branch : row.branchId = key.branchId) (sku : row.sku = key.sku) (still : row.changeQty = 0)
    (shows : (∃ version, writes.stockItems.lookup key = some version ∧ row.balanceAfter = worth onHandQty key version.after) ∨
      writes.stockItems.lookup key = none ∧ unknown key ∧ row.balanceAfter = 0) :
    Midway unknown writes pending [row] := by
  refine ⟨midway.counted, fun other => ?_, midway.known, midway.lawful, midway.stocked⟩
  have before := midway.follows other
  rw [append_nil] at before
  rw [ledgerOf_append]
  by_cases same : other = key
  · subst same
    have all : ledgerOf [row] other = [row] := filter_eq_self.mpr fun listed member => by
      rw [mem_singleton.mp member]
      exact decide_eq_true ⟨branch, sku⟩
    rw [all]
    rcases shows with ⟨version, found, balance⟩ | ⟨free, nowhere, balance⟩
    · cases before with
      | locked own locked recorded =>
        cases found.symm.trans locked
        refine .locked version found (recorded.append ⟨?_, ?_⟩)
        · show row.balanceAfter = _ + row.changeQty
          rw [still, add_zero, balance]
        · exact balance
      | untouched free => cases found.symm.trans free
      | missing free => cases found.symm.trans free
    · have none : Recorded 0 (ledgerOf writes.ledger other) 0 := by
        cases before with
        | locked own locked => cases free.symm.trans locked
        | untouched _ none =>
          rw [none]
          exact rfl
        | missing _ _ recorded => exact recorded
      refine .missing free nowhere (none.append ⟨?_, balance⟩)
      show row.balanceAfter = 0 + row.changeQty
      rw [still, balance, add_zero]
  · have nothing : ledgerOf [row] other = [] := by
      apply filter_eq_nil_iff.mpr
      intro listed member
      rw [mem_singleton.mp member, decide_eq_true_eq, branch, sku]
      rintro ⟨sameBranch, sameSku⟩
      exact same (LegacyKey.mk.injEq .. ▸ ⟨sameBranch.symm, sameSku.symm⟩)
    rw [nothing, append_nil]
    exact before

/-- A statement that keeps the books: it deletes no hold that is committed by then, and notes no shortfall of stock that
others hold. -/
def HoldStatement.Sound (db : HoldsDb) (writes : Writes) : HoldStatement → Prop
  | .deleteReservation orderId id => ∀ row, writes.reservation db orderId id = some row → row.status ≠ .committed
  | .insertLedger row => row.refType = .saleShortfall →
      ∀ item, writes.item db ⟨row.branchId, row.sku⟩ = some item → item.1.quantityReserved = 0
  | _ => True

/-- Whatever the others commit between its statements, a program that ends has `Post`. -/
def HoldsSafe {α : Type} (unknown : LegacyKey → Prop) (Post : α → Writes → Prop) :
    Program holdStore α → (Uuid → Prop) → Writes → Prop
  | .done result, _, writes => Post result writes
  | .perform statement next, closed, writes => ∀ now others db later answer written (known : Uuid → Prop),
      (∀ id, closed id → known id) → View unknown known db writes → HoldStatement.Sound db writes statement →
      run now others db writes statement = .ran later written answer →
      HoldsSafe unknown Post (next answer) known written

theorem HoldsSafe.bind {α β : Type} {Mid} {Post} {program}
    {next : α → Program holdStore β} (first : HoldsSafe unknown Mid program closed writes)
    (resume : ∀ value written (known : Uuid → Prop), (∀ id, closed id → known id) → Mid value written →
      HoldsSafe unknown Post (next value) known written) : HoldsSafe unknown Post (program >>= next) closed writes := by
  induction program generalizing closed writes with
  | done result => exact resume result writes closed (fun _ => id) first
  | perform statement rest inner =>
    intro now others db later answer written known grown view sound ran
    refine inner answer (first now others db later answer written known grown view sound ran) ?_
    intro value final wider grows ended
    exact resume value final wider (fun id earlier => grows id (grown id earlier)) ended

theorem HoldsSafe.imp {α : Type} {Post weaker : α → Writes → Prop} {program}
    (safe : HoldsSafe unknown Post program closed writes) (implied : ∀ result written, Post result written → weaker result written) :
    HoldsSafe unknown weaker program closed writes := by
  induction program generalizing closed writes with
  | done result => exact implied result writes safe
  | perform statement rest inner =>
    intro now others db later answer written known grown view sound ran
    exact inner answer (safe now others db later answer written known grown view sound ran)

theorem HoldsSafe.mono {α : Type} {Post : α → Writes → Prop} {program}
    {wider} (safe : HoldsSafe unknown Post program closed writes) (grown : ∀ id, closed id → wider id) :
    HoldsSafe unknown Post program wider writes := by
  cases program with
  | done result => exact safe
  | perform statement next =>
    intro now others db later answer written known grows view sound ran
    exact safe now others db later answer written known (fun id earlier => grows id (grown id earlier)) view sound ran

theorem HoldsSafe.nothing {α : Type} (program : Program holdStore α) :
    HoldsSafe unknown (fun _ _ => True) program closed writes := by
  induction program generalizing closed writes with
  | done result => trivial
  | perform statement rest inner =>
    intro now others db later answer written known grown view sound ran
    exact inner answer

def Whole (unknown : LegacyKey → Prop) (result : Except HoldFailure HoldReply) (writes : Writes) : Prop :=
  ∀ reply, result = .ok reply → Midway unknown writes (fun _ => 0) []

abbrev TransactionSafe (unknown : LegacyKey → Prop) (program : HoldProgram) (closed : Uuid → Prop) (writes : Writes) : Prop :=
  HoldsSafe unknown (Whole unknown) program closed writes

theorem TransactionSafe.failed {failure} : TransactionSafe unknown (pure (.error failure)) closed writes :=
  fun _ same => nomatch same

theorem TransactionSafe.succeeded (midway : Midway unknown writes (fun _ => 0) []) :
    TransactionSafe unknown (pure (.ok reply)) closed writes :=
  fun _ _ => midway

theorem updateItem_ran {α : Type} {item} {answer given : α}
    {later written} (ran : updateItem others db writes key item answer = .ran later written given) :
    later = db ∧ given = answer ∧ (∀ other ∈ others, other.stockItems.lookup key = none) ∧
      ∃ legal, written = writes.writeItem db key ⟨item, legal⟩ := by
  unfold updateItem at ran
  split at ran
  · cases ran
  · next free =>
    split at ran
    · next legal =>
      cases ran
      refine ⟨rfl, rfl, fun other member => ?_, legal, rfl⟩
      simp only [List.any_eq_true, not_exists, not_and] at free
      simpa [Writes.locksItem] using free other member
    · cases ran

theorem updateReservation_ran {α : Type} {after} {answer given : α} {later written}
    (ran : updateReservation others db writes orderId after answer = .ran later written given) :
    later = db ∧ given = answer ∧ (∀ other ∈ others, other.reservations.lookup orderId = none) ∧
      written = writes.writeReservation db orderId after := by
  unfold updateReservation at ran
  split at ran
  · cases ran
  · next free =>
    cases ran
    refine ⟨rfl, rfl, fun other member => ?_, rfl⟩
    simp only [List.any_eq_true, not_exists, not_and] at free
    simpa [Writes.locksReservation] using free other member

theorem Midway.reserve (midway : Midway unknown writes pending []) (view : View unknown closed db writes)
    {item after} (found : writes.item db key = some item) (same : after.1.quantityOnHand = item.1.quantityOnHand) :
    Midway unknown (writes.writeItem db key after) (fun other => pending other +
      if other = key then after.1.quantityReserved - item.1.quantityReserved else 0) [] :=
  midway.writeItem view found after [] nofun same.symm

open HoldsSafe

theorem holdLines_safe (branchId : Uuid) (midway : Midway unknown writes pending []) :
    HoldsSafe unknown (fun shortages written => shortages = [] →
      written.reservations = writes.reservations ∧ (∀ line ∈ lines, ¬unknown ⟨branchId, line.sku⟩) ∧
      Midway unknown written (fun key => pending key + linesOn branchId lines key) []) (holdLines branchId lines) closed writes := by
  induction lines generalizing pending writes closed with
  | nil => exact fun _ => ⟨rfl, nofun, midway.congr fun key => by rw [linesOn_nil, add_zero]⟩
  | cons line lines inner =>
    intro now others db later answer written known grown view sound ran
    simp only [run] at ran
    split at ran
    · next item found =>
      obtain ⟨found, enough⟩ := filter_eq_some_iff.mp found
      obtain ⟨rfl, rfl, _, legal, rfl⟩ := updateItem_ran ran
      let after : LegalItem := ⟨{ item.1 with quantityReserved := item.1.quantityReserved + line.quantity }, legal⟩
      have held : Midway unknown (writes.writeItem later ⟨branchId, line.sku⟩ after) _ [] := midway.reserve view found rfl
      refine imp (inner held) fun shortages final ended none => ?_
      obtain ⟨same, stocked, finished⟩ := ended none
      refine ⟨same, forall_mem_cons.mpr ⟨midway.known_item view found, stocked⟩, finished.congr fun key => ?_⟩
      rw [linesOn_cons]
      show _ + (if key = _ then item.1.quantityReserved + line.quantity - item.1.quantityReserved else 0) + _ = _
      split <;> omega
    · cases ran
      intro now others db later answer written wider grows view sound ran
      cases ran
      show HoldsSafe unknown _ (holdLines branchId lines >>= fun shortages => pure (_ :: shortages)) wider _
      refine bind (nothing (holdLines branchId lines)) fun shortages final _ _ _ => ?_
      exact fun none => nomatch none

theorem insertItems_safe {id}
    (midway : Midway unknown writes (linesOn branchId lines) []) (stocked : ∀ line ∈ lines, ¬unknown ⟨branchId, line.sku⟩)
    (own : ∀ drawn, id = some drawn → ∃ version row, writes.reservations.lookup orderId = some version ∧
      version.after = some row ∧ row.id = drawn ∧ row.status = .held ∧ row.branchId = branchId) :
    HoldsSafe unknown (fun _ written => Midway unknown written (fun _ => 0) []) (insertItems orderId id lines) closed writes := by
  induction lines generalizing writes closed with
  | nil => exact midway.congr (linesOn_nil branchId)
  | cons line lines inner =>
    intro now others db later answer written known grown view sound ran
    simp only [run] at ran
    split at ran
    · next row found =>
      obtain ⟨rfl, -, _, rfl⟩ := updateReservation_ran ran
      obtain ⟨drawn, rfl, read⟩ := bind_eq_some_iff.mp found
      obtain ⟨version, kept, locked, after, drawnIs, held, branch⟩ := own drawn rfl
      obtain ⟨sees, named⟩ := filter_eq_some_iff.mp read
      have seenIs : seen writes.reservations later.reservations orderId = version.after := by rw [seen, locked]
      obtain rfl : row = kept := by
        rw [seenIs, after] at sees
        exact (some.inj sees).symm
      have before : later.reservations.lookup orderId = version.before := view.reservations orderId version locked
      have lawful : Lawful ⟨later.reservations.lookup orderId, some { row with items := row.items ++ [line] }⟩ := by
        intro old stored
        have law := midway.lawful orderId version locked old (before.symm.trans stored)
        constructor
        · intro committed
          have same := (law.1 committed).symm.trans after
          cases same
          cases committed.symm.trans held
        · intro open_
          obtain ⟨now, is, own⟩ := law.2 open_
          cases is.symm.trans after
          exact ⟨_, rfl, own⟩
      have onStock : ∀ now, some { row with items := row.items ++ [line] } = some now →
          ∀ line ∈ now.items, ¬unknown ⟨now.branchId, line.sku⟩ := by
        rintro _ ⟨⟩
        exact Transaction.forall_concat (midway.stocked orderId version row locked after)
          (branch ▸ stocked line (.head _))
      have grownRow := midway.writeReservation view orderId lawful onStock
      refine inner (grownRow.congr fun key => ?_) (fun other member => stocked other (.tail _ member)) ?_
      · rw [seenIs, after]
        show _ + heldOn key orderId row - heldOn key orderId { row with items := row.items ++ [line] } = _
        simp only [heldOn, held, ↓reduceIte, linesOn_append, branch, linesOn_cons, linesOn_nil]
        omega
      · rintro _ ⟨⟩
        exact ⟨_, _, (lookup_write ..).trans (if_pos rfl), rfl, drawnIs, held, branch⟩
    · cases ran

open TransactionSafe

theorem reserveLines_safe {id} (midway : Midway unknown writes (fun _ => 0) [])
    (own : ∀ drawn, id = some drawn → ∃ version row, writes.reservations.lookup request.orderId = some version ∧
      version.after = some row ∧ row.id = drawn ∧ row.status = .held ∧ row.branchId = request.branchId) :
    TransactionSafe unknown (reserveLines request id) closed writes := by
  refine bind (holdLines_safe request.branchId midway) fun shortages written known _ ended => ?_
  by_cases short : shortages = []
  · obtain ⟨same, stocked, held⟩ := ended short
    subst short
    refine bind (insertItems_safe (held.congr fun key => zero_add _) stocked (same ▸ own)) fun _ final _ _ whole => ?_
    intro now others db later answer read wider grows view sound ran
    cases ran
    exact fun _ _ => whole
  · show HoldsSafe _ _ (if _ then _ else _) _ _
    rw [if_pos short]
    exact failed

theorem insertReservation_safe {now ttlMinutes} (midway : Midway unknown writes (fun _ => 0) [])
    (view : View unknown closed db writes) (none : seen writes.reservations db.reservations request.orderId = none)
    (gone : ∀ old, db.reservations.lookup request.orderId = some old → old.status ≠ .held ∧ old.status ≠ .committed) :
    TransactionSafe unknown (reserveLines request (some db.drawn.length)) closed (writes.writeReservation db request.orderId
      (some ⟨db.drawn.length, request.branchId, .held, now + ttlMinutes, []⟩)) := by
  have lawful : Lawful ⟨db.reservations.lookup request.orderId,
      some ⟨db.drawn.length, request.branchId, .held, now + ttlMinutes, []⟩⟩ := by
    intro old stored
    obtain ⟨notHeld, notCommitted⟩ := gone old stored
    exact ⟨fun committed => absurd committed notCommitted, fun held => absurd held notHeld⟩
  have inserted := midway.writeReservation view request.orderId lawful (by rintro _ ⟨⟩; nofun)
  refine reserveLines_safe (inserted.congr fun key => ?_) fun drawn named => ?_
  · rw [none]
    simp [worth, heldOn, linesOn_nil]
  · exact ⟨_, _, (lookup_write ..).trans (if_pos rfl), rfl, some.inj named, rfl, rfl⟩

theorem seen_unlocked (free : writes.reservations.lookup orderId = none) :
    seen writes.reservations db.reservations orderId = db.reservations.lookup orderId := by
  rw [seen, free]

theorem reserveAgain_safe {ttlMinutes} {existing : ReservationRow} (read : existing.status ≠ .held → closed existing.id) :
    TransactionSafe unknown (reserveAgain request ttlMinutes existing) closed {} := by
  rw [reserveAgain]
  split
  · split
    · exact failed
    · exact succeeded .start
  · next open_ =>
    obtain ⟨unheld, -⟩ := not_or.mp open_
    intro now others db later answer written known grown view sound ran
    simp only [run] at ran
    -- The row as it is by now: it is gone, or deleted, which is lawful unless it is committed or held.
    have emptied : Midway unknown written (fun _ => 0) [] ∧
        (∀ version, written.reservations.lookup request.orderId = some version → version.after = none ∧
          ∀ old, version.before = some old → old.status ≠ .held ∧ old.status ≠ .committed) := by
      split at ran
      · next row found =>
        obtain ⟨rfl, -, _, rfl⟩ := updateReservation_ran ran
        obtain ⟨sees, named⟩ := filter_eq_some_iff.mp found
        have same : row.id = existing.id := of_decide_eq_true named
        have notHeld := view.closed request.orderId row sees (same ▸ grown _ (read unheld))
        have notCommitted := sound row found
        rw [seen_unlocked rfl] at sees
        have lawful : Lawful ⟨later.reservations.lookup request.orderId, none⟩ := by
          intro old stored
          cases stored.symm.trans sees
          exact ⟨fun committed => absurd committed notCommitted, fun held => absurd held notHeld⟩
        have deleted := Midway.start.writeReservation view request.orderId lawful nofun
        refine ⟨deleted.congr fun key => ?_, fun version locked => ?_⟩
        · rw [seen_unlocked rfl, sees]
          show 0 + heldOn key request.orderId row - 0 = 0
          rw [heldOn, if_neg notHeld]
          rfl
        · rw [Writes.writeReservation, lookup_write, if_pos rfl] at locked
          cases locked
          refine ⟨rfl, fun old stored => ?_⟩
          cases stored.symm.trans sees
          exact ⟨notHeld, notCommitted⟩
      · cases ran
        exact ⟨.start, nofun⟩
    obtain ⟨midway, gone⟩ := emptied
    intro now others db after answer wrote wider grows view sound ran
    simp only [run] at ran
    split at ran
    · cases ran
    · split at ran
      · cases ran
        exact reserveLines_safe midway nofun
      · next none =>
        cases ran
        refine insertReservation_safe midway view none fun old stored => ?_
        cases locked : written.reservations.lookup request.orderId with
        | none =>
          rw [seen_unlocked locked, stored] at none
          cases none
        | some version => exact (gone version locked).2 old ((view.reservations _ _ locked).symm.trans stored)

theorem reserveStock_safe (request : ReserveStockRequest) (ttlMinutes : Nat) :
    TransactionSafe unknown (reserveStock request ttlMinutes) closed {} := by
  intro now others db later answer written known grown view sound ran
  simp only [run] at ran
  split at ran
  · cases ran
  · split at ran
    · cases ran
      intro now others db later answer written wider grows view sound ran
      cases ran
      cases found : db.reservations.lookup request.orderId with
      | none =>
        have seenNone : seen ({} : Writes).reservations db.reservations request.orderId = none := found
        rw [seenNone]
        exact failed
      | some row =>
        have seenRow : seen ({} : Writes).reservations db.reservations request.orderId = some row := found
        rw [seenRow]
        exact reserveAgain_safe fun closed => view.closes request.orderId row found closed
    · next none =>
      cases ran
      exact insertReservation_safe .start view none fun old stored => nomatch stored.symm.trans none

def Locked (writes : Writes) (orderId : Uuid) (row : ReservationRow) : Prop :=
  writes.reservations.lookup orderId = some ⟨some row, some row⟩

theorem lock_safe {row} (view : View unknown closed db {})
    (stored : seen ({} : Writes).reservations db.reservations orderId = some row) :
    Locked (({} : Writes).writeReservation db orderId (some row)) orderId row ∧
      Midway unknown (({} : Writes).writeReservation db orderId (some row)) (fun _ => 0) [] := by
  have same : db.reservations.lookup orderId = some row := stored
  constructor
  · refine (lookup_write ..).trans ((if_pos rfl).trans ?_)
    show some (Version.mk (db.reservations.lookup orderId) _) = _
    rw [same]
  · have lawful : Lawful ⟨db.reservations.lookup orderId, some row⟩ := by
      intro old storedOld
      cases same.symm.trans storedOld
      exact ⟨fun _ => rfl, fun _ => ⟨_, rfl, rfl⟩⟩
    have kept : ∀ now, some row = some now → ∀ line ∈ now.items, ¬unknown ⟨now.branchId, line.sku⟩ := by
      rintro _ ⟨⟩
      exact view.stocked orderId row same
    refine (Midway.start.writeReservation view orderId lawful kept).congr fun key => ?_
    rw [stored]
    omega

theorem findLocked_safe {next : Option ReservationRow → HoldProgram}
    (none : ∀ known, TransactionSafe unknown (next none) known {})
    (some_ : ∀ row writes known, Locked writes orderId row → Midway unknown writes (fun _ => 0) [] →
      TransactionSafe unknown (next (some row)) known writes) : TransactionSafe unknown (findLocked orderId next) closed {} := by
  intro now others db later answer written known grown view sound ran
  cases ran
  cases found : db.reservations.lookup orderId with
  | none =>
    have seenNone : seen ({} : Writes).reservations db.reservations orderId = Option.none := found
    rw [seenNone]
    exact none known
  | some row =>
    have seenRow : seen ({} : Writes).reservations db.reservations orderId = some row := found
    rw [seenRow]
    intro now others db later answer written wider grows view sound ran
    simp only [run] at ran
    split at ran
    · next locked read =>
      obtain ⟨rfl, rfl, _, rfl⟩ := updateReservation_ran ran
      obtain ⟨stored, -⟩ := Option.filter_eq_some_iff.mp read
      obtain ⟨own, midway⟩ := lock_safe view stored
      exact some_ locked _ wider own midway
    · cases ran
      exact none wider

theorem freeLines_safe (midway : Midway unknown writes pending []) (stocked : ∀ line ∈ lines, ¬unknown ⟨branchId, line.sku⟩) :
    HoldsSafe unknown (fun _ written => written.reservations = writes.reservations ∧
      Midway unknown written (fun key => pending key - linesOn branchId lines key) []) (freeLines branchId lines) closed writes := by
  induction lines generalizing pending writes closed with
  | nil => exact ⟨rfl, midway.congr fun key => by rw [linesOn_nil, sub_zero]⟩
  | cons line lines inner =>
    intro now others db later answer written known grown view sound ran
    simp only [run] at ran
    split at ran
    · next item found =>
      obtain ⟨rfl, -, _, legal, rfl⟩ := updateItem_ran ran
      let after : LegalItem := ⟨⟨item.1.quantityOnHand - 0, item.1.quantityReserved - line.quantity⟩, legal⟩
      have freed : Midway unknown (writes.writeItem later ⟨branchId, line.sku⟩ after) _ [] :=
        midway.reserve view found (sub_zero _)
      refine imp (inner freed fun other member => stocked other (.tail _ member)) fun _ final ended => ?_
      refine ⟨ended.1, ended.2.congr fun key => ?_⟩
      rw [linesOn_cons]
      show _ + (if key = _ then item.1.quantityReserved - line.quantity - item.1.quantityReserved else 0) - _ = _
      split <;> omega
    · next missing =>
      have free : writes.item db ⟨branchId, line.sku⟩ = none := missing
      exact absurd (midway.rowless view free) (stocked line (.head _))

theorem setStatus_safe {row} (locked : Locked writes orderId row)
    (midway : Midway unknown writes (fun key => -worth (heldOn key) orderId (some row)) []) (open_ : row.status ≠ .committed) :
    TransactionSafe unknown (query (.setStatus orderId row.id status) >>= fun _ => pure (.ok reply)) closed writes := by
  intro now others db later answer written known grown view sound ran
  have sees : seen writes.reservations db.reservations orderId = some row := by rw [seen, locked]
  have read : writes.reservation db orderId row.id = some row := by
    rw [Writes.reservation, sees]
    exact filter_eq_some_iff.mpr ⟨rfl, decide_eq_true rfl⟩
  simp only [run, read] at ran
  obtain ⟨rfl, -, _, rfl⟩ := updateReservation_ran ran
  have stored : later.reservations.lookup orderId = some row := view.reservations orderId _ locked
  have lawful : Lawful ⟨later.reservations.lookup orderId, some { row with status := status.1 }⟩ := by
    intro old storedOld
    cases stored.symm.trans storedOld
    exact ⟨fun committed => absurd committed open_, fun _ => ⟨_, rfl, rfl⟩⟩
  have kept : ∀ now, some { row with status := status.1 } = some now → ∀ line ∈ now.items, ¬unknown ⟨now.branchId, line.sku⟩ := by
    rintro _ ⟨⟩
    exact view.stocked orderId row stored
  refine succeeded ((midway.writeReservation view orderId lawful kept).congr fun key => ?_)
  have nothing : worth (heldOn key) orderId (some { row with status := status.1 }) = 0 := if_neg status.2
  rw [sees, nothing]
  omega

theorem giveBack_safe {row} (locked : Locked writes orderId row)
    (held : row.status = .held) (midway : Midway unknown writes (fun _ => 0) []) :
    TransactionSafe unknown (giveBack orderId row status) closed writes := by
  have stocked : ∀ line ∈ orderLines row.items, ¬unknown ⟨row.branchId, line.sku⟩ := fun line member =>
    midway.stocked orderId _ row locked rfl line ((orderLines_perm _).mem_iff.mp member)
  refine bind (freeLines_safe midway stocked) fun _ written known _ freed => ?_
  obtain ⟨same, freed⟩ := freed
  have kept : Locked written orderId row := by
    rw [Locked, same]
    exact locked
  refine setStatus_safe kept (freed.congr fun key => ?_) (by rw [held]; nofun)
  show 0 - _ = -heldOn key orderId row
  rw [heldOn, if_pos held, linesOn_perm row.branchId (orderLines_perm _)]
  omega

theorem releaseStock_safe (orderId : Uuid) : TransactionSafe unknown (releaseStock orderId) closed {} := by
  refine findLocked_safe (fun known => succeeded .start) fun row writes known locked midway => ?_
  dsimp only
  split
  · next held => exact giveBack_safe locked held midway
  · exact succeeded midway

theorem expireHold_safe (orderId id : Uuid) : TransactionSafe unknown (expireHold orderId id) closed {} := by
  intro now others db later answer written known grown view sound ran
  simp only [run] at ran
  split at ran
  · next row read =>
    split at ran
    · cases ran
      exact succeeded .start
    · cases ran
      obtain ⟨named, due⟩ := filter_eq_some_iff.mp read
      obtain ⟨stored, -⟩ := filter_eq_some_iff.mp named
      obtain ⟨locked, midway⟩ := lock_safe view stored
      exact giveBack_safe locked (of_decide_eq_true due).1 midway
  · cases ran
    exact succeeded .start

theorem sell_safe {take fromHold next}
    (midway : Midway unknown writes pending []) (rest : ∀ written known, written.reservations = writes.reservations →
      Midway unknown written (fun other => pending other - if other = key then fromHold else 0) [] →
      TransactionSafe unknown next known written) :
    TransactionSafe unknown (sell orderId key take fromHold next) closed writes := by
  intro now others db later answer written known grown view sound ran
  simp only [run] at ran
  split at ran
  · next item found =>
    obtain ⟨rfl, rfl, _, legal, rfl⟩ := updateItem_ran ran
    let after : LegalItem := ⟨⟨item.1.quantityOnHand - take, item.1.quantityReserved - fromHold⟩, legal⟩
    have sold : Midway unknown (writes.writeItem later key after) (fun other => pending other +
        if other = key then item.1.quantityReserved - fromHold - item.1.quantityReserved else 0)
        [⟨key.branchId, key.sku, -take, item.1.quantityOnHand - take, .sale, orderId⟩] := by
      refine midway.writeItem view found after _ (fun row member => ?_) ⟨rfl, rfl⟩
      rw [mem_singleton.mp member]
      exact ⟨rfl, rfl⟩
    intro now others db after answer final wider grows view sound ran
    cases ran
    refine rest _ wider rfl (sold.record.congr fun other => ?_)
    split <;> omega
  · cases ran
    exact failed

theorem sellHeld_safe {next}
    (midway : Midway unknown writes pending []) (rest : ∀ written known, written.reservations = writes.reservations →
      Midway unknown written (fun key => pending key - linesOn branchId lines key) [] → TransactionSafe unknown next known written) :
    TransactionSafe unknown (sellHeld orderId branchId next lines) closed writes := by
  induction lines generalizing pending writes closed with
  | nil => exact rest writes closed rfl (midway.congr fun key => by rw [linesOn_nil, sub_zero])
  | cons line lines inner =>
    refine sell_safe midway fun written known same sold => ?_
    refine inner sold fun final wider again ended => rest final wider (again.trans same) (ended.congr fun key => ?_)
    rw [linesOn_cons]
    omega

theorem sellFree_safe {next}
    (midway : Midway unknown writes (fun _ => 0) []) (rest : ∀ written known, written.reservations = writes.reservations →
      Midway unknown written (fun _ => 0) [] → TransactionSafe unknown next known written) :
    TransactionSafe unknown (sellFree orderId branchId next lines) closed writes := by
  induction lines generalizing writes closed with
  | nil => exact rest writes closed rfl midway
  | cons line lines inner =>
    have goOn : ∀ written known, written.reservations = writes.reservations → Midway unknown written (fun _ => 0) [] →
        TransactionSafe unknown (sellFree orderId branchId next lines) known written := fun written known same going =>
      inner going fun final wider again ended => rest final wider (again.trans same) ended
    have sells : ∀ written known, written.reservations = writes.reservations → Midway unknown written (fun _ => 0) [] →
        ∀ take, TransactionSafe unknown (if take = 0 then sellFree orderId branchId next lines
          else sell orderId ⟨branchId, line.sku⟩ take 0 (sellFree orderId branchId next lines)) known written := by
      intro written known same going take
      split
      · exact goOn written known same going
      · refine sell_safe going fun final wider again ended => goOn final wider (again.trans same) (ended.congr fun key => ?_)
        rw [ite_self, sub_zero]
    intro now others db later answer written known grown view sound ran
    -- What was read, the row locked if there is one.
    have readFree : written.reservations = writes.reservations ∧ Midway unknown written (fun _ => 0) [] ∧
        ((∃ version item, written.stockItems.lookup ⟨branchId, line.sku⟩ = some version ∧ version.after = some item ∧
          answer = some item.1.free) ∨
        written.stockItems.lookup ⟨branchId, line.sku⟩ = none ∧ unknown ⟨branchId, line.sku⟩ ∧ answer = none) := by
      simp only [run] at ran
      split at ran
      · next item found =>
        obtain ⟨rfl, rfl, _, legal, rfl⟩ := updateItem_ran ran
        have locked : Midway unknown (writes.writeItem later ⟨branchId, line.sku⟩ item) _ [] := midway.reserve view found rfl
        refine ⟨rfl, locked.congr fun key => ?_, .inl ⟨_, item, (lookup_write ..).trans (if_pos rfl), rfl, rfl⟩⟩
        rw [sub_self, ite_self, add_zero]
      · next missing =>
        cases ran
        have nowhere := midway.rowless view missing
        refine ⟨rfl, midway, .inr ⟨?_, nowhere, rfl⟩⟩
        cases locked : writes.stockItems.lookup (⟨branchId, line.sku⟩ : LegacyKey) with
        | none => rfl
        | some version => exact absurd nowhere (midway.known _ version locked).1
    obtain ⟨same, locked, reads⟩ := readFree
    show TransactionSafe unknown (if takeOf line (getD answer 0) < line.quantity then _ else _) known written
    split
    · intro now others db after answered final wider grows view sound ran
      cases ran
      have noted : Midway unknown written (fun _ => 0)
          [⟨branchId, line.sku, 0, getD answer 0, .saleShortfall, orderId⟩] := by
        refine locked.note ⟨branchId, line.sku⟩ rfl rfl rfl ?_
        rcases reads with ⟨version, item, found, is, rfl⟩ | ⟨free, nowhere, rfl⟩
        · refine .inl ⟨version, found, ?_⟩
          have sees : written.item db ⟨branchId, line.sku⟩ = some item := by
            rw [Writes.item, seen, found]
            exact is
          have unheld := sound rfl item sees
          rw [is]
          show item.1.quantityOnHand - item.1.quantityReserved = item.1.quantityOnHand
          omega
        · exact .inr ⟨free, nowhere, rfl⟩
      refine sells _ wider ?_ noted.record _
      exact same
    · exact sells written known same locked _

theorem commitStock_safe (order : OrderCompletedPayload) : TransactionSafe unknown (commitStock order) closed {} := by
  have unmarked : ∀ written known, Midway unknown written (fun _ => 0) [] →
      TransactionSafe unknown (markCommitted order.orderId none) known written := fun _ _ => succeeded
  refine findLocked_safe (fun known => sellFree_safe .start fun written wider _ ended => unmarked written wider ended)
    fun row writes known locked midway => ?_
  have stands : ∀ {written : Writes}, written.reservations = writes.reservations → Locked written order.orderId row := by
    intro written same
    rw [Locked, same]
    exact locked
  have late : row.status ≠ .held → row.status ≠ .committed → TransactionSafe unknown
      (sellFree order.orderId row.branchId (markCommitted order.orderId (some row)) (mergeLines order.items)) known writes := by
    intro notHeld notCommitted
    refine sellFree_safe midway fun written wider same ended => setStatus_safe (stands same) (ended.congr fun key => ?_) notCommitted
    show 0 = -heldOn key order.orderId row
    rw [heldOn, if_neg notHeld, neg_zero]
  dsimp only
  split
  · exact succeeded midway
  · next held =>
    refine sellHeld_safe midway fun written wider same sold => setStatus_safe (stands same) (sold.congr fun key => ?_)
      (by rw [held]; rintro ⟨⟩)
    show 0 - _ = -heldOn key order.orderId row
    rw [heldOn, if_pos held, linesOn_perm row.branchId (orderLines_perm _)]
    omega
  · next released => exact late (by rw [released]; rintro ⟨⟩) (by rw [released]; rintro ⟨⟩)
  · next expired => exact late (by rw [expired]; rintro ⟨⟩) (by rw [expired]; rintro ⟨⟩)

theorem HoldCall.safe (call : HoldCall) : TransactionSafe unknown call.program closed {} := by
  cases call with
  | reserve request ttlMinutes => exact reserveStock_safe request ttlMinutes
  | release orderId => exact releaseStock_safe orderId
  | commit order => exact commitStock_safe order
  | expire orderId id => exact expireHold_safe orderId id

end Inventory
