import RetailApi.Base.Run
import RetailApi.Base.Transaction
import RetailApi.Proofs.DailyFigures

/-! The daily summaries reconcile with the facts, and the pending lines are counted while every event names the lines whose
count it changes. -/

namespace Insight

open InsightDb ResolvedLine List Table AList

variable {db after : InsightDb} {day : DayBranch}

def pendingIn (orderId : Uuid) (lineFacts : Table (Uuid × String) SalesOrderLineFactEntity) : Int :=
  sumBy (fun key line => if key.1 = orderId ∧ line.costStatus = .pending then 1 else 0) lineFacts

def InsightDb.pendingOn (db : InsightDb) (days : DayBranch → Bool) : Int :=
  sumBy (fun orderId fact => if days fact.day = true ∧ fact.orderStatus = .completed then pendingIn orderId db.lineFacts
    else 0) db.orderFacts

theorem pendingIn_nonneg (orderId : Uuid) (lineFacts : Table (Uuid × String) SalesOrderLineFactEntity) :
    0 ≤ pendingIn orderId lineFacts := by
  refine sum_nonneg (forall_mem_map.mpr fun entry _ => ?_)
  dsimp only
  split <;> omega

theorem InsightDb.pendingOn_nonneg (db : InsightDb) (days : DayBranch → Bool) : 0 ≤ db.pendingOn days := by
  refine sum_nonneg (forall_mem_map.mpr fun entry _ => ?_)
  dsimp only
  split
  · exact pendingIn_nonneg ..
  · exact le_rfl

def isPending (line : Option SalesOrderLineFactEntity) : Int := if line.map (·.costStatus) = some .pending then 1 else 0

def ResolvedLine.nowPending (line : ResolvedLine) : Int := if line.costStatus = .pending then 1 else 0

def pendingOutside (orderId : Uuid) (keys : List String) (lineFacts : Table (Uuid × String) SalesOrderLineFactEntity) : Int :=
  sumBy (fun key line => if key.1 = orderId ∧ line.costStatus = .pending ∧ key.2 ∉ keys then 1 else 0) lineFacts

theorem pendingIn_insert (orderId : Uuid) (key : String) (line : SalesOrderLineFactEntity)
    (lineFacts : Table (Uuid × String) SalesOrderLineFactEntity) :
    pendingIn orderId (lineFacts.insert (orderId, key) line) =
      pendingIn orderId lineFacts - isPending (lineFacts.lookup (orderId, key)) + isPending (some line) := by
  rw [pendingIn, sumBy_insert, amountAt, ← pendingIn, isPending, isPending]
  cases lineFacts.lookup (orderId, key) <;> simp

variable {orderId other : Uuid} {dimensions : OrderDimensions} {status : OrderStatus} {lines others : List ResolvedLine}
  {event : OrderEvent}

theorem pendingIn_other (apart : other ≠ orderId) (key : String) (line : SalesOrderLineFactEntity)
    (lineFacts : Table (Uuid × String) SalesOrderLineFactEntity) :
    pendingIn other (lineFacts.insert (orderId, key) line) = pendingIn other lineFacts := by
  rw [pendingIn, sumBy_insert, amountAt, ← pendingIn]
  cases lineFacts.lookup (orderId, key) <;> simp [Ne.symm apart]

theorem pendingIn_written (once : (lines.map (·.lineKey)).Nodup) (lineFacts : Table (Uuid × String) SalesOrderLineFactEntity) :
    pendingIn orderId (writtenLines orderId day dimensions status lineFacts lines) = pendingIn orderId lineFacts +
      (lines.map fun line => line.nowPending - isPending (lineFacts.lookup (orderId, line.lineKey))).sum := by
  induction lines generalizing lineFacts with
  | nil => exact (add_zero _).symm
  | cons first lines inner =>
    obtain ⟨outside, rest⟩ := nodup_cons.mp once
    rw [show writtenLines orderId day dimensions status lineFacts (first :: lines) =
      writtenLines orderId day dimensions status (lineFacts.insert (orderId, first.lineKey)
        (lineFact (lineFacts.lookup (orderId, first.lineKey)) day dimensions status first)) lines from rfl,
      inner rest, pendingIn_insert, map_cons, sum_cons]
    have others : lines.map (fun line => line.nowPending - isPending ((lineFacts.insert (orderId, first.lineKey)
        (lineFact (lineFacts.lookup (orderId, first.lineKey)) day dimensions status first)).lookup (orderId, line.lineKey))) =
        lines.map fun line => line.nowPending - isPending (lineFacts.lookup (orderId, line.lineKey)) := by
      refine map_congr_left fun line member => ?_
      rw [lookup_insert_ne]
      rintro same
      exact outside (mem_map.mpr ⟨line, member, (Prod.mk.inj same).2⟩)
    have now : isPending (some (lineFact (lineFacts.lookup (orderId, first.lineKey)) day dimensions status first)) =
        first.nowPending := by
      rw [isPending, nowPending, Option.map_some, lineFact]
      simp
    rw [others, now]
    omega

theorem pendingIn_written_other (apart : other ≠ orderId)
    (lines : List ResolvedLine) (lineFacts : Table (Uuid × String) SalesOrderLineFactEntity) :
    pendingIn other (writtenLines orderId day dimensions status lineFacts lines) = pendingIn other lineFacts := by
  induction lines generalizing lineFacts with
  | nil => rfl
  | cons first lines inner => exact (inner _).trans (pendingIn_other apart _ _ _)

theorem pendingIn_split {keys} (once : keys.Nodup) (lineFacts : Table (Uuid × String) SalesOrderLineFactEntity) :
    pendingIn orderId lineFacts = pendingOutside orderId keys lineFacts +
      (keys.map fun key => isPending (lineFacts.lookup (orderId, key))).sum := by
  induction keys with
  | nil =>
    rw [pendingIn, pendingOutside, map_nil, sum_nil, add_zero]
    exact sumBy_congr fun entry _ => by simp
  | cons first keys inner =>
    obtain ⟨outside, rest⟩ := nodup_cons.mp once
    have one : pendingOutside orderId keys lineFacts - pendingOutside orderId (first :: keys) lineFacts =
        isPending (lineFacts.lookup (orderId, first)) := by
      rw [pendingOutside, pendingOutside, ← sumBy_sub]
      have single := sumBy_single (fun _ (line : SalesOrderLineFactEntity) =>
        if line.costStatus = .pending then (1 : Int) else 0) lineFacts (orderId, first)
      rw [amountAt] at single
      have looked : (lineFacts.lookup (orderId, first)).elim 0 (fun line : SalesOrderLineFactEntity =>
          if line.costStatus = .pending then (1 : Int) else 0) = isPending (lineFacts.lookup (orderId, first)) := by
        rw [isPending]
        cases lineFacts.lookup (orderId, first) <;> simp
      rw [← looked, ← single]
      refine sumBy_congr fun entry _ => ?_
      obtain ⟨⟨order, key⟩, line⟩ := entry
      by_cases here : order = orderId ∧ key = first
      · obtain ⟨rfl, rfl⟩ := here
        simp [outside]
      · rw [if_neg fun same => here (Prod.mk.inj same)]
        by_cases own : order = orderId
        · have apart : key ≠ first := fun same => here ⟨own, same⟩
          simp [own, apart]
        · simp [own]
    rw [inner rest, map_cons, sum_cons]
    omega

theorem mem_linesOf {key line} : (key, line) ∈ db.linesOf orderId ↔ db.lineFacts.lookup (orderId, key) = some line := by
  rw [linesOf, mem_insertionSort, mem_map]
  constructor
  · rintro ⟨⟨⟨order, stored⟩, row⟩, listed, same⟩
    obtain ⟨inside, own⟩ := mem_filter.mp listed
    cases same
    rw [← of_decide_eq_true own]
    exact mem_lookup_iff.mpr inside
  · intro found
    exact ⟨⟨(orderId, key), line⟩, mem_filter.mpr ⟨mem_lookup_iff.mp found, decide_eq_true rfl⟩, rfl⟩

theorem nodup_linesOf (db : InsightDb) (orderId : Uuid) : ((db.linesOf orderId).map (·.1)).Nodup := by
  have sorted := (perm_insertionSort (fun first second : String × SalesOrderLineFactEntity => first.1 ≤ second.1)
    ((db.lineFacts.entries.filter fun entry => entry.1.1 = orderId).map fun entry => (entry.1.2, entry.2))).map (·.1)
  rw [linesOf]
  refine sorted.nodup_iff.mpr ?_
  rw [map_map]
  have keys : ((db.lineFacts.entries.filter fun entry => entry.1.1 = orderId).map Sigma.fst).Nodup :=
    NodupKeys.sublist filter_sublist db.lineFacts.nodupKeys
  refine Nodup.of_map (fun key => (orderId, key)) ?_
  rw [map_map]
  convert keys using 1
  refine map_congr_left fun entry listed => ?_
  have own : entry.1.1 = orderId := of_decide_eq_true (mem_filter.mp listed).2
  exact Prod.ext own.symm rfl

def ResolvedLine.cost (line : ResolvedLine) : String × LineContribution × Option CostStatus × CostStatus × Scaled :=
  (line.lineKey, line.prev, line.prevCostStatus, line.costStatus, line.quantity)

theorem allocateDiscount_cost (discountTotal sumLineSubtotals remaining : Int) (lines : List ResolvedLine) :
    (allocateDiscount discountTotal sumLineSubtotals remaining lines).map cost = lines.map cost := by
  fun_induction allocateDiscount discountTotal sumLineSubtotals remaining lines with
  | case1 => rfl
  | case2 => rfl
  | case3 remaining line lines _ alloc inner =>
    rw [map_cons, inner]
    rfl

theorem eventLines_cost (db : InsightDb) (event : OrderEvent) (existing : Option SalesOrderFactEntity) :
    (eventLines db event existing).map cost = (resolveLines db event).map cost := by
  rw [eventLines, discountedLines]
  split
  · exact allocateDiscount_cost ..
  · rfl

/-- A PENDING line has been counted exactly if its order is COMPLETED, and every day counts its PENDING lines. -/
structure InsightDb.Counted (db : InsightDb) : Prop where
  marked : ∀ orderId key line fact, db.lineFacts.lookup (orderId, key) = some line →
    db.orderFacts.lookup orderId = some fact → line.costStatus = .pending →
    (0 < line.contributed.unitsSold ↔ fact.orderStatus = .completed)
  counted : ∀ days, db.sumDaily days (·.pendingCostLinesCount) = db.pendingOn days

def countedIn (orderId : Uuid) (fact : Option SalesOrderFactEntity)
    (lineFacts : Table (Uuid × String) SalesOrderLineFactEntity) : Int :=
  if fact.any (·.orderStatus = .completed) then pendingIn orderId lineFacts else 0

theorem pendingOn_insert {fact} (written : after.orderFacts = db.orderFacts.insert orderId fact)
    (others : ∀ other, other ≠ orderId → pendingIn other after.lineFacts = pendingIn other db.lineFacts)
    (same : ∀ old, db.orderFacts.lookup orderId = some old → old.day = fact.day) (days : DayBranch → Bool) :
    after.pendingOn days = db.pendingOn days + if days fact.day then countedIn orderId (some fact) after.lineFacts -
      countedIn orderId (db.orderFacts.lookup orderId) db.lineFacts else 0 := by
  have rest := @sumBy_except _ _ _ (fun orderId (fact : SalesOrderFactEntity) =>
      if days fact.day = true ∧ fact.orderStatus = .completed then pendingIn orderId after.lineFacts else 0)
    (fun orderId fact => if days fact.day = true ∧ fact.orderStatus = .completed then pendingIn orderId db.lineFacts else 0)
    orderId (fun other row apart => by rw [others other apart]) db.orderFacts
  rw [pendingOn, written, sumBy_insert, rest, ← pendingOn, amountAt, countedIn, countedIn]
  cases stored : db.orderFacts.lookup orderId with
  | none => by_cases covered : days fact.day = true <;> simp [covered]
  | some old =>
    rw [Option.elim_some, same old stored]
    by_cases covered : days fact.day = true <;> simp [covered]
    omega

namespace InsightDb.Counted

theorem upsert (counted : db.Counted) {delta pending}
    (daily : after.active.daily = Table.upsert db.active.daily day {} (·.addOrder delta pending))
    (changed : ∀ days, after.pendingOn days = db.pendingOn days + if days day then pending else 0) (days : DayBranch → Bool) :
    after.sumDaily days (·.pendingCostLinesCount) = after.pendingOn days := by
  have row := counted.counted fun other => other = day
  have positive := after.pendingOn_nonneg fun other => other = day
  simp only [changed, decide_true, ↓reduceIte] at positive
  simp only [sumDaily, decide_eq_true_eq] at row
  rw [Table.sumBy_single (fun _ (row : DailySalesSummaryEntity) => row.pendingCostLinesCount), Table.amountAt] at row
  rw [changed, ← counted.counted, sumDaily, sumDaily, daily, Table.upsert, Table.sumBy_insert, Table.amountAt]
  cases stored : db.active.daily.lookup day with
  | none =>
    rw [stored, Option.elim_none] at row
    have value : (DailySalesSummaryEntity.addOrder delta pending {}).pendingCostLinesCount = max 0 (0 + pending) := rfl
    rw [Option.elim_none, Option.getD_none, value]
    split <;> omega
  | some old =>
    rw [stored, Option.elim_some] at row
    have value : (DailySalesSummaryEntity.addOrder delta pending old).pendingCostLinesCount =
      max 0 (old.pendingCostLinesCount + pending) := rfl
    rw [Option.elim_some, Option.getD_some, value]
    split <;> omega

theorem unchanged (counted : db.Counted) (daily : after.active.daily = db.active.daily)
    (same : ∀ days, after.pendingOn days = db.pendingOn days) (days : DayBranch → Bool) :
    after.sumDaily days (·.pendingCostLinesCount) = after.pendingOn days := by
  rw [same, ← counted.counted, sumDaily, sumDaily, daily]

end InsightDb.Counted

structure ContinuesLines (db : InsightDb) (orderId : Uuid) (lines : List ResolvedLine) : Prop where
  once : (lines.map (·.lineKey)).Nodup
  stored : ∀ line ∈ lines, line.prevCostStatus = (db.lineFacts.lookup (orderId, line.lineKey)).map (·.costStatus) ∧
    line.prev = ((db.lineFacts.lookup (orderId, line.lineKey)).map (·.contributed)).getD {}

/-- What an event must say of the lines of its order: each line once with what is stored of it, no PENDING line of a
COMPLETED order without units, and every PENDING line when the order becomes or ceases to be COMPLETED. -/
structure NamesLines (db : InsightDb) (orderId : Uuid) (existing : Option SalesOrderFactEntity) (status : OrderStatus)
    (lines : List ResolvedLine) : Prop extends ContinuesLines db orderId lines where
  units : status = .completed → ∀ line ∈ lines, line.costStatus = .pending → 0 < line.quantity
  all : existing.any (·.orderStatus = .completed) ≠ decide (status = .completed) →
    ∀ key line, db.lineFacts.lookup (orderId, key) = some line → line.costStatus = .pending → key ∈ lines.map (·.lineKey)

theorem lookup_writtenLines {lineFacts key line}
    (found : (writtenLines orderId day dimensions status lineFacts lines).lookup key = some line) :
    (∃ own ∈ lines, key = (orderId, own.lineKey) ∧ ∃ old, line = lineFact old day dimensions status own) ∨
      (∀ own ∈ lines, key ≠ (orderId, own.lineKey)) ∧ lineFacts.lookup key = some line := by
  induction lines generalizing lineFacts with
  | nil => exact .inr ⟨by simp, found⟩
  | cons first lines inner =>
    rcases inner found with ⟨own, member, named⟩ | ⟨apart, looked⟩
    · exact .inl ⟨own, .tail _ member, named⟩
    · rcases of_lookup_insert looked with ⟨here, rfl⟩ | ⟨different, before⟩
      · exact .inl ⟨first, .head _, here, _, rfl⟩
      · refine .inr ⟨fun own member => ?_, before⟩
        rcases mem_cons.mp member with rfl | later
        · exact different
        · exact apart own later

namespace NamesLines

variable {orderId : Uuid} {status : OrderStatus} {lines : List ResolvedLine} {dimensions : OrderDimensions}

theorem pendingDelta (names : NamesLines db orderId (db.orderFacts.lookup orderId) status lines) (recorded : db.Recorded)
    (counted : db.Counted) {line} (member : line ∈ lines) :
    line.pendingDelta status = (if status = .completed then line.nowPending else 0) -
      if (db.orderFacts.lookup orderId).any (·.orderStatus = .completed) then
        isPending (db.lineFacts.lookup (orderId, line.lineKey)) else 0 := by
  obtain ⟨costStatus, prev⟩ := names.stored line member
  rw [ResolvedLine.pendingDelta, costStatus, prev, ResolvedLine.nowPending, isPending]
  have now : (if status = .completed ∧ line.costStatus = .pending then (1 : Int) else 0) =
      if status = .completed then (if line.costStatus = .pending then 1 else 0) else 0 := by
    by_cases completed : status = .completed <;> simp [completed]
  rw [now]
  congr 1
  cases looked : db.lineFacts.lookup (orderId, line.lineKey) with
  | none => simp
  | some old =>
    obtain ⟨fact, found, _⟩ := recorded.lines orderId line.lineKey old looked
    by_cases pending : old.costStatus = .pending
    · have marked := counted.marked orderId line.lineKey old fact looked found pending
      rw [found]
      simp [pending, marked]
    · simp [pending]

theorem pendingIn_all (names : NamesLines db orderId (db.orderFacts.lookup orderId) status lines)
    (turned : (db.orderFacts.lookup orderId).any (·.orderStatus = .completed) ≠ decide (status = .completed)) :
    pendingIn orderId db.lineFacts = (lines.map fun line => isPending (db.lineFacts.lookup (orderId, line.lineKey))).sum := by
  have outside : pendingOutside orderId (lines.map (·.lineKey)) db.lineFacts = 0 := by
    refine sumBy_eq_zero fun entry listed => if_neg ?_
    rintro ⟨own, pending, unnamed⟩
    refine unnamed (names.all turned entry.1.2 entry.2 ?_ pending)
    rw [← own]
    exact mem_lookup_iff.mpr listed
  rw [pendingIn_split names.once, outside, zero_add, map_map]
  rfl

variable {fact : SalesOrderFactEntity}

theorem sum_pendingDelta (names : NamesLines db orderId (db.orderFacts.lookup orderId) status lines) (recorded : db.Recorded)
    (counted : db.Counted) (set : fact.orderStatus = status) : (lines.map (·.pendingDelta status)).sum =
      countedIn orderId (some fact) (writtenLines orderId day dimensions status db.lineFacts lines) -
        countedIn orderId (db.orderFacts.lookup orderId) db.lineFacts := by
  have deltas : lines.map (·.pendingDelta status) = lines.map fun line =>
      (if status = .completed then line.nowPending else 0) -
        if (db.orderFacts.lookup orderId).any (·.orderStatus = .completed) then
          isPending (db.lineFacts.lookup (orderId, line.lineKey)) else 0 :=
    map_congr_left fun line member => names.pendingDelta recorded counted member
  rw [deltas, Transaction.sum_map_sub, countedIn, countedIn, pendingIn_written names.once, Transaction.sum_map_sub, Option.any_some, set]
  by_cases was : (db.orderFacts.lookup orderId).any (·.orderStatus = .completed) = true <;>
    by_cases now : status = .completed
  · simp [was, now]
  · rw [names.pendingIn_all (by simp [was, now])]
    simp [was, now]
  · rw [names.pendingIn_all (by simp [was, now])]
    simp [was, now]
  · simp [was, now]

theorem marked (names : NamesLines db orderId (db.orderFacts.lookup orderId) status lines) (counted : db.Counted)
    (recorded : db.Recorded) (set : fact.orderStatus = status) {other key line otherFact}
    (found : (writtenLines orderId day dimensions status db.lineFacts lines).lookup (other, key) = some line)
    (looked : (db.orderFacts.insert orderId fact).lookup other = some otherFact) (pending : line.costStatus = .pending) :
    0 < line.contributed.unitsSold ↔ otherFact.orderStatus = .completed := by
  rcases lookup_writtenLines found with ⟨own, member, named, old, rfl⟩ | ⟨apart, before⟩
  · rw [(Prod.mk.inj named).1, lookup_insert_self] at looked
    cases looked
    rw [set, lineFact, target]
    by_cases completed : status = .completed
    · simp only [completed, ↓reduceIte, iff_true]
      exact names.units completed own member pending
    · simp [completed]
  · rcases of_lookup_insert looked with ⟨rfl, rfl⟩ | ⟨_, stored⟩
    · obtain ⟨old, stored, _⟩ := recorded.lines other key line before
      rw [counted.marked other key line old before stored pending, set]
      by_contra different
      refine absurd (names.all ?_ key line before pending) ?_
      · rw [stored, Option.any_some]
        intro same
        exact different (by simpa using same)
      · intro member
        obtain ⟨own, listed, rfl⟩ := mem_map.mp member
        exact apart own listed rfl
    · exact counted.marked other key line otherFact before stored pending

end NamesLines

namespace InsightDb.Counted

theorem applyOrder (counted : db.Counted) (recorded : db.Recorded) {event}
    (steady : db.steady (.order event) = true) (given : event.day (db.orderFacts.lookup event.orderId) = some day)
    (names : NamesLines db event.orderId (db.orderFacts.lookup event.orderId) event.status
      (eventLines db event (db.orderFacts.lookup event.orderId))) :
    (applyOrderEvent db event (db.orderFacts.lookup event.orderId) day).Counted := by
  have applies := applyOrderEvent_applies db event (db.orderFacts.lookup event.orderId) day
  have pending := pendingOn_insert applies.orderFacts
    (fun other apart => by rw [applies.lineFacts, pendingIn_written_other apart])
    (fun old stored => OrderEvent.day_steady steady given stored)
  rw [applies.lineFacts, ← names.sum_pendingDelta recorded counted rfl] at pending
  refine ⟨fun orderId key line fact found looked late => ?_, ?_⟩
  · rw [applies.lineFacts] at found
    rw [applies.orderFacts] at looked
    exact names.marked counted recorded rfl found looked late
  · rcases applies.daily with ⟨daily, _, none⟩ | daily
    · refine counted.unchanged daily fun days => ?_
      rw [pending days, none, ite_self, add_zero]
    · exact counted.upsert daily pending

theorem resolveLine (counted : db.Counted) (unitCost : Int) {key line fact} (found : db.lineFacts.lookup key = some line)
    (late : line.costStatus = .pending) (stored : db.orderFacts.lookup key.1 = some fact) (same : fact.day = line.day) :
    (resolveLineCost unitCost db (key, line)).Counted := by
  have resolves := resolveLineCost_resolves unitCost line stored
  obtain ⟨costed, orders, sameDay, sameStatus, _⟩ := resolves.orderFacts
  obtain ⟨resolved, lines, verified, _⟩ := resolves.lineFacts
  have marked := counted.marked key.1 key.2 line fact found stored late
  have pending := pendingOn_insert orders (fun other apart => by rw [lines, pendingIn_other apart])
    (fun old looked => by rw [sameDay, Option.some.inj (stored.symm.trans looked)])
  have fewer : pendingIn key.1 (db.lineFacts.insert key resolved) = pendingIn key.1 db.lineFacts - 1 := by
    rw [pendingIn_insert, found, isPending, isPending, Option.map_some, Option.map_some, late, verified]
    simp
  rw [lines, stored, countedIn, countedIn, Option.any_some, Option.any_some, sameStatus, fewer, sameDay, same] at pending
  refine ⟨fun orderId other row otherFact looked known open_ => ?_, ?_⟩
  · rw [lines] at looked
    rw [orders] at known
    rcases of_lookup_insert looked with ⟨_, rfl⟩ | ⟨_, before⟩
    · cases verified.symm.trans open_
    · rcases of_lookup_insert known with ⟨rfl, rfl⟩ | ⟨_, knownBefore⟩
      · rw [sameStatus]
        exact counted.marked key.1 other row fact before stored open_
      · exact counted.marked orderId other row otherFact before knownBefore open_
  · have daily := resolves.daily
    by_cases completed : 0 < line.contributed.unitsSold
    · rw [if_pos completed] at daily
      refine counted.upsert daily fun days => ?_
      rw [pending days]
      simp only [marked.mp completed, decide_true, ↓reduceIte]
      split <;> omega
    · rw [if_neg completed] at daily
      refine counted.unchanged daily fun days => ?_
      rw [pending days]
      simp [mt marked.mpr completed]

end InsightDb.Counted

/-- The items have distinct keys, and none falls back to a line that is stored under its SKU. -/
def InsightDb.namesOwnLines (db : InsightDb) (event : OrderEvent) : Bool :=
  (event.items.mapIdx fun index item => item.key index).Nodup
    && event.items.zipIdx.all (fun entry => (db.lineFacts.lookup (event.orderId, entry.1.key entry.2)).isSome
      || (db.lineFacts.lookup (event.orderId, entry.1.code entry.2)).isNone)

/-- Whether an order event, if it is not skipped, names each line once and by its own key, counts units of every line whose
cost is missing when it completes the order, and names every PENDING line when it completes the order or takes it back. -/
def InsightDb.namesPendingLines (db : InsightDb) (event : OrderEvent) : Bool :=
  let existing := db.orderFacts.lookup event.orderId
  let pendingLines := (db.linesOf event.orderId).filter (·.2.costStatus = .pending)
  let keys := event.items.mapIdx fun index item => item.key index
  (existing.bind event.skipped).isSome ||
    if event.items.isEmpty then event.status ≠ .completed || pendingLines.all (0 < ·.2.quantity)
    else db.namesOwnLines event
      && (event.status ≠ .completed || event.items.zipIdx.all fun entry =>
        (costSnapshot entry.1 (prevLine db event.orderId entry.1 entry.2) event.costMissing).1 = .verified
          || 0 < entry.1.quantity)
      && (existing.any (·.orderStatus = .completed) = decide (event.status = .completed)
        || pendingLines.all (·.1 ∈ keys))

def InsightDb.namesPending (db : InsightDb) : SalesEvent → Bool
  | .order event => db.namesPendingLines event
  | _ => true

theorem twin_of_cost (same : lines.map cost = others.map cost) :
    ∀ line ∈ lines, ∃ other ∈ others, other.cost = line.cost := by
  intro line member
  have listed := mem_map_of_mem (f := cost) member
  rw [same] at listed
  exact mem_map.mp listed

theorem keys_of_cost (same : lines.map cost = others.map cost) :
    lines.map (·.lineKey) = others.map (·.lineKey) := by
  have first := congrArg (map Prod.fst) same
  rw [map_map, map_map] at first
  exact first

theorem ContinuesLines.of_cost (continues : ContinuesLines db orderId others)
    (same : lines.map cost = others.map cost) : ContinuesLines db orderId lines := by
  refine ⟨keys_of_cost same ▸ continues.once, fun line member => ?_⟩
  obtain ⟨other, listed, equal⟩ := twin_of_cost same line member
  simp only [cost, Prod.mk.injEq] at equal
  obtain ⟨key, prev, prevCostStatus, _⟩ := equal
  rw [← key, ← prev, ← prevCostStatus]
  exact continues.stored other listed

theorem NamesLines.of_cost {existing} (names : NamesLines db orderId existing status others)
    (same : lines.map cost = others.map cost) : NamesLines db orderId existing status lines := by
  refine ⟨names.toContinuesLines.of_cost same, fun completed line member late => ?_, keys_of_cost same ▸ names.all⟩
  obtain ⟨other, listed, equal⟩ := twin_of_cost same line member
  simp only [cost, Prod.mk.injEq] at equal
  rw [← equal.2.2.2.2]
  exact names.units completed other listed (equal.2.2.2.1.trans late)

theorem keys_resolveItems (event : OrderEvent) :
    (event.items.mapIdx fun index item => resolveItem db event item index).map (·.lineKey) =
      event.items.mapIdx fun index item => item.key index := by
  rw [mapIdx_eq_zipIdx_map, mapIdx_eq_zipIdx_map, map_map]
  rfl

theorem mem_resolveItems {line} (member : line ∈ event.items.mapIdx fun index item => resolveItem db event item index) :
    ∃ entry ∈ event.items.zipIdx, resolveItem db event entry.1 entry.2 = line := by
  rw [mapIdx_eq_zipIdx_map] at member
  exact mem_map.mp member

theorem keys_storedLines (event : OrderEvent) :
    ((db.linesOf event.orderId).map fun entry => entry.2.resolved entry.1).map (·.lineKey) =
      (db.linesOf event.orderId).map (·.1) := by
  rw [map_map]
  rfl

theorem continuesLines (event : OrderEvent) (named : event.items.isEmpty = true ∨ db.namesOwnLines event = true) :
    ContinuesLines db event.orderId (resolveLines db event) := by
  rw [resolveLines]
  by_cases empty : event.items.isEmpty = true
  · rw [if_pos empty]
    refine ⟨?_, fun line member => ?_⟩
    · rw [keys_storedLines]
      exact nodup_linesOf db event.orderId
    · obtain ⟨entry, listed, rfl⟩ := mem_map.mp member
      have found : db.lineFacts.lookup (event.orderId, (entry.2.resolved entry.1).lineKey) = some entry.2 :=
        mem_linesOf.mp listed
      rw [found]
      exact ⟨rfl, rfl⟩
  · rw [if_neg empty]
    have own := named.resolve_left empty
    simp only [namesOwnLines, Bool.and_eq_true, Bool.or_eq_true, decide_eq_true_eq, all_eq_true] at own
    refine ⟨?_, fun line member => ?_⟩
    · rw [keys_resolveItems]
      exact own.1
    · obtain ⟨entry, inside, rfl⟩ := mem_resolveItems member
      have prev : prevLine db event.orderId entry.1 entry.2 = db.lineFacts.lookup (event.orderId, entry.1.key entry.2) := by
        rw [prevLine]
        rcases own.2 entry inside with found | absent
        · obtain ⟨old, looked⟩ := Option.isSome_iff_exists.mp found
          rw [looked]
          rfl
        · rw [Option.isNone_iff_eq_none.mp absent]
          cases db.lineFacts.lookup (event.orderId, entry.1.key entry.2) <;> rfl
      rw [resolveItem, prev]
      exact ⟨rfl, rfl⟩

section

variable (named : db.namesPendingLines event = true) (taken : (db.orderFacts.lookup event.orderId).bind event.skipped = none)
include named taken

theorem namesLines_items (filled : event.items.isEmpty = false) :
    NamesLines db event.orderId (db.orderFacts.lookup event.orderId) event.status (resolveLines db event) := by
  rw [namesPendingLines, taken, filled] at named
  simp only [Option.isSome_none, Bool.false_or, Bool.false_eq_true, ↓reduceIte] at named
  simp only [Bool.and_eq_true, Bool.or_eq_true, decide_eq_true_eq, all_eq_true] at named
  obtain ⟨⟨own, units⟩, all⟩ := named
  refine ⟨continuesLines event (.inr own), fun completed line member late => ?_, fun turned key line found late => ?_⟩
  · rw [resolveLines, filled, if_neg Bool.false_ne_true] at member
    obtain ⟨entry, inside, rfl⟩ := mem_resolveItems member
    rcases units with other | counted
    · exact absurd completed other
    · rcases counted entry inside with verified | positive
      · exact absurd (verified.symm.trans late) (by decide)
      · exact positive
  · rw [resolveLines, filled, if_neg Bool.false_ne_true, keys_resolveItems]
    rcases all with same | inside
    · exact absurd same turned
    · exact inside (key, line) (mem_filter.mpr ⟨mem_linesOf.mpr found, decide_eq_true late⟩)

theorem namesLines_stored (empty : event.items.isEmpty = true) :
    NamesLines db event.orderId (db.orderFacts.lookup event.orderId) event.status (resolveLines db event) := by
  rw [namesPendingLines, taken, empty] at named
  simp only [Option.isSome_none, Bool.false_or, ↓reduceIte, Bool.or_eq_true, decide_eq_true_eq, all_eq_true] at named
  refine ⟨continuesLines event (.inl empty), fun completed line member late => ?_, fun _ key line found _ => ?_⟩
  · rw [resolveLines, if_pos empty] at member
    obtain ⟨entry, listed, rfl⟩ := mem_map.mp member
    rcases named with other | counted
    · exact absurd completed other
    · exact counted entry (mem_filter.mpr ⟨listed, decide_eq_true late⟩)
  · rw [resolveLines, if_pos empty, keys_storedLines]
    exact mem_map.mpr ⟨(key, line), mem_linesOf.mpr found, rfl⟩

end

namespace InsightDb.Counted

theorem step (counted : db.Counted) (recorded : db.Recorded) {event} (steady : db.steady event = true)
    (named : db.namesPending event = true) : (processSalesEvent db event).Counted := by
  cases event with
  | order event =>
    rw [processSalesEvent, processSalesOrderEvent]
    split
    · exact counted
    · next taken =>
      split
      · exact counted
      · next given =>
        have notSkipped := Option.not_isSome_iff_eq_none.mp taken
        have names : NamesLines db event.orderId (db.orderFacts.lookup event.orderId) event.status
            (Insight.resolveLines db event) := by
          cases filled : event.items.isEmpty with
          | false => exact namesLines_items named notSkipped filled
          | true => exact namesLines_stored named notSkipped filled
        exact counted.applyOrder recorded steady given (names.of_cost (eventLines_cost ..))
  | cost skuCode unitCost orderId =>
    exact @Recorded.resolvePending db Counted (fun line day _ => day = line.day) _ _ _
      (fun counted found late stored same => counted.resolveLine _ found late stored same) counted
      fun _ _ found _ _ => recorded.lines _ _ _ found
  | returned event =>
    rw [processSalesEvent]
    rcases processSalesReturnCompleted_applies event with same | ⟨new, fact, applies⟩
    · rw [same]
      exact counted
    · have pending : ∀ days, (processSalesReturnCompleted db event).pendingOn days = db.pendingOn days := by
        intro days
        rw [pendingOn, pendingOn, applies.orderFacts, applies.lineFacts]
      refine ⟨?_, fun days => ?_⟩
      · rw [applies.orderFacts, applies.lineFacts]
        exact counted.marked
      · rw [pending, ← counted.counted, sumDaily_upsert days rfl ?_ applies.daily, ite_self, add_zero]
        intro row
        exact (add_zero _).symm

theorem empty (activeGenerationId : GenerationId) (buildingGenerationIds : List GenerationId) :
    Counted { activeGenerationId, buildingGenerationIds } := by
  refine ⟨fun orderId key line fact found => ?_, fun days => rfl⟩
  cases found

end InsightDb.Counted

def InsightDb.dailyRow (db : InsightDb) (day : DayBranch) : DailySalesSummaryEntity := (db.active.daily.lookup day).getD {}

structure InsightDb.Reconciles (db : InsightDb) (day : DayBranch) : Prop where
  gmv : (db.dailyRow day).gmv = db.sumOrders (· = day) (·.gmv)
  grossSalesRevenue : (db.dailyRow day).grossSalesRevenue = db.sumOrders (· = day) (·.grossRevenue)
  discountTotal : (db.dailyRow day).discountTotal = db.sumOrders (· = day) (·.discount)
  cogsAmount : (db.dailyRow day).cogsAmount = db.sumOrders (· = day) (·.cogs)
  orderCount : (db.dailyRow day).orderCount = db.sumOrders (· = day) (·.orderCount)
  completedOrderCount : (db.dailyRow day).completedOrderCount = db.sumOrders (· = day) (·.completedCount)
  cancelledOrderCount : (db.dailyRow day).cancelledOrderCount = db.sumOrders (· = day) (·.cancelledCount)
  returnsAmount : (db.dailyRow day).returnsAmount = db.sumReturns (· = day) (·.refundAmount)
  returnedCogsAmount : (db.dailyRow day).returnedCogsAmount = db.sumReturns (· = day) (·.returnedCogsAmount)
  netSalesRevenue : (db.dailyRow day).netSalesRevenue =
    (db.dailyRow day).grossSalesRevenue - (db.dailyRow day).discountTotal - (db.dailyRow day).returnsAmount
  grossProfit : (db.dailyRow day).grossProfit =
    (db.dailyRow day).netSalesRevenue - ((db.dailyRow day).cogsAmount - (db.dailyRow day).returnedCogsAmount)

theorem sumOrders_sub (db : InsightDb) (days : DayBranch → Bool) (first second : OrderContributionVector → Int) :
    db.sumOrders days (fun contributed => first contributed - second contributed) =
      db.sumOrders days first - db.sumOrders days second := by
  rw [sumOrders, sumOrders, sumOrders, ← sumBy_sub]
  refine sumBy_congr fun entry _ => ?_
  split <;> omega

theorem sumReturns_sub (db : InsightDb) (days : DayBranch → Bool) (first second : SalesReturnFactEntity → Int) :
    db.sumReturns days (fun fact => first fact - second fact) = db.sumReturns days first - db.sumReturns days second := by
  rw [sumReturns, sumReturns, sumReturns, ← sumBy_sub]
  refine sumBy_congr fun entry _ => ?_
  split <;> omega

theorem sumOrders_zero (db : InsightDb) (days : DayBranch → Bool) : db.sumOrders days (fun _ => 0) = 0 :=
  sumBy_eq_zero fun _ _ => ite_self 0

theorem sumReturns_zero (db : InsightDb) (days : DayBranch → Bool) : db.sumReturns days (fun _ => 0) = 0 :=
  sumBy_eq_zero fun _ _ => ite_self 0

theorem sumOrders_profit (db : InsightDb) (days : DayBranch → Bool) :
    db.sumOrders days (fun contributed => contributed.netRevenue - contributed.cogs) =
      db.sumOrders days (·.netRevenue) - db.sumOrders days (·.cogs) :=
  sumOrders_sub ..

theorem sumReturns_net (db : InsightDb) (days : DayBranch → Bool) :
    db.sumReturns days (fun fact => 0 - fact.refundAmount) = 0 - db.sumReturns days (·.refundAmount) := by
  rw [sumReturns_sub, sumReturns_zero]

theorem sumReturns_profit (db : InsightDb) (days : DayBranch → Bool) :
    db.sumReturns days (fun fact => fact.returnedCogsAmount - fact.refundAmount) =
      db.sumReturns days (·.returnedCogsAmount) - db.sumReturns days (·.refundAmount) :=
  sumReturns_sub ..

/-- Every figure is the sum over the facts, and what an order contributes net is its gross revenue less its discount. -/
structure InsightDb.Balanced (db : InsightDb) : Prop where
  figures : ∀ (figure : Figure) (days : DayBranch → Bool), figure.Matches db days
  net : ∀ orderId fact, db.orderFacts.lookup orderId = some fact →
    fact.contributed.netRevenue = fact.contributed.grossRevenue - fact.contributed.discount

namespace InsightDb.Balanced

theorem dailyRow (balanced : db.Balanced) (figure : Figure) (day : DayBranch) :
    figure.column (db.dailyRow day) = db.sumOrders (· = day) figure.ordered +
      db.sumReturns (· = day) fun fact => figure.returned fact.refundAmount fact.returnedCogsAmount := by
  have matched := balanced.figures figure (· = day)
  simp only [Figure.Matches, InsightDb.sumDaily, decide_eq_true_eq] at matched
  rw [sumBy_single fun _ row => figure.column row, amountAt] at matched
  rw [← matched, InsightDb.dailyRow]
  cases db.active.daily.lookup day with
  | none => exact figure.column_empty
  | some row => rfl

theorem sumOrders_net (balanced : db.Balanced) (days : DayBranch → Bool) : db.sumOrders days (·.netRevenue) =
    db.sumOrders days (·.grossRevenue) - db.sumOrders days (·.discount) := by
  rw [← sumOrders_sub, sumOrders, sumOrders]
  refine sumBy_congr fun entry listed => ?_
  rw [balanced.net entry.1 entry.2 (mem_lookup_iff.mpr listed)]

theorem reconciles (balanced : db.Balanced) (day : DayBranch) : db.Reconciles day := by
  have sold : ∀ figure : Figure, (figure.returned = fun _ _ => 0) →
      figure.column (db.dailyRow day) = db.sumOrders (· = day) figure.ordered := by
    intro figure none
    rw [balanced.dailyRow, none, sumReturns_zero, add_zero]
  have taken : ∀ figure : Figure, (figure.ordered = fun _ => 0) → figure.column (db.dailyRow day) =
      db.sumReturns (· = day) fun fact => figure.returned fact.refundAmount fact.returnedCogsAmount := by
    intro figure none
    rw [balanced.dailyRow, none, sumOrders_zero, zero_add]
  have gross := sold .grossSalesRevenue rfl
  have discount := sold .discountTotal rfl
  have cogs := sold .cogsAmount rfl
  have returns := taken .returnsAmount rfl
  have returnedCogs := taken .returnedCogsAmount rfl
  have net := balanced.dailyRow .netSalesRevenue day
  have profit := balanced.dailyRow .grossProfit day
  dsimp only [Figure.grossSalesRevenue, Figure.discountTotal, Figure.cogsAmount, Figure.returnsAmount,
    Figure.returnedCogsAmount, Figure.netSalesRevenue, Figure.grossProfit, Figure.ofOrders] at *
  rw [sumReturns_net, balanced.sumOrders_net] at net
  rw [sumOrders_profit, sumReturns_profit, balanced.sumOrders_net] at profit
  refine ⟨sold .gmv rfl, gross, discount, cogs, sold .orderCount rfl, sold .completedOrderCount rfl,
    sold .cancelledOrderCount rfl, returns, returnedCogs, ?_, ?_⟩
  · rw [net, gross, discount, returns]
    omega
  · rw [profit, net, cogs, returnedCogs]
    omega

end InsightDb.Balanced

namespace InsightDb.Recorded

theorem balanced (recorded : db.Recorded) : db.Balanced := ⟨recorded.figures, recorded.net⟩

theorem executeReconciliation (recorded : db.Recorded) (window : ReconciliationWindow) :
    executeReconciliation db window = [] := by
  have figures := fun figure => recorded.figures figure window.covers
  have gmv := figures .gmv
  have gross := figures .grossSalesRevenue
  have returns := figures .returnsAmount
  have net := figures .netSalesRevenue
  have profit := figures .grossProfit
  have completed := figures .completedOrderCount
  have cancelled := figures .cancelledOrderCount
  simp only [Figure.Matches, Figure.gmv, Figure.grossSalesRevenue, Figure.returnsAmount, Figure.netSalesRevenue,
    Figure.grossProfit, Figure.completedOrderCount, Figure.cancelledOrderCount, Figure.ofOrders, sumReturns_zero,
    sumOrders_zero, sumReturns_net, sumOrders_profit, sumReturns_profit] at *
  refine filter_eq_nil_iff.mpr fun check listed => ?_
  simp only [reconciliationChecks, mem_cons, not_mem_nil, or_false] at listed
  rcases listed with rfl | rfl | rfl | rfl | rfl | rfl | rfl <;> simp only [ne_eq, decide_not, Bool.not_eq_true',
    decide_eq_false_iff_not, not_not] <;> omega

end InsightDb.Recorded

theorem InsightDb.Counted.dailyRow (counted : db.Counted) (day : DayBranch) :
    (db.dailyRow day).pendingCostLinesCount = db.pendingOn (· = day) := by
  have matched := counted.counted (· = day)
  simp only [InsightDb.sumDaily, decide_eq_true_eq] at matched
  rw [sumBy_single fun _ (row : DailySalesSummaryEntity) => row.pendingCostLinesCount, amountAt] at matched
  rw [← matched, InsightDb.dailyRow]
  cases db.active.daily.lookup day <;> rfl

/-- While no order changes its branch, the figures of every day are the sums over its facts and reconciliation finds no
issue; while every event also names the lines whose count it changes, every day counts the PENDING lines of its COMPLETED
orders. -/
theorem daily_figures_reconcile (activeGenerationId : GenerationId) (buildingGenerationIds : List GenerationId)
    {events : List SalesEvent} (steady : Run.Meets processSalesEvent (fun db event => db.steady event = true)
      { activeGenerationId, buildingGenerationIds } events) :
    let after := Run.after processSalesEvent { activeGenerationId, buildingGenerationIds } events
    (∀ day, after.Reconciles day) ∧ (∀ window, executeReconciliation after window = []) ∧
      (Run.Meets processSalesEvent (fun db event => db.namesPending event = true)
          { activeGenerationId, buildingGenerationIds } events →
        ∀ day, (after.dailyRow day).pendingCostLinesCount = after.pendingOn (· = day)) := by
  have recorded := Run.invariant_of_meets Recorded (fun _ _ steady recorded => recorded.step steady) steady
    (.empty activeGenerationId buildingGenerationIds)
  refine ⟨recorded.balanced.reconciles, recorded.executeReconciliation, fun named => ?_⟩
  have both := Run.invariant_of_meets (fun db => db.Recorded ∧ db.Counted)
    (fun db event met held => ⟨held.1.step met.1, held.2.step held.1 met.1 met.2⟩) (steady.and named)
    ⟨.empty activeGenerationId buildingGenerationIds, .empty activeGenerationId buildingGenerationIds⟩
  exact both.2.dailyRow

private def shirt (costMissing : Bool) : OrderItemEventInput :=
  { skuCode := some "SHIRT", quantity := 20000, unitPrice := 1000000000, costMissing }

private def sold (status : OrderStatus) (items : List OrderItemEventInput) : SalesEvent :=
  .order { status, orderId := 1, branchId := some 1, sentAt := 0, items }

theorem daily_figures_reconcile_late_cost :
    let after := Run.after processSalesEvent {} [sold .confirmed [shirt true], sold .completed [shirt true],
      .cost "SHIRT" 500000000 none, sold .cancelled []]
    after.Reconciles ⟨0, 1⟩ ∧ (after.dailyRow ⟨0, 1⟩).pendingCostLinesCount = after.pendingOn (· = ⟨0, 1⟩) := by
  have reconciled := @daily_figures_reconcile 0 [] [sold .confirmed [shirt true], sold .completed [shirt true],
    .cost "SHIRT" 500000000 none, sold .cancelled []] (by decide +kernel)
  exact ⟨reconciled.1 _, reconciled.2.2 (by decide +kernel) _⟩

private def trousers : OrderItemEventInput :=
  { skuCode := some "TROUSERS", quantity := 10000, unitPrice := 3000000000, unitCost := some 1000000000 }

/-- A line that is taken off an order before it completes stays PENDING and is never counted. -/
theorem dropped_line_not_counted :
    Run.Meets processSalesEvent (fun db event => db.steady event = true) {}
      [sold .confirmed [shirt true], sold .completed [trousers]] ∧
    (Run.after processSalesEvent {} [sold .confirmed [shirt true], sold .completed [trousers]]).pendingOn (· = ⟨0, 1⟩) = 1 ∧
    ((Run.after processSalesEvent {} [sold .confirmed [shirt true], sold .completed [trousers]]).dailyRow
      ⟨0, 1⟩).pendingCostLinesCount = 0 := by
  decide +kernel

end Insight
