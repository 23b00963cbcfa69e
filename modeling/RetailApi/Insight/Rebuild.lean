import RetailApi.Insight.Projections

/-! A rebuild of the daily summaries beside the transactions of order and return events, one statement at a time. A statement
sees what is committed before it; the rows a transaction has written are locked until it commits. -/

namespace Insight

structure RebuildWindow where
  fromDate : Option Int := none
  toDate : Option Int := none

def RebuildWindow.covers (window : RebuildWindow) (day : DayBranch) : Bool :=
  window.fromDate.all (· ≤ day.dateBucket) && window.toDate.all (day.dateBucket ≤ ·)

/-- What an event, or a fact that is replayed, changes a daily row by. -/
inductive DailyDelta where
  | order (delta : OrderContributionVector) (pendingCostLinesDelta : Int)
  | returned (refundAmount returnedCogs : Int) (returnedUnits : Scaled)

def DailyDelta.apply : DailyDelta → DailySalesSummaryEntity → DailySalesSummaryEntity
  | .order delta pending => .addOrder delta pending
  | .returned refund cogs units => .addReturn refund cogs units

def InsightDb.addDaily (db : InsightDb) (day : DayBranch) (delta : DailyDelta) (generation : GenerationId) : InsightDb :=
  db.updateGeneration (fun summaries => { summaries with daily := Table.upsert summaries.daily day {} delta.apply }) generation

inductive FactKey where
  | order (orderId : Uuid)
  | returned (returnId : Uuid)
deriving DecidableEq

/-- What the transaction of an event writes, computed from what it has read. -/
inductive EventWrite where
  | order (event : OrderEvent) (existing : Option SalesOrderFactEntity) (fact : SalesOrderFactEntity) (lines : List ResolvedLine)
  | returned (returnId : Uuid) (fact : SalesReturnFactEntity)

namespace EventWrite

def key : EventWrite → FactKey
  | .order event _ _ _ => .order event.orderId
  | .returned returnId _ => .returned returnId

def day : EventWrite → DayBranch
  | .order _ _ fact _ => fact.day
  | .returned _ fact => fact.day

/-- What the daily row changes by; an order that contributes what it did leaves the row. -/
def delta : EventWrite → Option DailyDelta
  | .order event existing fact lines =>
    let delta := computeOrderContributionDelta fact.contributed (existing.map (·.contributed))
    let pendingLinesDelta := (lines.map (·.pendingDelta event.status)).sum
    if isZeroContributionDelta delta = false ∨ pendingLinesDelta ≠ 0 then some (.order delta pendingLinesDelta) else none
  | .returned _ fact => some (.returned fact.refundAmount fact.returnedCogsAmount fact.returnedUnits)

end EventWrite

/-- The write of an order event that is not skipped; the lines of a known order only are read. -/
def orderWrite (db : InsightDb) (event : OrderEvent) : Option EventWrite :=
  let existing := db.orderFacts.lookup event.orderId
  if (existing.bind event.skipped).isSome then none
  else (event.day existing).map fun day =>
    let lines := resolveLines { lineFacts := if existing.isSome then db.lineFacts else ∅ } event
    let totals := orderTotals event existing lines
    .order event existing (orderFact event existing day totals) (discountedLines lines totals.discountTotal)

/-- The write of a return event, from its order and the line facts. -/
def returnWrite (lineFacts : Table (Uuid × String) SalesOrderLineFactEntity) (event : ReturnEvent)
    (order : Option SalesOrderFactEntity) : Option EventWrite :=
  (event.branchId <|> order.map (·.day.branchId)).map fun branchId =>
    let refundAmount := wholeMoney event.totalRefundAmount
    let orderFacts := order.elim ∅ fun fact => (∅ : Table Uuid SalesOrderFactEntity).insert event.orderId fact
    .returned event.returnId (returnFact event ⟨toReportingDateBucket event.occurredAt, branchId⟩ (event.dimensions order)
      refundAmount (returnedLines { orderFacts, lineFacts } event refundAmount))

inductive EventStage where
  | upsertOrderFact
  | readActiveGeneration
  | readBuildingGenerations (activeGenerationId : GenerationId)
  | insertReturnFact (targets : List GenerationId)
  /-- The generations whose daily rows are still to be written; after the last the transaction commits. -/
  | writeDaily (targets : List GenerationId)

/-- A transaction holds the row of its fact: an order that is read `FOR UPDATE`, or what it has written. -/
def EventWrite.holds : EventWrite → EventStage → Bool
  | .order _ existing _ _, .upsertOrderFact => existing.isSome
  | .order _ _ _ _, _ => true
  | .returned _ _, .writeDaily _ => true
  | .returned _ _, _ => false

def EventWrite.targeting : EventWrite → List GenerationId → EventStage
  | .order event existing fact lines, targets =>
    .writeDaily (if (EventWrite.order event existing fact lines).delta.isSome then targets else [])
  | .returned _ _, targets => .insertReturnFact targets

inductive EventTransaction where
  | readOrder (event : ReturnEvent)
  | readLines (event : ReturnEvent) (order : Option SalesOrderFactEntity)
  | writing (write : EventWrite) (stage : EventStage) (written : List GenerationId)

def EventTransaction.locksFact (key : FactKey) : EventTransaction → Bool
  | .writing write stage _ => write.key = key && write.holds stage
  | _ => false

def EventTransaction.locksDaily (generation : GenerationId) (day : DayBranch) : EventTransaction → Bool
  | .writing write _ written => write.day = day && written.contains generation
  | _ => false

/-- `ON CONFLICT DO UPDATE` of an order fact keeps the date, and a customer that is not named. -/
def SalesOrderFactEntity.onConflict (fact : SalesOrderFactEntity) (stored : Option SalesOrderFactEntity) : SalesOrderFactEntity :=
  { fact with
    day := { fact.day with dateBucket := (stored.map (·.day.dateBucket)).getD fact.day.dateBucket }
    customerId := fact.customerId <|> stored.bind (·.customerId) }

def InsightDb.writeFact (db : InsightDb) : EventWrite → InsightDb
  | .order event existing fact lines => { db with
      orderFacts := db.orderFacts.insert event.orderId (fact.onConflict (db.orderFacts.lookup event.orderId))
      lineFacts := writtenLines event.orderId fact.day (event.dimensions existing) event.status db.lineFacts lines }
  | .returned returnId fact => { db with returnFacts := db.returnFacts.insert returnId fact }

def InsightDb.commit (db : InsightDb) (write : EventWrite) (written : List GenerationId) : InsightDb :=
  match write.delta with
  | none => db.writeFact write
  | some delta => written.foldl (fun db generation => db.addDaily write.day delta generation) (db.writeFact write)

inductive RebuildStage where
  | announce
  | copy
  | clear
  | scanOrders
  | scanLines (orders : List (Uuid × SalesOrderFactEntity))
  | replayOrders (replays : List (DayBranch × DailyDelta))
  | replayReturns (replays : List (DayBranch × DailyDelta))
  | completed

/-- A rebuild since it has read the active generation. Its rows are kept in place: nobody reads the generation that is built,
and who would write a row that the rebuild has touched waits. -/
structure Rebuild where
  window : RebuildWindow
  previousGenerationId : GenerationId
  newGenerationId : GenerationId
  stage : RebuildStage := .announce
  touched : List DayBranch := []

/-- The summaries outside the window are copied; `ON CONFLICT DO NOTHING`. -/
def copyDaily (window : RebuildWindow) (source target : Table DayBranch DailySalesSummaryEntity) :
    Table DayBranch DailySalesSummaryEntity :=
  source.entries.foldl (fun table entry =>
    if window.covers entry.1 || (table.lookup entry.1).isSome then table else table.insert entry.1 entry.2) target

def orderReplay (fact : SalesOrderFactEntity) (pendingLinesCount : Int) : DayBranch × DailyDelta :=
  (fact.day, .order (computeTargetOrderContribution fact.orderStatus fact.subtotal fact.discountTotal fact.cogsTotal
    fact.unitsTotal) pendingLinesCount)

def returnReplay (fact : SalesReturnFactEntity) : DayBranch × DailyDelta :=
  (fact.day, .returned fact.refundAmount fact.returnedCogsAmount fact.returnedUnits)

/-- The PENDING lines of a COMPLETED order among the lines in the window. -/
def pendingLinesCount (window : RebuildWindow) (lineFacts : Table (Uuid × String) SalesOrderLineFactEntity)
    (order : Uuid × SalesOrderFactEntity) : Int :=
  if order.2.orderStatus = .completed then
    (lineFacts.entries.filter fun entry =>
      entry.1.1 = order.1 ∧ window.covers entry.2.day ∧ entry.2.costStatus = .pending).length
  else 0

/-- What is committed, the open transactions of events, and the rebuild. -/
structure InsightRun where
  db : InsightDb := {}
  transactions : Table Nat EventTransaction := ∅
  rebuild : Option Rebuild := none

inductive Statement where
  | beginOrder (tx : Nat) (event : OrderEvent)
  | beginReturn (tx : Nat) (event : ReturnEvent)
  | next (tx : Nat)
  | rollback (tx : Nat)
  | triggerRebuild (window : RebuildWindow) (newGenerationId : GenerationId)
  | rebuild

namespace InsightRun

def lockedBeside (run : InsightRun) (tx : Nat) (locks : EventTransaction → Bool) : Bool :=
  run.transactions.entries.any fun entry => entry.1 ≠ tx && locks entry.2

def put (run : InsightRun) (tx : Nat) (state : EventTransaction) : InsightRun :=
  { run with transactions := run.transactions.insert tx state }

def drop (run : InsightRun) (tx : Nat) : InsightRun :=
  { run with transactions := run.transactions.erase tx }

/-- The rebuild has written the row of a day of a generation and not committed. -/
def rebuildLocks (run : InsightRun) (generation : GenerationId) (day : DayBranch) : Bool :=
  run.rebuild.any fun rebuild => rebuild.newGenerationId = generation && rebuild.touched.contains day

/-- The next statement of a transaction that writes; one that needs a locked row waits. -/
def write (run : InsightRun) (tx : Nat) (write : EventWrite) (stage : EventStage) (written : List GenerationId) :
    InsightRun :=
  match stage with
  | .upsertOrderFact =>
    if run.lockedBeside tx (·.locksFact write.key) then run
    else run.put tx (.writing write .readActiveGeneration written)
  | .readActiveGeneration =>
    run.put tx (.writing write (.readBuildingGenerations run.db.activeGenerationId) written)
  | .readBuildingGenerations active =>
    run.put tx (.writing write
      (write.targeting (active :: run.db.buildingGenerationIds.filter (· ≠ active))) written)
  | .insertReturnFact targets =>
    if run.lockedBeside tx (·.locksFact write.key) then run
    else match write with
      | .returned returnId _ =>
        -- The unique constraint on the return ends the transaction.
        if (run.db.returnFacts.lookup returnId).isSome then run.drop tx
        else run.put tx (.writing write (.writeDaily targets) written)
      | .order _ _ _ _ => run
  | .writeDaily (generation :: targets) =>
    if run.lockedBeside tx (·.locksDaily generation write.day) || run.rebuildLocks generation write.day then run
    else run.put tx (.writing write (.writeDaily targets) (generation :: written))
  | .writeDaily [] => { run.drop tx with db := run.db.commit write written }

def next (run : InsightRun) (tx : Nat) : EventTransaction → InsightRun
  | .readOrder event => run.put tx (.readLines event (run.db.orderFacts.lookup event.orderId))
  | .readLines event order =>
    match returnWrite run.db.lineFacts event order with
    | none => run.drop tx
    | some write => run.put tx (.writing write .readActiveGeneration [])
  | .writing write stage written => run.write tx write stage written

def beginOrder (run : InsightRun) (tx : Nat) (event : OrderEvent) : InsightRun :=
  if (run.db.orderFacts.lookup event.orderId).isSome && run.lockedBeside tx (·.locksFact (.order event.orderId)) then run
  else match orderWrite run.db event with
    | none => run
    | some write => run.put tx (.writing write .upsertOrderFact [])

/-- The next statement of a row's replay; it waits for who has written the row. -/
def replay (run : InsightRun) (rebuild : Rebuild) (replay : DayBranch × DailyDelta) (stage : RebuildStage) : InsightRun :=
  if run.transactions.rows.any (·.locksDaily rebuild.newGenerationId replay.1) then run
  else { run with
    db := run.db.addDaily replay.1 replay.2 rebuild.newGenerationId
    rebuild := some { rebuild with stage, touched := replay.1 :: rebuild.touched } }

def putDaily (run : InsightRun) (rebuild : Rebuild) (daily : Table DayBranch DailySalesSummaryEntity) (touched : List DayBranch)
    (stage : RebuildStage) : InsightRun :=
  if touched.any fun day => run.transactions.rows.any (·.locksDaily rebuild.newGenerationId day) then run
  else { run with
    db := run.db.updateGeneration (fun summaries => { summaries with daily }) rebuild.newGenerationId
    rebuild := some { rebuild with stage, touched := touched ++ rebuild.touched } }

/-- The next statement of `triggerRebuild`. -/
def stepRebuild (run : InsightRun) (rebuild : Rebuild) : InsightRun :=
  let source := (run.db.summariesOf rebuild.previousGenerationId).daily
  let target := (run.db.summariesOf rebuild.newGenerationId).daily
  match rebuild.stage with
  | .announce =>
    { run with
      db := { run.db with buildingGenerationIds := rebuild.newGenerationId :: run.db.buildingGenerationIds }
      rebuild := some { rebuild with stage := .copy } }
  | .copy =>
    run.putDaily rebuild (copyDaily rebuild.window source target)
      (source.keys.filter fun day => !rebuild.window.covers day && (target.lookup day).isNone) .clear
  | .clear =>
    run.putDaily rebuild (target.deleteWhere fun day _ => rebuild.window.covers day)
      (target.keys.filter rebuild.window.covers) .scanOrders
  | .scanOrders =>
    let orders := (run.db.orderFacts.entries.filter fun entry => rebuild.window.covers entry.2.day).map
      fun entry => (entry.1, entry.2)
    { run with rebuild := some { rebuild with stage := .scanLines orders } }
  | .scanLines orders =>
    { run with rebuild := some { rebuild with
      stage := .replayOrders (orders.map fun order =>
        orderReplay order.2 (pendingLinesCount rebuild.window run.db.lineFacts order)) } }
  | .replayOrders (first :: replays) => run.replay rebuild first (.replayOrders replays)
  | .replayOrders [] =>
    let returns := run.db.returnFacts.entries.filter fun entry => rebuild.window.covers entry.2.day
    { run with rebuild := some { rebuild with stage := .replayReturns (returns.map fun entry => returnReplay entry.2) } }
  | .replayReturns (first :: replays) => run.replay rebuild first (.replayReturns replays)
  | .replayReturns [] =>
    { run with
      db := { run.db with
        activeGenerationId := rebuild.newGenerationId
        buildingGenerationIds := run.db.buildingGenerationIds.filter (· ≠ rebuild.newGenerationId) }
      rebuild := some { rebuild with stage := .completed, touched := [] } }
  | .completed => run

def step (run : InsightRun) : Statement → InsightRun
  | .beginOrder tx event =>
    if (run.transactions.lookup tx).isSome then run else run.beginOrder tx event
  | .beginReturn tx event =>
    if (run.transactions.lookup tx).isSome || (run.db.returnFacts.lookup event.returnId).isSome then run
    else run.put tx (.readOrder event)
  | .next tx => ((run.transactions.lookup tx).map (run.next tx)).getD run
  | .rollback tx => run.drop tx
  | .triggerRebuild window newGenerationId =>
    if run.rebuild.isSome || newGenerationId = run.db.activeGenerationId
      || (run.db.generations.lookup newGenerationId).isSome || run.db.buildingGenerationIds.contains newGenerationId then run
    else { run with rebuild := some { window, previousGenerationId := run.db.activeGenerationId, newGenerationId } }
  | .rebuild => (run.rebuild.map run.stepRebuild).getD run

end InsightRun

end Insight
