import RetailApi.Insight.Rebuild
import RetailApi.Proofs.BreakdownFigures

/-! What the statements of a rebuild and of the transactions beside it do to the sums over daily summaries and facts. -/

namespace Insight

open InsightDb List Table

/-- A column of the daily summaries which orders and returns only add to. -/
structure SummedColumn where
  column : DailySalesSummaryEntity → Int
  ordered : OrderContributionVector → Int
  returned : Int → Int → Scaled → Int
  column_empty : column {} = 0
  ordered_empty : ordered {} = 0
  column_addOrder : ∀ delta pending row, column (row.addOrder delta pending) = column row + ordered delta
  column_addReturn : ∀ refund cogs units row,
    column (row.addReturn refund cogs units) = column row + returned refund cogs units
  ordered_delta : ∀ target previous, ordered (computeOrderContributionDelta target previous) =
    ordered target - ordered (previous.getD {})

namespace SummedColumn

def ofFigure (figure : Figure) : SummedColumn where
  column := figure.column
  ordered := figure.ordered
  returned := fun refund cogs _ => figure.returned refund cogs
  column_empty := figure.column_empty
  ordered_empty := figure.ordered_empty
  column_addOrder := figure.column_addOrder
  column_addReturn := fun refund cogs _ row => figure.column_addReturn refund cogs _ row
  ordered_delta := figure.ordered_delta

def unitsSold : SummedColumn where
  column := (·.unitsSold)
  ordered := (·.unitsSold)
  returned := fun _ _ _ => 0
  column_empty := rfl
  ordered_empty := Booking.units.ordered_empty
  column_addOrder := fun _ _ _ => rfl
  column_addReturn := fun _ _ _ row => (add_zero row.unitsSold).symm
  ordered_delta := Booking.units.ordered_delta

def unitsReturned : SummedColumn where
  column := (·.unitsReturned)
  ordered := fun _ => 0
  returned := fun _ _ units => units
  column_empty := rfl
  ordered_empty := Figure.returnsAmount.ordered_empty
  column_addOrder := fun _ _ row => (add_zero row.unitsReturned).symm
  column_addReturn := fun _ _ _ _ => rfl
  ordered_delta := Figure.returnsAmount.ordered_delta

def returnCount : SummedColumn where
  column := (·.returnCount)
  ordered := fun _ => 0
  returned := fun _ _ _ => 1
  column_empty := rfl
  ordered_empty := Figure.returnsAmount.ordered_empty
  column_addOrder := fun _ _ row => (add_zero row.returnCount).symm
  column_addReturn := fun _ _ _ _ => rfl
  ordered_delta := Figure.returnsAmount.ordered_delta

variable (column : SummedColumn)

/-- What a delta adds to the column of its day's row. -/
def amount : DailyDelta → Int
  | .order delta _ => column.ordered delta
  | .returned refund cogs units => column.returned refund cogs units

def ofReturn (fact : SalesReturnFactEntity) : Int :=
  column.returned fact.refundAmount fact.returnedCogsAmount fact.returnedUnits

/-- What an event adds to the column once it is committed, whether or not its delta is empty. -/
def ofWrite : EventWrite → Int
  | .order _ existing fact _ => column.ordered (computeOrderContributionDelta fact.contributed (existing.map (·.contributed)))
  | .returned _ fact => column.ofReturn fact

theorem column_apply (delta : DailyDelta) (row : DailySalesSummaryEntity) :
    column.column (delta.apply row) = column.column row + column.amount delta := by
  cases delta with
  | order delta pending => exact column.column_addOrder delta pending row
  | returned refund cogs units => exact column.column_addReturn refund cogs units row

variable {write : EventWrite}

theorem amount_delta {delta} (has : write.delta = some delta) : column.amount delta = column.ofWrite write := by
  cases write with
  | order event existing fact lines =>
    rw [EventWrite.delta] at has
    split at has
    · cases has
      rfl
    · cases has
  | returned returnId fact =>
    cases has
    rfl

/-- The processor drops an empty delta. Nothing is lost by that. -/
theorem ofWrite_none (none : write.delta = none) : column.ofWrite write = 0 := by
  cases write with
  | order event existing fact lines =>
    rw [EventWrite.delta] at none
    split at none
    · cases none
    · next unchanged =>
      rw [not_or, Bool.not_eq_false] at unchanged
      have same : computeOrderContributionDelta fact.contributed (existing.map (·.contributed)) = {} :=
        of_decide_eq_true unchanged.1
      rw [ofWrite, same, column.ordered_empty]
  | returned returnId fact => cases none

end SummedColumn

section Sums

variable {db : InsightDb} {days : DayBranch → Bool} {column : SummedColumn}

def sumRows (rows : Table DayBranch DailySalesSummaryEntity) (days : DayBranch → Bool) (column : SummedColumn) : Int :=
  sumBy (fun day row => if days day then column.column row else 0) rows

/-- The column, summed over the rows of a generation on the given days. -/
def InsightDb.sumGeneration (db : InsightDb) (generation : GenerationId) (days : DayBranch → Bool) (column : SummedColumn) : Int :=
  sumRows (db.summariesOf generation).daily days column

theorem sum_filter {ι : Type*} {amount : ι → Int} {kept} {entries : List ι}
    (none : ∀ entry ∈ entries, kept entry = false → amount entry = 0) :
    ((entries.filter kept).map amount).sum = (entries.map amount).sum := by
  induction entries with
  | nil => rfl
  | cons entry entries inner =>
    have rest := inner fun other member => none other (.tail _ member)
    cases here : kept entry with
    | true => rw [filter_cons_of_pos here, map_cons, map_cons, sum_cons, sum_cons, rest]
    | false =>
      rw [filter_cons_of_neg (by rw [here]; exact Bool.false_ne_true), map_cons, sum_cons, rest,
        none entry (.head _) here, zero_add]

theorem sumGeneration_addDaily (day : DayBranch) (delta : DailyDelta) (generation other : GenerationId) :
    (db.addDaily day delta generation).sumGeneration other days column =
      db.sumGeneration other days column + if other = generation ∧ days day then column.amount delta else 0 := by
  rw [sumGeneration, addDaily, summariesOf_updateGeneration]
  by_cases same : other = generation
  · subst same
    rw [if_pos rfl, sumGeneration, sumRows, sumRows]
    refine sumBy_upsert ?_ (fun row => ?_) _
    · rw [column.column_empty, ite_self]
    · rw [column.column_apply]
      simp only [true_and]
      split <;> omega
  · rw [if_neg same, if_neg fun both => same both.1, add_zero, sumGeneration]

/-- A delta counts once in each generation it is written to. -/
theorem sumGeneration_foldl (day : DayBranch) (delta : DailyDelta) {written : List GenerationId} (once : written.Nodup)
    (other : GenerationId) :
    (written.foldl (fun db generation => db.addDaily day delta generation) db).sumGeneration other days column =
      db.sumGeneration other days column + if other ∈ written ∧ days day then column.amount delta else 0 := by
  induction written generalizing db with
  | nil => simp
  | cons generation written inner =>
    rw [foldl_cons, inner once.of_cons, sumGeneration_addDaily]
    by_cases same : other = generation
    · subst same
      simp [(nodup_cons.mp once).1]
    · simp [same]

variable {gone : DayBranch → Bool}

theorem sumRows_deleteWhere (rows : Table DayBranch DailySalesSummaryEntity) (within : ∀ day, days day = true → gone day = true) :
    sumRows (rows.deleteWhere fun day _ => gone day) days column = 0 := by
  refine sumBy_eq_zero fun entry listed => ?_
  have kept : gone entry.1 = false := by simpa [deleteWhere] using (mem_filter.mp listed).2
  rw [if_neg]
  intro counted
  rw [within entry.1 counted] at kept
  cases kept

theorem sumRows_deleteWhere_apart (rows : Table DayBranch DailySalesSummaryEntity)
    (outside : ∀ day, days day = true → gone day = false) :
    sumRows (rows.deleteWhere fun day _ => gone day) days column = sumRows rows days column := by
  refine sum_filter fun entry _ dropped => if_neg fun counted => ?_
  have gone : (!gone entry.1) = false := dropped
  rw [outside entry.1 counted] at gone
  cases gone

theorem sumRows_insert {rows} {day} (fresh : rows.lookup day = none)
    (row : DailySalesSummaryEntity) :
    sumRows (rows.insert day row) days column = sumRows rows days column + if days day then column.column row else 0 :=
  sumBy_insert_fresh fresh _ row

/-- The rows outside the window are copied whole into a target that had none of them. -/
theorem sumRows_copyDaily {window} (source : Table DayBranch DailySalesSummaryEntity)
    {target} (empty : ∀ day, window.covers day = false → target.lookup day = none)
    (outside : ∀ day, days day = true → window.covers day = false) :
    sumRows (copyDaily window source target) days column = sumRows source days column := by
  have start : sumRows target days column = 0 := by
    refine sumBy_eq_zero fun entry listed => ?_
    rw [if_neg]
    intro counted
    have looked : target.lookup entry.1 = some entry.2 := AList.mem_lookup_iff.mpr listed
    rw [empty entry.1 (outside entry.1 counted)] at looked
    cases looked
  have copied : ∀ (entries : List (Sigma fun _ : DayBranch => DailySalesSummaryEntity)) (table : Table DayBranch DailySalesSummaryEntity),
      entries.NodupKeys → (∀ entry ∈ entries, window.covers entry.1 = false → table.lookup entry.1 = none) →
      sumRows (entries.foldl (fun table entry =>
        if window.covers entry.1 || (table.lookup entry.1).isSome then table else table.insert entry.1 entry.2) table) days column =
        sumRows table days column + (entries.map fun entry => if days entry.1 then column.column entry.2 else 0).sum := by
    intro entries
    induction entries with
    | nil => intro table _ _; simp
    | cons entry entries inner =>
      intro table distinct absent
      obtain ⟨apart, rest⟩ := nodupKeys_cons.mp distinct
      rw [foldl_cons]
      by_cases inside : window.covers entry.1 = true
      · have uncounted : days entry.1 = false := by
          by_contra counted
          rw [outside entry.1 (by simpa using counted)] at inside
          cases inside
        rw [inside, Bool.true_or, if_pos rfl, inner table rest fun other member => absent other (.tail _ member)]
        simp [uncounted]
      · rw [Bool.not_eq_true] at inside
        have fresh := absent entry (.head _) inside
        rw [inside, fresh, Bool.false_or, Option.isSome_none, if_neg Bool.false_ne_true, inner _ rest, sumRows_insert fresh,
          map_cons, sum_cons]
        · omega
        · intro other member uncovered
          rw [lookup_insert_if, if_neg]
          · exact absent other (.tail _ member) uncovered
          · intro same
            exact apart (same ▸ mem_keys_of_mem member)
  rw [copyDaily, copied source.entries target source.nodupKeys fun entry _ => empty entry.1, start, zero_add]
  rfl

end Sums

section Facts

variable {db : InsightDb} {days : DayBranch → Bool} {column : SummedColumn}

/-- The summaries of a generation agree with the facts on the given days. -/
def SummedColumn.Matches (column : SummedColumn) (db : InsightDb) (generation : GenerationId) (days : DayBranch → Bool) : Prop :=
  db.sumGeneration generation days column = db.sumOrders days column.ordered + db.sumReturns days column.ofReturn

/-- The stored contribution is the one a replay of the fact computes again. -/
def SalesOrderFactEntity.Computed (fact : SalesOrderFactEntity) : Prop :=
  fact.contributed = computeTargetOrderContribution fact.orderStatus fact.subtotal fact.discountTotal fact.cogsTotal fact.unitsTotal

theorem SummedColumn.amount_orderReplay {fact} (computed : fact.Computed) (pending : Int) :
    column.amount (orderReplay fact pending).2 = column.ordered fact.contributed := by
  rw [computed]
  rfl

/-- What the transaction of an event leaves, with the generations it read as its targets. -/
structure Commits (db : InsightDb) (write : EventWrite) (written : List GenerationId) (after : InsightDb) : Prop where
  orderFacts : after.orderFacts = (db.writeFact write).orderFacts
  returnFacts : after.returnFacts = (db.writeFact write).returnFacts
  activeGenerationId : after.activeGenerationId = db.activeGenerationId
  buildingGenerationIds : after.buildingGenerationIds = db.buildingGenerationIds
  sums : ∀ generation days (column : SummedColumn), after.sumGeneration generation days column =
    db.sumGeneration generation days column + if generation ∈ written ∧ days write.day then column.ofWrite write else 0
  untouched : ∀ generation day, write.delta = none ∨ generation ∉ written ∨ day ≠ write.day →
    (after.summariesOf generation).daily.lookup day = (db.summariesOf generation).daily.lookup day

variable {generation other : GenerationId} {day apart : DayBranch} {delta : DailyDelta} {window : RebuildWindow}

theorem lookup_addDaily (different : other ≠ generation ∨ apart ≠ day) :
    ((db.addDaily day delta generation).summariesOf other).daily.lookup apart = (db.summariesOf other).daily.lookup apart := by
  rw [addDaily, summariesOf_updateGeneration]
  by_cases same : other = generation
  · rw [if_pos same, lookup_upsert, if_neg (different.resolve_left (absurd same)), same]
  · rw [if_neg same]

theorem lookup_foldl {written : List GenerationId} (different : other ∉ written ∨ apart ≠ day) :
    ((written.foldl (fun db generation => db.addDaily day delta generation) db).summariesOf other).daily.lookup apart =
      (db.summariesOf other).daily.lookup apart := by
  induction written generalizing db with
  | nil => rfl
  | cons generation written inner =>
    rw [foldl_cons, inner, lookup_addDaily]
    · exact different.imp (fun outside same => outside (same ▸ .head _)) id
    · exact different.imp (fun outside member => outside (.tail _ member)) id

theorem building_foldl (day : DayBranch) (delta : DailyDelta) (written : List GenerationId) :
    (written.foldl (fun db generation => db.addDaily day delta generation) db).buildingGenerationIds =
      db.buildingGenerationIds := by
  induction written generalizing db with
  | nil => rfl
  | cons generation written inner => exact inner

theorem summariesOf_writeFact (write : EventWrite) (generation : GenerationId) :
    (db.writeFact write).summariesOf generation = db.summariesOf generation := by
  cases write <;> rfl

theorem commit_commits {write : EventWrite} {written : List GenerationId} (once : written.Nodup) :
    Commits db write written (db.commit write written) := by
  have sameSum : ∀ generation days column,
      (db.writeFact write).sumGeneration generation days column = db.sumGeneration generation days column := by
    intro generation days column
    rw [sumGeneration, summariesOf_writeFact, sumGeneration]
  have sameIds : (db.writeFact write).activeGenerationId = db.activeGenerationId ∧
      (db.writeFact write).buildingGenerationIds = db.buildingGenerationIds := by
    cases write <;> exact ⟨rfl, rfl⟩
  rw [commit]
  cases has : write.delta with
  | none =>
    refine ⟨rfl, rfl, sameIds.1, sameIds.2, fun generation days column => ?_, fun generation day _ => ?_⟩
    · rw [sameSum, column.ofWrite_none has, ite_self, add_zero]
    · rw [summariesOf_writeFact]
  | some delta =>
    have same : SameFacts (db.writeFact write)
      (written.foldl (fun db generation => db.addDaily write.day delta generation) (db.writeFact write)) := sameFacts_foldl _ _
    refine ⟨same.orderFacts, same.returnFacts, same.activeGenerationId.trans sameIds.1,
      (building_foldl _ _ _).trans sameIds.2, fun generation days column => ?_, fun generation day apart => ?_⟩
    · rw [sumGeneration_foldl _ _ once, sameSum, column.amount_delta has]
    · rw [lookup_foldl, summariesOf_writeFact]
      exact apart.resolve_left (by rw [has]; exact Option.some_ne_none delta)

def SummedColumn.replayed (column : SummedColumn) (days : DayBranch → Bool) (replays : List (DayBranch × DailyDelta)) : Int :=
  (replays.map fun replay => if days replay.1 then column.amount replay.2 else 0).sum

open SummedColumn

theorem replayed_cons (replay : DayBranch × DailyDelta) (replays : List (DayBranch × DailyDelta)) :
    column.replayed days (replay :: replays) =
      (if days replay.1 then column.amount replay.2 else 0) + column.replayed days replays := by
  rw [replayed, map_cons, sum_cons, replayed]

/-- A rebuild that reads every order fact of its window replays what they sum up to. -/
theorem replayed_orders (computed : ∀ orderId fact, db.orderFacts.lookup orderId = some fact → fact.Computed)
    (covered : ∀ day, days day = true → window.covers day = true) :
    column.replayed days (((db.orderFacts.entries.filter fun entry => window.covers entry.2.day).map
      fun entry => (entry.1, entry.2)).map fun order => orderReplay order.2 0) = db.sumOrders days column.ordered := by
  rw [replayed, map_map, map_map, sumOrders, sumBy]
  refine (sum_filter fun entry _ dropped => if_neg fun counted => ?_).trans (congrArg sum (map_congr_left fun entry listed => ?_))
  · rw [covered entry.2.day counted] at dropped
    cases dropped
  · show (if days entry.2.day then column.amount (orderReplay entry.2 0).2 else 0) = _
    rw [column.amount_orderReplay (computed entry.1 entry.2 (AList.mem_lookup_iff.mpr listed))]

/-- The same for the return facts. -/
theorem replayed_returns (covered : ∀ day, days day = true → window.covers day = true) :
    column.replayed days ((db.returnFacts.entries.filter fun entry => window.covers entry.2.day).map
      fun entry => returnReplay entry.2) = db.sumReturns days column.ofReturn := by
  rw [replayed, map_map, sumReturns, sumBy]
  refine sum_filter fun entry _ dropped => if_neg fun counted => ?_
  rw [covered entry.2.day counted] at dropped
  cases dropped

theorem sumBy_window {κ ρ : Type*} (window : RebuildWindow) (day : κ → ρ → DayBranch) (amount : κ → ρ → Int) (table : Table κ ρ) :
    sumBy (fun key row => if days (day key row) then amount key row else 0) table =
      sumBy (fun key row => if days (day key row) && window.covers (day key row) then amount key row else 0) table +
        sumBy (fun key row => if days (day key row) && !window.covers (day key row) then amount key row else 0) table := by
  rw [← sumBy_add]
  refine sumBy_congr fun entry _ => ?_
  cases days (day entry.1 entry.2) <;> cases window.covers (day entry.1 entry.2) <;> simp

/-- The days inside and outside the window may be settled apart. -/
theorem SummedColumn.Matches.of_window (window : RebuildWindow)
    (inside : column.Matches db generation fun day => days day && window.covers day)
    (outside : column.Matches db generation fun day => days day && !window.covers day) : column.Matches db generation days := by
  rw [Matches] at inside outside ⊢
  have rows : db.sumGeneration generation days column =
      db.sumGeneration generation (fun day => days day && window.covers day) column +
        db.sumGeneration generation (fun day => days day && !window.covers day) column :=
    sumBy_window window (fun day _ => day) (fun _ row => column.column row) _
  have orders : db.sumOrders days column.ordered =
      db.sumOrders (fun day => days day && window.covers day) column.ordered +
        db.sumOrders (fun day => days day && !window.covers day) column.ordered :=
    sumBy_window window (fun _ (fact : SalesOrderFactEntity) => fact.day) (fun _ fact => column.ordered fact.contributed) _
  have returns : db.sumReturns days column.ofReturn =
      db.sumReturns (fun day => days day && window.covers day) column.ofReturn +
        db.sumReturns (fun day => days day && !window.covers day) column.ofReturn :=
    sumBy_window window (fun _ (fact : SalesReturnFactEntity) => fact.day) (fun _ fact => column.ofReturn fact) _
  omega

end Facts

end Insight
