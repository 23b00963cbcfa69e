import RetailApi.Proofs.RebuildRuns

/-! The statements of a rebuild keep what they have read in step with what events commit, up to the cutover. -/

namespace Insight

open SummedColumn InsightRun List

variable {run : InsightRun} {rebuild : Rebuild} {db : InsightDb}

theorem Targeted.later {active later} {cutOver laterCut} {write stage written} (targeted : Targeted active cutOver write stage written)
    (same : laterCut = false → cutOver = false ∧ later = active) : Targeted later laterCut write stage written := by
  cases stage with
  | upsertOrderFact | readActiveGeneration => exact targeted
  | readBuildingGenerations read =>
    refine ⟨targeted.1, fun cut => ?_⟩
    rw [(same cut).2]
    exact targeted.2 (same cut).1
  | insertReturnFact targets =>
    refine ⟨targeted.1, targeted.2.1, fun cut => ?_⟩
    rw [(same cut).2]
    exact targeted.2.2 (same cut).1
  | writeDaily targets =>
    refine ⟨targeted.1, fun cut changed => ?_⟩
    rw [(same cut).2]
    exact targeted.2 (same cut).1 changed

theorem EventWrite.Fits.sameFacts {write : EventWrite} {held} (fits : write.Fits run.db held)
    (orders : db.orderFacts = run.db.orderFacts) (returns : db.returnFacts = run.db.returnFacts) : write.Fits db held := by
  cases write with
  | order event existing fact lines =>
    refine ⟨fun holds => ?_, fits.2⟩
    rw [orders]
    exact fits.1 holds
  | returned returnId fact =>
    intro holds
    rw [returns]
    exact fits holds

theorem InsightRun.Kept.advance (kept : run.Kept) (building : run.rebuild = some rebuild)
    (unfinished : rebuild.stage.isCompleted = false) {later} (orders : db.orderFacts = run.db.orderFacts)
    (returns : db.returnFacts = run.db.returnFacts)
    (matched : ∀ (column : SummedColumn) days, column.Matches db db.activeGenerationId days)
    (active : later.stage.isCompleted = false → db.activeGenerationId = run.db.activeGenerationId)
    (once : db.buildingGenerationIds.Nodup) (sound : later.Sound db) :
    Kept { run with db, rebuild := some later } where
  computed := by
    intro orderId fact found
    rw [orders] at found
    exact kept.computed orderId fact found
  matched := matched
  fits := fun tx write stage written found =>
    (kept.fits tx write stage written found).sameFacts orders returns
  targeted := by
    intro tx write stage written found
    refine (kept.targeted tx write stage written found).later fun cut => ⟨?_, active cut⟩
    rw [cutOver, building]
    exact unfinished
  oneHolder := kept.oneHolder
  building := once
  rebuilt := by
    rintro _ ⟨⟩
    exact sound

theorem hasCopied_of_cleared {stage : RebuildStage} (cleared : stage.hasCleared = true) : stage.hasCopied = true := by
  cases stage with
  | announce | copy | clear => cases cleared
  | scanOrders | scanLines _ | replayOrders _ | replayReturns _ | completed => rfl

theorem sumGeneration_put (generation other : GenerationId) (daily : Table DayBranch DailySalesSummaryEntity)
    (days : DayBranch → Bool) (column : SummedColumn) :
    (db.updateGeneration (fun summaries => { summaries with daily }) generation).sumGeneration other days column =
      if other = generation then sumRows daily days column else db.sumGeneration other days column := by
  rw [InsightDb.sumGeneration, summariesOf_updateGeneration]
  split <;> rfl

namespace Rebuild.Sound

section

variable (sound : rebuild.Sound db) (unfinished : rebuild.stage.isCompleted = false)
include sound unfinished

theorem active_unfinished :
    db.activeGenerationId = rebuild.previousGenerationId := by
  rw [sound.active, unfinished, if_neg Bool.false_ne_true]

theorem active_apart :
    db.activeGenerationId ≠ rebuild.newGenerationId := by
  rw [sound.active_unfinished unfinished]
  exact sound.apart.symm

theorem onward {after} {next : RebuildStage}
    {touched} (active : after.activeGenerationId = db.activeGenerationId) (cleared : next.hasCleared = true)
    (nextUnfinished : next.isCompleted = false) (within : ∀ replay ∈ next.remaining, rebuild.window.covers replay.1 = true)
    (copied : rebuild.Copies after) (inside : rebuild.Replays after next) :
    Rebuild.Sound { rebuild with stage := next, touched } after where
  active := by
    rw [nextUnfinished, if_neg Bool.false_ne_true, active]
    exact sound.active_unfinished unfinished
  apart := sound.apart
  unannounced := by
    rintro rfl
    cases cleared
  within := within
  outside := fun early => by cases (hasCopied_of_cleared cleared).symm.trans early
  copied := fun _ => copied
  inside := fun _ => inside

end

end Rebuild.Sound

namespace InsightRun.Kept

section

variable (kept : run.Kept) (building : run.rebuild = some rebuild)
include kept building

theorem announce (stage : rebuild.stage = .announce) :
    Kept { run with
      db := { run.db with buildingGenerationIds := rebuild.newGenerationId :: run.db.buildingGenerationIds }
      rebuild := some { rebuild with stage := .copy } } := by
  have sound := kept.rebuilt rebuild building
  have unfinished : rebuild.stage.isCompleted = false := by rw [stage]; rfl
  have early : rebuild.stage.hasCopied = false := by rw [stage]; rfl
  refine kept.advance building unfinished rfl rfl kept.matched (fun _ => rfl)
    (nodup_cons.mpr ⟨sound.unannounced stage, kept.building⟩) ?_
  exact
    { active := sound.active_unfinished unfinished
      apart := sound.apart
      unannounced := fun announced => by cases announced
      within := fun _ none => by cases none
      outside := fun _ => sound.outside early
      copied := fun copied => by cases copied
      inside := fun cleared => by cases cleared }

theorem putDaily (unfinished : rebuild.stage.isCompleted = false)
    {daily touched next} (sound : Rebuild.Sound { rebuild with stage := next, touched := touched ++ rebuild.touched }
      (run.db.updateGeneration (fun summaries => { summaries with daily }) rebuild.newGenerationId)) :
    (run.putDaily rebuild daily touched next).Kept := by
  rw [InsightRun.putDaily]
  split
  · exact kept
  · refine kept.advance building unfinished rfl rfl (fun column days => ?_) (fun _ => rfl) kept.building sound
    have matched := kept.matched column days
    rw [Matches] at matched ⊢
    rw [sumGeneration_put]
    rw [if_neg]
    · exact matched
    · exact (kept.rebuilt rebuild building).active_apart unfinished

theorem copy (stage : rebuild.stage = .copy) (touched : List DayBranch) :
    (run.putDaily rebuild (copyDaily rebuild.window (run.db.summariesOf rebuild.previousGenerationId).daily
      (run.db.summariesOf rebuild.newGenerationId).daily) touched .clear).Kept := by
  have sound := kept.rebuilt rebuild building
  have unfinished : rebuild.stage.isCompleted = false := by rw [stage]; rfl
  have early : rebuild.stage.hasCopied = false := by rw [stage]; rfl
  refine kept.putDaily building unfinished ?_
  exact
    { active := sound.active_unfinished unfinished
      apart := sound.apart
      unannounced := fun announced => by cases announced
      within := fun _ none => by cases none
      outside := fun copied => by cases copied
      copied := by
        intro _ column days uncovered
        have matched := kept.matched column days
        rw [Matches, sound.active_unfinished unfinished] at matched
        rw [Matches, sumGeneration_put, if_pos rfl, sumRows_copyDaily _ (sound.outside early) uncovered]
        exact matched
      inside := fun cleared => by cases cleared }

theorem clear (stage : rebuild.stage = .clear) (touched : List DayBranch) :
    (run.putDaily rebuild ((run.db.summariesOf rebuild.newGenerationId).daily.deleteWhere fun day _ =>
      rebuild.window.covers day) touched .scanOrders).Kept := by
  have sound := kept.rebuilt rebuild building
  have unfinished : rebuild.stage.isCompleted = false := by rw [stage]; rfl
  have copied : rebuild.stage.hasCopied = true := by rw [stage]; rfl
  refine kept.putDaily building unfinished ?_
  refine sound.onward unfinished rfl rfl rfl (fun _ none => by cases none) (fun column days uncovered => ?_) fun column days covered => ?_
  · have before := sound.copied copied column days uncovered
    rw [Matches] at before ⊢
    rw [sumGeneration_put, if_pos rfl, sumRows_deleteWhere_apart _ uncovered]
    exact before
  · rw [sumGeneration_put, if_pos rfl, sumRows_deleteWhere _ covered]
    rfl

theorem scan (cleared : rebuild.stage.hasCleared = true)
    (unfinished : rebuild.stage.isCompleted = false) {next : RebuildStage} (nextCleared : next.hasCleared = true)
    (nextUnfinished : next.isCompleted = false)
    (within : ∀ replay ∈ next.remaining, rebuild.window.covers replay.1 = true)
    (inside : rebuild.Replays run.db rebuild.stage → rebuild.Replays run.db next) :
    Kept { run with rebuild := some { rebuild with stage := next } } := by
  have sound := kept.rebuilt rebuild building
  refine kept.advance building unfinished rfl rfl kept.matched (fun _ => rfl) kept.building ?_
  exact sound.onward unfinished rfl nextCleared nextUnfinished within (sound.copied (hasCopied_of_cleared cleared))
    (inside (sound.inside cleared))

theorem replay {first replays} {next : RebuildStage} (cleared : rebuild.stage.hasCleared = true)
    (unfinished : rebuild.stage.isCompleted = false) (nextCleared : next.hasCleared = true)
    (nextUnfinished : next.isCompleted = false) (remaining : rebuild.stage.remaining = first :: replays)
    (rest : next.remaining = replays) (orders : next.readsOrders = rebuild.stage.readsOrders)
    (returns : next.readsReturns = rebuild.stage.readsReturns) : (run.replay rebuild first next).Kept := by
  have sound := kept.rebuilt rebuild building
  have within : ∀ replay ∈ first :: replays, rebuild.window.covers replay.1 = true := remaining ▸ sound.within
  rw [InsightRun.replay]
  split
  · exact kept
  · refine kept.advance building unfinished rfl rfl (fun column days => ?_) (fun _ => rfl) kept.building ?_
    · have matched := kept.matched column days
      rw [Matches] at matched ⊢
      rw [sumGeneration_addDaily, if_neg fun both => sound.active_apart unfinished both.1, add_zero]
      exact matched
    · refine sound.onward unfinished rfl nextCleared nextUnfinished (fun replay listed => ?_) (fun column days uncovered => ?_)
        fun column days covered => ?_
      · rw [rest] at listed
        exact within replay (.tail _ listed)
      · have before := sound.copied (hasCopied_of_cleared cleared) column days uncovered
        rw [Matches] at before ⊢
        rw [sumGeneration_addDaily, if_neg, add_zero]
        · exact before
        · rintro ⟨_, counted⟩
          have inside := within first (.head _)
          rw [uncovered first.1 counted] at inside
          cases inside
      · have before := sound.inside cleared column days covered
        rw [remaining, replayed_cons] at before
        rw [sumGeneration_addDaily, rest, orders, returns]
        simp only [true_and]
        exact (add_assoc ..).trans before

theorem cutover (stage : rebuild.stage = .replayReturns []) :
    Kept { run with
      db := { run.db with
        activeGenerationId := rebuild.newGenerationId
        buildingGenerationIds := run.db.buildingGenerationIds.filter (· ≠ rebuild.newGenerationId) }
      rebuild := some { rebuild with stage := .completed, touched := [] } } := by
  have sound := kept.rebuilt rebuild building
  have unfinished : rebuild.stage.isCompleted = false := by rw [stage]; rfl
  have cleared : rebuild.stage.hasCleared = true := by rw [stage]; rfl
  have inside : ∀ (column : SummedColumn) (days : DayBranch → Bool),
      (∀ day, days day = true → rebuild.window.covers day = true) → column.Matches run.db rebuild.newGenerationId days := by
    intro column days covered
    have before := sound.inside cleared column days covered
    rw [stage] at before
    exact (add_zero _).symm.trans before
  have copied := sound.copied (hasCopied_of_cleared cleared)
  have matched : ∀ (column : SummedColumn) (days : DayBranch → Bool), column.Matches run.db rebuild.newGenerationId days := by
    intro column days
    refine .of_window rebuild.window (inside column _ fun day both => ?_) (copied column _ fun day both => ?_)
    · exact (Bool.and_eq_true_iff.mp both).2
    · simpa using (Bool.and_eq_true_iff.mp both).2
  refine kept.advance building unfinished rfl rfl matched (fun completed => by cases completed) (kept.building.filter _) ?_
  exact
    { active := rfl
      apart := sound.apart
      unannounced := fun announced => by cases announced
      within := fun _ none => by cases none
      outside := fun early => by cases early
      copied := fun _ column days _ => matched column days
      inside := fun _ column days _ => (add_zero _).trans (matched column days) }

theorem stepRebuild : (run.stepRebuild rebuild).Kept := by
  unfold InsightRun.stepRebuild
  cases stage : rebuild.stage with
  | announce => exact kept.announce building stage
  | copy => exact kept.copy building stage _
  | clear => exact kept.clear building stage _
  | scanOrders =>
    refine kept.scan building (by rw [stage]; rfl) (by rw [stage]; rfl) rfl rfl ?_ ?_
    · intro replay listed
      obtain ⟨order, member, rfl⟩ := mem_map.mp listed
      obtain ⟨entry, kept, rfl⟩ := mem_map.mp member
      exact (mem_filter.mp kept).2
    · intro before column days covered
      rw [stage] at before
      have none : run.db.sumGeneration rebuild.newGenerationId days column = 0 :=
        (add_zero _).symm.trans (before column days covered)
      rw [none]
      exact (zero_add _).trans ((replayed_orders kept.computed covered).trans (add_zero _).symm)
  | scanLines orders =>
    refine kept.scan building (by rw [stage]; rfl) (by rw [stage]; rfl) rfl rfl ?_ ?_
    · intro replay listed
      obtain ⟨order, member, rfl⟩ := mem_map.mp listed
      have sound := (kept.rebuilt rebuild building).within
      rw [stage] at sound
      exact sound (orderReplay order.2 0) (mem_map_of_mem member)
    · intro before column days covered
      rw [stage] at before
      have same : column.replayed days (orders.map fun order =>
          orderReplay order.2 (pendingLinesCount rebuild.window run.db.lineFacts order)) =
          column.replayed days (orders.map fun order => orderReplay order.2 0) := by
        rw [replayed, replayed, map_map, map_map]
        rfl
      exact (congrArg (run.db.sumGeneration rebuild.newGenerationId days column + ·) same).trans (before column days covered)
  | replayOrders replays =>
    cases replays with
    | nil =>
      refine kept.scan building (by rw [stage]; rfl) (by rw [stage]; rfl) rfl rfl ?_ ?_
      · intro replay listed
        obtain ⟨entry, member, rfl⟩ := mem_map.mp listed
        exact (mem_filter.mp member).2
      · intro before column days covered
        rw [stage] at before
        have read : run.db.sumGeneration rebuild.newGenerationId days column = run.db.sumOrders days column.ordered :=
          (add_zero _).symm.trans ((before column days covered).trans (add_zero _))
        rw [read]
        exact congrArg (run.db.sumOrders days column.ordered + ·) (replayed_returns covered)
    | cons first replays =>
      exact kept.replay building (by rw [stage]; rfl) (by rw [stage]; rfl) rfl rfl (by rw [stage]; rfl) rfl (by rw [stage]; rfl)
        (by rw [stage]; rfl)
  | replayReturns replays =>
    cases replays with
    | nil => exact kept.cutover building stage
    | cons first replays =>
      exact kept.replay building (by rw [stage]; rfl) (by rw [stage]; rfl) rfl rfl (by rw [stage]; rfl) rfl (by rw [stage]; rfl)
        (by rw [stage]; rfl)
  | completed => exact kept

end

theorem triggerRebuild (kept : run.Kept) (idle : run.rebuild = none) {window newGenerationId}
    (apart : newGenerationId ≠ run.db.activeGenerationId) (fresh : run.db.generations.lookup newGenerationId = none)
    (unannounced : newGenerationId ∉ run.db.buildingGenerationIds) :
    Kept { run with rebuild := some { window, previousGenerationId := run.db.activeGenerationId, newGenerationId } } where
  computed := kept.computed
  matched := kept.matched
  fits := kept.fits
  targeted := by
    intro tx write stage written found
    refine (kept.targeted tx write stage written found).later fun _ => ⟨?_, rfl⟩
    rw [cutOver, idle]
    rfl
  oneHolder := kept.oneHolder
  building := kept.building
  rebuilt := by
    rintro _ ⟨⟩
    exact
      { active := rfl
        apart
        unannounced := fun _ => unannounced
        within := fun _ none => by cases none
        outside := by
          intro _ day _
          rw [InsightDb.summariesOf, fresh]
          rfl
        copied := fun copied => by cases copied
        inside := fun cleared => by cases cleared }

theorem step (kept : run.Kept) {statement} (undisturbed : run.undisturbed statement = true) : (run.step statement).Kept := by
  cases statement with
  | beginOrder tx event =>
    rw [InsightRun.step]
    split
    · exact kept
    · exact kept.beginOrder undisturbed
  | beginReturn tx event =>
    rw [InsightRun.step]
    split
    · exact kept
    · exact kept.putReading fun _ _ _ same => by cases same
  | next tx =>
    rw [InsightRun.step]
    cases found : run.transactions.lookup tx with
    | none => exact kept
    | some state => exact kept.next found undisturbed
  | rollback tx => exact kept.drop tx
  | triggerRebuild window newGenerationId =>
    rw [InsightRun.step]
    split
    · exact kept
    · next new =>
      simp only [Bool.or_eq_true, not_or, Bool.not_eq_true, Option.isSome_eq_false_iff, Option.isNone_iff_eq_none,
        decide_eq_false_iff_not, contains_eq_mem] at new
      exact kept.triggerRebuild new.1.1.1 new.1.1.2 new.1.2 new.2
  | rebuild =>
    rw [InsightRun.step]
    cases building : run.rebuild with
    | none => exact kept
    | some rebuild => exact kept.stepRebuild building

theorem start (activeGenerationId : GenerationId) : Kept { db := { activeGenerationId } } where
  computed := fun _ _ found => by cases found
  matched := fun _ _ => rfl
  fits := fun _ _ _ _ found => by cases found
  targeted := fun _ _ _ _ found => by cases found
  oneHolder := fun _ _ _ _ _ _ _ _ found => by cases found
  building := nodup_nil
  rebuilt := fun _ none => by cases none

end InsightRun.Kept

/-- The daily summary is the sum over the facts of its day, so every event is counted once. -/
structure InsightDb.SumsFacts (db : InsightDb) (day : DayBranch) : Prop where
  reconciles : db.Reconciles day
  unitsSold : (db.dailyRow day).unitsSold = db.sumOrders (· = day) (·.unitsSold)
  returnCount : (db.dailyRow day).returnCount = db.sumReturns (· = day) fun _ => 1
  unitsReturned : (db.dailyRow day).unitsReturned = db.sumReturns (· = day) (·.returnedUnits)

theorem SummedColumn.Matches.dailyRow {column : SummedColumn} {day}
    (matched : column.Matches db db.activeGenerationId (· = day)) : column.column (db.dailyRow day) =
      db.sumOrders (· = day) column.ordered + db.sumReturns (· = day) column.ofReturn := by
  simp only [Matches, InsightDb.sumGeneration, sumRows, decide_eq_true_eq] at matched
  rw [Table.sumBy_single fun _ row => column.column row, Table.amountAt] at matched
  rw [← matched, InsightDb.dailyRow, InsightDb.active]
  cases (db.summariesOf db.activeGenerationId).daily.lookup day with
  | none => exact column.column_empty
  | some row => rfl

theorem InsightRun.Kept.sumsFacts (kept : run.Kept) (day : DayBranch) : run.db.SumsFacts day := by
  have row := fun column : SummedColumn => (kept.matched column (· = day)).dailyRow
  have balanced : run.db.Balanced := by
    refine ⟨fun figure days => kept.matched (.ofFigure figure) days, fun orderId fact found => ?_⟩
    rw [kept.computed orderId fact found]
    exact net_target ..
  refine ⟨balanced.reconciles day, ?_, ?_, ?_⟩
  · exact (row .unitsSold).trans ((congrArg _ (sumReturns_zero ..)).trans (add_zero _))
  · exact (row .returnCount).trans ((congrArg (· + _) (sumOrders_zero ..)).trans (zero_add _))
  · exact (row .unitsReturned).trans ((congrArg (· + _) (sumOrders_zero ..)).trans (zero_add _))

/-- While orders keep their branches, no two transactions create one order and every transaction commits on the side of the
rebuild's reads on which it has written, the daily summaries are the sums over the facts, those of the new generation from
the cutover on. -/
theorem rebuild_counts_once (activeGenerationId : GenerationId) {statements : List Statement}
    (undisturbed : Run.Meets step (fun run statement => run.undisturbed statement = true)
      { db := { activeGenerationId } } statements) :
    let after := Run.after step { db := { activeGenerationId } } statements
    (∀ day, after.db.SumsFacts day) ∧ ∀ rebuild, after.rebuild = some rebuild → rebuild.stage = .completed →
      after.db.activeGenerationId = rebuild.newGenerationId := by
  have kept := Run.invariant_of_meets Kept (fun _ _ met kept => kept.step met) undisturbed (.start activeGenerationId)
  refine ⟨kept.sumsFacts, fun rebuild building completed => ?_⟩
  have active := (kept.rebuilt rebuild building).active
  rw [completed] at active
  exact active

private def sale (orderId : Uuid) : OrderEvent :=
  { status := .completed, orderId, branchId := some 1, sentAt := 0, subtotal := some 1000000000 }

/-- A sale before the rebuild, and one that is written to both generations and commits after the scan of the orders. -/
theorem rebuild_counts_once_late_sale :
    let after := Run.after step { db := { activeGenerationId := 0 } } ([.beginOrder 0 (sale 1)] ++
      replicate 5 (.next 0) ++ [.triggerRebuild {} 1, .rebuild, .beginOrder 0 (sale 2), .next 0, .next 0, .next 0, .rebuild,
      .rebuild, .rebuild, .next 0, .next 0, .next 0] ++ replicate 4 .rebuild)
    after.db.SumsFacts ⟨0, 1⟩ ∧ after.cutOver = true ∧ (after.db.dailyRow ⟨0, 1⟩).orderCount = 2 :=
  ⟨(rebuild_counts_once 0 (by decide +kernel)).1 _, by decide +kernel⟩

/-- All have committed, and the active summary of the day does not count its one order once. -/
def InsightRun.miscounts (run : InsightRun) (day : DayBranch) (counted : Int) : Prop :=
  run.cutOver = true ∧ run.transactions.keys = [] ∧ (run.db.dailyRow day).orderCount = counted ∧
    run.db.sumOrders (· = day) (·.orderCount) = 1 ∧ counted ≠ 1

instance (run : InsightRun) (day : DayBranch) (counted : Int) : Decidable (run.miscounts day counted) :=
  inferInstanceAs (Decidable (_ ∧ _))

/-- A sale that has read the generations before the rebuild is announced and commits after the scan is missed; one that
creates its row of the new generation and commits between the clear and the scan is counted twice. -/
theorem sale_missed_or_doubled :
    (Run.after step {} [.beginOrder 0 (sale 1), .next 0, .next 0, .next 0, .triggerRebuild {} 1, .rebuild,
      .rebuild, .rebuild, .rebuild, .next 0, .next 0, .rebuild, .rebuild, .rebuild]).miscounts ⟨0, 1⟩ 0 ∧
    (Run.after step {} [.triggerRebuild {} 1, .rebuild, .beginOrder 0 (sale 1), .next 0, .next 0, .next 0,
      .rebuild, .rebuild, .next 0, .next 0, .next 0, .rebuild, .rebuild, .rebuild, .rebuild, .rebuild]).miscounts ⟨0, 1⟩ 2 := by
  decide +kernel

end Insight
