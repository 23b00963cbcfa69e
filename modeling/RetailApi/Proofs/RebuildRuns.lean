import RetailApi.Proofs.RebuildFigures

/-! A rebuild counts every event once while events commit on the side of its scans on which they have written. -/

namespace Insight

open RebuildStage Table Option List EventTransaction EventWrite

namespace RebuildStage

def hasCopied : RebuildStage → Bool
  | .announce | .copy => false
  | _ => true

def hasCleared : RebuildStage → Bool
  | .announce | .copy | .clear => false
  | _ => true

def readsOrders : RebuildStage → Bool
  | .announce | .copy | .clear | .scanOrders => false
  | _ => true

def readsReturns : RebuildStage → Bool
  | .replayReturns _ | .completed => true
  | _ => false

def isCompleted : RebuildStage → Bool
  | .completed => true
  | _ => false

def remaining : RebuildStage → List (DayBranch × DailyDelta)
  | .scanLines orders => orders.map fun order => orderReplay order.2 0
  | .replayOrders replays | .replayReturns replays => replays
  | _ => []

end RebuildStage

def EventWrite.isOrder : EventWrite → Bool
  | .order _ _ _ _ => true
  | .returned _ _ => false

def RebuildStage.hasRead (stage : RebuildStage) (write : EventWrite) : Bool :=
  if write.isOrder then stage.readsOrders else stage.readsReturns

/-- A transaction that commits now has written the new generation exactly if the rebuild will not find its fact: inside the
window when the facts of its kind have been read (and either way before the window is cleared), outside it when the summaries
have been copied. -/
def Rebuild.places (rebuild : Rebuild) (write : EventWrite) (written : List GenerationId) : Bool :=
  if rebuild.window.covers write.day then
    !rebuild.stage.hasCleared || written.contains rebuild.newGenerationId = rebuild.stage.hasRead write
  else written.contains rebuild.newGenerationId = rebuild.stage.hasCopied

/-- Orders keep their branches, nobody else has created the order that an event is about to create, and every transaction that
commits is placed. -/
def InsightRun.undisturbed (run : InsightRun) : Statement → Bool
  | .beginOrder _ event => run.db.steady (.order event)
  | .next tx => (run.transactions.lookup tx).all fun
    | .writing (.order event none _ _) .upsertOrderFact _ => (run.db.orderFacts.lookup event.orderId).isNone
    | .writing write (.writeDaily []) written => write.delta.isNone || run.rebuild.all (·.places write written)
    | _ => true
  | _ => true

def EventWrite.Fits (write : EventWrite) (db : InsightDb) (held : Bool) : Prop :=
  match write with
  | .order event existing fact _ => (held = true → db.orderFacts.lookup event.orderId = existing) ∧
      (∀ old, existing = some old → old.day = fact.day) ∧ fact.Computed
  | .returned returnId _ => held = true → db.returnFacts.lookup returnId = none

/-- No generation is written twice, and before the cutover the active one is among those written. -/
def Targeted (active : GenerationId) (cutOver : Bool) (write : EventWrite) : EventStage → List GenerationId → Prop
  | .upsertOrderFact, written | .readActiveGeneration, written => written = []
  | .readBuildingGenerations read, written => written = [] ∧ (cutOver = false → read = active)
  | .insertReturnFact targets, written => written = [] ∧ targets.Nodup ∧ (cutOver = false → active ∈ targets)
  | .writeDaily targets, written =>
    (targets ++ written).Nodup ∧ (cutOver = false → write.delta.isSome = true → active ∈ targets ++ written)

/-- Outside the window, the rows of the new generation amount to the facts. -/
def Rebuild.Copies (rebuild : Rebuild) (db : InsightDb) : Prop :=
  ∀ (column : SummedColumn) (days : DayBranch → Bool), (∀ day, days day = true → rebuild.window.covers day = false) →
    column.Matches db rebuild.newGenerationId days

/-- In the window, they amount to the facts read so far, with what is still to be replayed. -/
def Rebuild.Replays (rebuild : Rebuild) (db : InsightDb) (stage : RebuildStage) : Prop :=
  ∀ (column : SummedColumn) (days : DayBranch → Bool), (∀ day, days day = true → rebuild.window.covers day = true) →
    db.sumGeneration rebuild.newGenerationId days column + column.replayed days stage.remaining =
      (if stage.readsOrders then db.sumOrders days column.ordered else 0) +
        if stage.readsReturns then db.sumReturns days column.ofReturn else 0

structure Rebuild.Sound (rebuild : Rebuild) (db : InsightDb) : Prop where
  active : db.activeGenerationId =
    if rebuild.stage.isCompleted then rebuild.newGenerationId else rebuild.previousGenerationId
  apart : rebuild.newGenerationId ≠ rebuild.previousGenerationId
  unannounced : rebuild.stage = .announce → rebuild.newGenerationId ∉ db.buildingGenerationIds
  within : ∀ replay ∈ rebuild.stage.remaining, rebuild.window.covers replay.1 = true
  outside : rebuild.stage.hasCopied = false → ∀ day, rebuild.window.covers day = false →
    (db.summariesOf rebuild.newGenerationId).daily.lookup day = none
  copied : rebuild.stage.hasCopied = true → rebuild.Copies db
  inside : rebuild.stage.hasCleared = true → rebuild.Replays db rebuild.stage

def InsightRun.cutOver (run : InsightRun) : Bool := run.rebuild.any (·.stage.isCompleted)

structure InsightRun.Kept (run : InsightRun) : Prop where
  computed : ∀ orderId fact, run.db.orderFacts.lookup orderId = some fact → fact.Computed
  matched : ∀ (column : SummedColumn) days, column.Matches run.db run.db.activeGenerationId days
  fits : ∀ tx write stage written, run.transactions.lookup tx = some (.writing write stage written) →
    write.Fits run.db (write.holds stage)
  targeted : ∀ tx write stage written, run.transactions.lookup tx = some (.writing write stage written) →
    Targeted run.db.activeGenerationId run.cutOver write stage written
  oneHolder : ∀ first second write other stage otherStage written otherWritten,
    run.transactions.lookup first = some (.writing write stage written) →
    run.transactions.lookup second = some (.writing other otherStage otherWritten) →
    write.key = other.key → write.holds stage = true → other.holds otherStage = true → first = second
  building : run.db.buildingGenerationIds.Nodup
  rebuilt : ∀ rebuild, run.rebuild = some rebuild → rebuild.Sound run.db

variable {run : InsightRun} {tx : Nat} {write : EventWrite} {stage : EventStage} {written : List GenerationId}

theorem free_beside {locks} (free : run.lockedBeside tx locks = false) {other state} (apart : other ≠ tx)
    (found : run.transactions.lookup other = some state) : locks state = false := by
  rw [InsightRun.lockedBeside, List.any_eq_false] at free
  have unlocked := free ⟨other, state⟩ (AList.mem_lookup_iff.mp found)
  simpa [apart] using unlocked

namespace InsightRun.Kept

theorem put (kept : run.Kept) {state}
    (fits : ∀ write stage written, state = .writing write stage written → write.Fits run.db (write.holds stage))
    (targeted : ∀ write stage written, state = .writing write stage written →
      Targeted run.db.activeGenerationId run.cutOver write stage written)
    (alone : ∀ write stage written, state = .writing write stage written → write.holds stage = true →
      ∀ other otherWrite otherStage otherWritten, other ≠ tx →
        run.transactions.lookup other = some (.writing otherWrite otherStage otherWritten) →
        otherWrite.key = write.key → otherWrite.holds otherStage = false) : (run.put tx state).Kept where
  computed := kept.computed
  matched := kept.matched
  building := kept.building
  rebuilt := kept.rebuilt
  fits := by
    intro other write stage written found
    rcases of_lookup_insert found with ⟨_, same⟩ | ⟨_, before⟩
    · exact fits write stage written same.symm
    · exact kept.fits other write stage written before
  targeted := by
    intro other write stage written found
    rcases of_lookup_insert found with ⟨_, same⟩ | ⟨_, before⟩
    · exact targeted write stage written same.symm
    · exact kept.targeted other write stage written before
  oneHolder := by
    intro first second write other stage otherStage written otherWritten left right keys holds otherHolds
    rcases of_lookup_insert left with ⟨rfl, same⟩ | ⟨apart, before⟩ <;>
      rcases of_lookup_insert right with ⟨here, otherSame⟩ | ⟨otherApart, otherBefore⟩
    · exact here.symm
    · rw [alone write stage written same.symm holds second other otherStage otherWritten otherApart otherBefore keys.symm]
        at otherHolds
      cases otherHolds
    · rw [here] at *
      rw [alone other otherStage otherWritten otherSame.symm otherHolds first write stage written apart before keys] at holds
      cases holds
    · exact kept.oneHolder first second write other stage otherStage written otherWritten before otherBefore keys holds otherHolds

theorem move (kept : run.Kept) (found : run.transactions.lookup tx = some (.writing write stage written))
    {next then_} (holding : write.holds next = write.holds stage)
    (targeted : Targeted run.db.activeGenerationId run.cutOver write next then_) :
    (run.put tx (.writing write next then_)).Kept := by
  refine kept.put ?_ ?_ ?_
  · rintro _ _ _ ⟨⟩
    rw [holding]
    exact kept.fits tx write stage written found
  · rintro _ _ _ ⟨⟩
    exact targeted
  · rintro _ _ _ ⟨⟩ holds other otherWrite otherStage otherWritten apart before keys
    rw [← Bool.not_eq_true]
    intro otherHolds
    exact apart (kept.oneHolder other tx otherWrite write otherStage stage otherWritten written before found keys
      otherHolds (holding ▸ holds))

theorem drop (kept : run.Kept) (tx : Nat) : (run.drop tx).Kept where
  computed := kept.computed
  matched := kept.matched
  building := kept.building
  rebuilt := kept.rebuilt
  fits := fun other write stage written found =>
    kept.fits other write stage written (of_lookup_erase found).2
  targeted := fun other write stage written found =>
    kept.targeted other write stage written (of_lookup_erase found).2
  oneHolder := fun first second write other stage otherStage written otherWritten left right =>
    kept.oneHolder first second write other stage otherStage written otherWritten (of_lookup_erase left).2
      (of_lookup_erase right).2

end InsightRun.Kept

section Commit

variable {db after : InsightDb}

theorem onConflict_stored {fact : SalesOrderFactEntity} {existing}
    (same : ∀ old, existing = some old → old.day = fact.day) : (fact.onConflict existing).day = fact.day := by
  cases existing with
  | none => rfl
  | some old =>
    show (⟨old.day.dateBucket, fact.day.branchId⟩ : DayBranch) = fact.day
    rw [same old rfl]

section

variable (commits : Commits db write written after) (fits : write.Fits db true)
include commits fits

theorem sumOrders_commits (column : SummedColumn)
    (days : DayBranch → Bool) : after.sumOrders days column.ordered = db.sumOrders days column.ordered +
      if write.isOrder = true ∧ days write.day = true then column.ofWrite write else 0 := by
  cases write with
  | order event existing fact lines =>
    obtain ⟨stored, sameDay, _⟩ := fits
    have looked := stored rfl
    have day := onConflict_stored sameDay
    rw [sumOrders_insert days column.ordered column.ordered_empty commits.orderFacts, looked, day]
    · simp only [isOrder, SummedColumn.ofWrite, column.ordered_delta, true_and]
      rfl
    · intro old found
      rw [looked] at found ⊢
      exact (sameDay old found).trans day.symm
  | returned returnId fact =>
    rw [if_neg fun both => Bool.false_ne_true both.1, add_zero, InsightDb.sumOrders, commits.orderFacts]
    rfl

theorem sumReturns_commits (column : SummedColumn)
    (days : DayBranch → Bool) : after.sumReturns days column.ofReturn = db.sumReturns days column.ofReturn +
      if write.isOrder = false ∧ days write.day = true then column.ofWrite write else 0 := by
  cases write with
  | order event existing fact lines =>
    rw [if_neg fun both => Bool.false_ne_true both.1.symm, add_zero, InsightDb.sumReturns, commits.returnFacts]
    rfl
  | returned returnId fact =>
    have added := sumBy_insert_fresh (fits rfl)
      (fun _ fact => if days fact.day = true then column.ofReturn fact else 0) fact
    rw [InsightDb.sumReturns, commits.returnFacts]
    refine added.trans ?_
    simp only [isOrder, SummedColumn.ofWrite, true_and]
    rfl

theorem matches_commits {generation}
    {column : SummedColumn} {days} (matched : column.Matches db generation days)
    (counted : days write.day = true → write.delta = none ∨ generation ∈ written) : column.Matches after generation days := by
  rw [SummedColumn.Matches] at matched ⊢
  rw [commits.sums, sumOrders_commits commits fits, sumReturns_commits commits fits, matched]
  by_cases within : days write.day = true
  · rcases counted within with none | member
    · simp [column.ofWrite_none none]
    · cases order : write.isOrder <;> simp [within, member] <;> omega
  · simp [within]

end

namespace Rebuild.Sound

theorem commit {rebuild : Rebuild} (sound : rebuild.Sound db) (commits : Commits db write written after)
    (fits : write.Fits db true) (placed : write.delta = none ∨ rebuild.places write written = true) : rebuild.Sound after where
  active := commits.activeGenerationId.trans sound.active
  apart := sound.apart
  unannounced := fun announced => commits.buildingGenerationIds ▸ sound.unannounced announced
  within := sound.within
  outside := by
    intro early day uncovered
    rw [commits.untouched, sound.outside early day uncovered]
    rcases placed with none | placed
    · exact .inl none
    · by_cases here : day = write.day
      · rw [Rebuild.places, ← here, uncovered, early] at placed
        exact .inr (.inl (by simpa using placed))
      · exact .inr (.inr here)
  copied := by
    intro copied column days uncovered
    refine matches_commits commits fits (sound.copied copied column days uncovered) fun within => ?_
    refine placed.imp id fun placed => ?_
    rw [Rebuild.places, uncovered write.day within, copied] at placed
    simpa using placed
  inside := by
    intro cleared column days covered
    have before := sound.inside cleared column days covered
    rw [commits.sums, sumOrders_commits commits fits, sumReturns_commits commits fits]
    by_cases within : days write.day = true
    · rcases placed with none | placed
      · rw [column.ofWrite_none none]
        simpa using before
      · have read : decide (rebuild.newGenerationId ∈ written) = rebuild.stage.hasRead write := by
          simpa [Rebuild.places, covered write.day within, cleared] using placed
        have member : rebuild.newGenerationId ∈ written ↔ rebuild.stage.hasRead write = true := by
          rw [← read, decide_eq_true_iff]
        rw [hasRead] at member
        -- The side of its kind gains the write exactly if the new generation does.
        cases order : write.isOrder with
        | true =>
          rw [order, if_pos rfl] at member
          cases side : rebuild.stage.readsOrders <;> simp only [side, member, within] at before ⊢ <;> simp at before ⊢ <;> omega
        | false =>
          rw [order, if_neg Bool.false_ne_true] at member
          cases side : rebuild.stage.readsReturns <;> simp only [side, member, within] at before ⊢ <;> simp at before ⊢ <;> omega
    · simpa [within] using before

end Rebuild.Sound

theorem EventWrite.Fits.beside {other : EventWrite} {held} (fits : other.Fits db held)
    (commits : Commits db write written after) (apart : held = true → other.key ≠ write.key) : other.Fits after held := by
  cases other with
  | order event existing fact lines =>
    refine ⟨fun holds => ?_, fits.2⟩
    rw [commits.orderFacts, ← fits.1 holds]
    cases write with
    | order own _ _ _ => exact AList.lookup_insert_ne fun same => apart holds (congrArg FactKey.order same)
    | returned _ _ => rfl
  | returned returnId fact =>
    intro holds
    rw [commits.returnFacts, ← fits holds]
    cases write with
    | order _ _ _ _ => rfl
    | returned own _ => exact AList.lookup_insert_ne fun same => apart holds (congrArg FactKey.returned same)

end Commit

theorem of_cutOver (cut : run.cutOver = true) : ∃ rebuild, run.rebuild = some rebuild ∧ rebuild.stage = .completed := by
  rw [InsightRun.cutOver] at cut
  cases building : run.rebuild with
  | none =>
    rw [building] at cut
    cases cut
  | some rebuild =>
    refine ⟨rebuild, rfl, ?_⟩
    rw [building, any_some] at cut
    cases stage : rebuild.stage with
    | completed => rfl
    | announce | copy | clear | scanOrders | scanLines _ | replayOrders _ | replayReturns _ =>
      rw [stage] at cut
      cases cut

namespace InsightRun.Kept

theorem commit (kept : run.Kept) (found : run.transactions.lookup tx = some (.writing write (.writeDaily []) written))
    (placed : write.delta = none ∨ ∀ rebuild, run.rebuild = some rebuild → rebuild.places write written = true) :
    InsightRun.Kept { run.drop tx with db := run.db.commit write written } := by
  have held : write.holds (.writeDaily []) = true := by cases write <;> rfl
  have fits : write.Fits run.db true := held ▸ kept.fits tx write _ written found
  have targeted : written.Nodup ∧ (run.cutOver = false → write.delta.isSome = true →
      run.db.activeGenerationId ∈ written) := kept.targeted tx write _ written found
  have commits := @commit_commits run.db write written targeted.1
  refine ⟨?_, ?_, ?_, ?_, ?_, ?_, ?_⟩
  · rw [commits.orderFacts]
    cases write with
    | order event existing own lines => exact forall_insert fits.2.2 kept.computed
    | returned returnId own => exact kept.computed
  · intro column days
    rw [commits.activeGenerationId]
    refine matches_commits commits fits (kept.matched column days) fun _ => ?_
    cases has : write.delta with
    | none => exact .inl rfl
    | some delta =>
      refine .inr ?_
      cases cut : run.cutOver with
      | false => exact targeted.2 cut (by rw [has]; rfl)
      | true =>
        obtain ⟨rebuild, building, completed⟩ := of_cutOver cut
        have sound := kept.rebuilt rebuild building
        have placed := (placed.resolve_left (by rw [has]; exact some_ne_none delta)) rebuild building
        rw [sound.active, completed, isCompleted, if_pos rfl]
        rw [Rebuild.places, completed] at placed
        simpa [hasCleared, hasRead, hasCopied, readsOrders,
          readsReturns] using placed
  · intro other otherWrite stage otherWritten looked
    obtain ⟨apart, before⟩ := of_lookup_erase looked
    refine (kept.fits other otherWrite stage otherWritten before).beside commits fun holds same => ?_
    exact apart (kept.oneHolder other tx otherWrite write stage _ otherWritten written before found same holds held)
  · intro other otherWrite stage otherWritten looked
    have before := kept.targeted other otherWrite stage otherWritten (of_lookup_erase looked).2
    rw [commits.activeGenerationId]
    exact before
  · exact (kept.drop tx).oneHolder
  · rw [commits.buildingGenerationIds]
    exact kept.building
  · intro rebuild building
    exact (kept.rebuilt rebuild building).commit commits fits (placed.imp id fun placed => placed rebuild building)

def Uncreated (db : InsightDb) (write : EventWrite) : Prop :=
  ∀ event fact lines, write = .order event none fact lines → db.orderFacts.lookup event.orderId = none

section

variable (kept : run.Kept)

include kept

theorem upsert (found : run.transactions.lookup tx = some (.writing write .upsertOrderFact written))
    (free : run.lockedBeside tx (·.locksFact write.key) = false) (uncreated : Uncreated run.db write) :
    (run.put tx (.writing write .readActiveGeneration written)).Kept := by
  have fits := kept.fits tx write _ written found
  refine kept.put ?_ ?_ ?_
  · rintro _ _ _ ⟨⟩
    cases write with
    | order event existing fact lines =>
      refine ⟨fun _ => ?_, fits.2⟩
      cases existing with
      | none => exact uncreated event fact lines rfl
      | some old => exact fits.1 rfl
    | returned returnId fact => exact fun holds => absurd holds Bool.false_ne_true
  · rintro _ _ _ ⟨⟩
    exact kept.targeted tx write .upsertOrderFact written found
  · rintro _ _ _ ⟨⟩ _ other otherWrite otherStage otherWritten apart before keys
    have unlocked := free_beside free apart before
    simpa [locksFact, keys] using unlocked

theorem readTargets {active}
    (found : run.transactions.lookup tx = some (.writing write (.readBuildingGenerations active) written)) :
    (run.put tx (.writing write
      (write.targeting (active :: run.db.buildingGenerationIds.filter (· ≠ active))) written)).Kept := by
  obtain ⟨rfl, read⟩ := kept.targeted tx write _ written found
  have once : (active :: run.db.buildingGenerationIds.filter (· ≠ active)).Nodup := by
    refine nodup_cons.mpr ⟨?_, kept.building.filter _⟩
    intro member
    exact absurd rfl (of_decide_eq_true (mem_filter.mp member).2)
  refine kept.move found ?_ ?_
  · cases write <;> rfl
  · cases write with
    | order event existing fact lines =>
      refine ⟨?_, fun cut changed => ?_⟩
      · rw [append_nil]
        split
        · exact once
        · exact nodup_nil
      · rw [append_nil, if_pos changed, ← read cut]
        exact .head _
    | returned returnId fact =>
      refine ⟨rfl, once, fun cut => ?_⟩
      rw [← read cut]
      exact .head _

theorem insertReturn {returnId fact targets}
    (found : run.transactions.lookup tx = some (.writing (.returned returnId fact) (.insertReturnFact targets) written))
    (free : run.lockedBeside tx (·.locksFact (.returned returnId)) = false)
    (new : run.db.returnFacts.lookup returnId = none) :
    (run.put tx (.writing (.returned returnId fact) (.writeDaily targets) written)).Kept := by
  obtain ⟨rfl, once, active⟩ := kept.targeted tx _ _ written found
  refine kept.put ?_ ?_ ?_
  · rintro _ _ _ ⟨⟩ _
    exact new
  · rintro _ _ _ ⟨⟩
    rw [Targeted, append_nil]
    exact ⟨once, fun cut _ => active cut⟩
  · rintro _ _ _ ⟨⟩ _ other otherWrite otherStage otherWritten apart before keys
    have unlocked := free_beside free apart before
    have same : otherWrite.key = .returned returnId := keys
    simpa [locksFact, same] using unlocked

theorem writing (found : run.transactions.lookup tx = some (.writing write stage written))
    (undisturbed : run.undisturbed (.next tx) = true) : (run.write tx write stage written).Kept := by
  rw [InsightRun.undisturbed, found, all_some] at undisturbed
  cases stage with
  | upsertOrderFact =>
    rw [InsightRun.write]
    split
    · exact kept
    · next free =>
      refine kept.upsert found (Bool.not_eq_true _ ▸ free) ?_
      rintro event fact lines rfl
      simpa using undisturbed
  | readActiveGeneration =>
    refine kept.move found ?_ ⟨kept.targeted tx write _ written found, fun _ => rfl⟩
    cases write <;> rfl
  | readBuildingGenerations active => exact kept.readTargets found
  | insertReturnFact targets =>
    unfold InsightRun.write
    dsimp only
    split
    · exact kept
    · next free =>
      cases write with
      | order event existing fact lines => exact kept
      | returned returnId fact =>
        dsimp only
        split
        · exact kept.drop tx
        · next new => exact kept.insertReturn found (Bool.not_eq_true _ ▸ free) (by simpa using new)
  | writeDaily targets =>
    cases targets with
    | nil =>
      refine kept.commit found ?_
      have placed : write.delta.isNone = true ∨ run.rebuild.all (·.places write written) = true := by
        cases write <;> simpa using undisturbed
      refine placed.imp isNone_iff_eq_none.mp fun placed rebuild building => ?_
      rw [building] at placed
      exact placed
    | cons generation targets =>
      rw [InsightRun.write]
      split
      · exact kept
      · obtain ⟨once, active⟩ := kept.targeted tx write _ written found
        have moved : (targets ++ generation :: written).Perm (generation :: targets ++ written) := perm_middle
        refine kept.move found ?_ ⟨moved.nodup_iff.mpr once, fun cut changed => moved.mem_iff.mpr (active cut changed)⟩
        cases write <;> rfl

theorem putReading {state} (reading : ∀ write stage written, state ≠ .writing write stage written) :
    (run.put tx state).Kept :=
  kept.put (fun write stage written same => absurd same (reading write stage written))
    (fun write stage written same => absurd same (reading write stage written))
    (fun write stage written same => absurd same (reading write stage written))

theorem next {state} (found : run.transactions.lookup tx = some state)
    (undisturbed : run.undisturbed (.next tx) = true) : (run.next tx state).Kept := by
  cases state with
  | readOrder event => exact kept.putReading fun _ _ _ same => by cases same
  | readLines event order =>
    rw [InsightRun.next]
    split
    · exact kept.drop tx
    · next write computed =>
      obtain ⟨branchId, _, rfl⟩ := map_eq_some_iff.mp computed
      refine kept.put ?_ ?_ ?_
      · rintro _ _ _ ⟨⟩ holds
        cases holds
      · rintro _ _ _ ⟨⟩
        rfl
      · rintro _ _ _ ⟨⟩ holds
        cases holds
  | writing write stage written => exact kept.writing found undisturbed

theorem beginOrder {event} (steady : run.db.steady (.order event) = true) : (run.beginOrder tx event).Kept := by
  rw [InsightRun.beginOrder]
  split
  · exact kept
  · next free =>
    split
    · exact kept
    · next write computed =>
      rw [orderWrite] at computed
      split at computed
      · cases computed
      · obtain ⟨day, given, rfl⟩ := map_eq_some_iff.mp computed
        refine kept.put ?_ ?_ ?_
        · rintro _ _ _ ⟨⟩
          exact ⟨fun _ => rfl, fun old stored => OrderEvent.day_steady steady given stored, rfl⟩
        · rintro _ _ _ ⟨⟩
          rfl
        · rintro _ _ _ ⟨⟩ known other otherWrite otherStage otherWritten apart before keys
          have stored : (run.db.orderFacts.lookup event.orderId).isSome = true := known
          rw [stored, Bool.true_and, Bool.not_eq_true] at free
          have unlocked := free_beside free apart before
          have same : otherWrite.key = .order event.orderId := keys
          simpa [locksFact, same] using unlocked

end

end InsightRun.Kept

end Insight
