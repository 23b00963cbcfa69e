import RetailApi.Proofs.SalesFigures

/-! The figures of the daily summaries are the sums over the facts after every history of sales events. -/

namespace Insight

open InsightDb Option Table

variable {db after : InsightDb} {day : DayBranch}

/-- A column of the daily summaries that both orders and returns, and costs found later, add to. -/
structure Figure where
  column : DailySalesSummaryEntity → Int
  ordered : OrderContributionVector → Int
  returned : Int → Int → Int
  column_empty : column {} = 0
  ordered_empty : ordered {} = 0
  column_addOrder : ∀ delta pending row, column (row.addOrder delta pending) = column row + ordered delta
  column_addReturn : ∀ refund cogs units row, column (row.addReturn refund cogs units) = column row + returned refund cogs
  ordered_delta : ∀ target previous, ordered (computeOrderContributionDelta target previous) =
    ordered target - ordered (previous.getD {})
  ordered_cogs : ∀ contribution cogs, ordered { contribution with cogs := contribution.cogs + cogs } =
    ordered contribution + ordered { cogs }

def Figure.Matches (figure : Figure) (db : InsightDb) (days : DayBranch → Bool) : Prop :=
  db.sumDaily days figure.column = db.sumOrders days figure.ordered +
    db.sumReturns days fun fact => figure.returned fact.refundAmount fact.returnedCogsAmount

def Figure.ofOrders (column : DailySalesSummaryEntity → Int) (ordered : OrderContributionVector → Int)
    (column_empty : column {} = 0) (ordered_empty : ordered {} = 0)
    (column_addOrder : ∀ delta pending row, column (row.addOrder delta pending) = column row + ordered delta)
    (column_addReturn : ∀ refund cogs units row, column (row.addReturn refund cogs units) = column row)
    (ordered_delta : ∀ target previous, ordered (computeOrderContributionDelta target previous) =
      ordered target - ordered (previous.getD {}))
    (ordered_cogs : ∀ contribution cogs, ordered { contribution with cogs := contribution.cogs + cogs } =
      ordered contribution + ordered { cogs }) : Figure :=
  { column, ordered, returned := fun _ _ => 0, column_empty, ordered_empty, column_addOrder, ordered_delta, ordered_cogs
    column_addReturn := fun refund cogs units row => by rw [column_addReturn, add_zero] }

namespace Figure

def gmv : Figure := .ofOrders (·.gmv) (·.gmv) rfl rfl (fun _ _ _ => rfl) (fun _ _ _ _ => rfl) (fun _ _ => rfl)
  (fun _ _ => (add_zero _).symm)

def grossSalesRevenue : Figure := .ofOrders (·.grossSalesRevenue) (·.grossRevenue) rfl rfl (fun _ _ _ => rfl)
  (fun _ _ _ _ => rfl) (fun _ _ => rfl) (fun _ _ => (add_zero _).symm)

def discountTotal : Figure := .ofOrders (·.discountTotal) (·.discount) rfl rfl (fun _ _ _ => rfl)
  (fun _ _ _ _ => rfl) (fun _ _ => rfl) (fun _ _ => (add_zero _).symm)

def cogsAmount : Figure := .ofOrders (·.cogsAmount) (·.cogs) rfl rfl (fun _ _ _ => rfl)
  (fun _ _ _ _ => rfl) (fun _ _ => rfl) (fun _ _ => rfl)

def orderCount : Figure := .ofOrders (·.orderCount) (·.orderCount) rfl rfl (fun _ _ _ => rfl)
  (fun _ _ _ _ => rfl) (fun _ _ => rfl) (fun _ _ => (add_zero _).symm)

def completedOrderCount : Figure := .ofOrders (·.completedOrderCount) (·.completedCount) rfl rfl (fun _ _ _ => rfl)
  (fun _ _ _ _ => rfl) (fun _ _ => rfl) (fun _ _ => (add_zero _).symm)

def cancelledOrderCount : Figure := .ofOrders (·.cancelledOrderCount) (·.cancelledCount) rfl rfl (fun _ _ _ => rfl)
  (fun _ _ _ _ => rfl) (fun _ _ => rfl) (fun _ _ => (add_zero _).symm)

def returnsAmount : Figure where
  column := (·.returnsAmount)
  ordered := fun _ => 0
  returned := fun refund _ => refund
  column_empty := rfl
  ordered_empty := rfl
  column_addOrder := fun _ _ row => (add_zero row.returnsAmount).symm
  column_addReturn := fun _ _ _ _ => rfl
  ordered_delta := fun _ _ => rfl
  ordered_cogs := fun _ _ => rfl

def returnedCogsAmount : Figure where
  column := (·.returnedCogsAmount)
  ordered := fun _ => 0
  returned := fun _ cogs => cogs
  column_empty := rfl
  ordered_empty := rfl
  column_addOrder := fun _ _ row => (add_zero row.returnedCogsAmount).symm
  column_addReturn := fun _ _ _ _ => rfl
  ordered_delta := fun _ _ => rfl
  ordered_cogs := fun _ _ => rfl

def netSalesRevenue : Figure where
  column := (·.netSalesRevenue)
  ordered := (·.netRevenue)
  returned := fun refund _ => 0 - refund
  column_empty := rfl
  ordered_empty := rfl
  column_addOrder := fun _ _ _ => rfl
  column_addReturn := fun _ _ _ _ => rfl
  ordered_delta := fun _ _ => rfl
  ordered_cogs := fun _ _ => (add_zero _).symm

def grossProfit : Figure where
  column := (·.grossProfit)
  ordered := fun contribution => contribution.netRevenue - contribution.cogs
  returned := fun refund cogs => cogs - refund
  column_empty := rfl
  ordered_empty := rfl
  column_addOrder := fun _ _ _ => rfl
  column_addReturn := fun _ _ _ _ => rfl
  ordered_delta := by
    intro target previous
    simp only [computeOrderContributionDelta]
    omega
  ordered_cogs := by
    intro contribution cogs
    dsimp only
    omega

end Figure

def InsightDb.steady (db : InsightDb) : SalesEvent → Bool
  | .order event => (db.orderFacts.lookup event.orderId).all fun fact => event.branchId.all (· = fact.day.branchId)
  | _ => true

/-- Every line is counted on the day of its order, every figure is the sum over the facts, and what an order contributes net
is its gross revenue less its discount. -/
structure InsightDb.Recorded (db : InsightDb) : Prop where
  lines : ∀ orderId key line, db.lineFacts.lookup (orderId, key) = some line →
    ∃ fact, db.orderFacts.lookup orderId = some fact ∧ fact.day = line.day
  figures : ∀ (figure : Figure) (days : DayBranch → Bool), figure.Matches db days
  net : ∀ orderId fact, db.orderFacts.lookup orderId = some fact →
    fact.contributed.netRevenue = fact.contributed.grossRevenue - fact.contributed.discount

theorem OrderEvent.day_steady {event} (steady : db.steady (.order event) = true)
    (given : event.day (db.orderFacts.lookup event.orderId) = some day) {fact}
    (stored : db.orderFacts.lookup event.orderId = some fact) : fact.day = day := by
  rw [stored, OrderEvent.day] at given
  simp only [InsightDb.steady, stored, all_some] at steady
  obtain ⟨branchId, branch, rfl⟩ := map_eq_some_iff.mp given
  cases named : event.branchId with
  | none =>
    rw [named] at branch
    cases branch
    rfl
  | some own =>
    rw [named] at branch steady
    cases branch
    rw [of_decide_eq_true steady]
    rfl

theorem sumOrders_insert {orderId fact} (days : DayBranch → Bool) (amount : OrderContributionVector → Int) (empty : amount {} = 0)
    (written : after.orderFacts = db.orderFacts.insert orderId fact)
    (same : ∀ old, db.orderFacts.lookup orderId = some old → old.day = fact.day) :
    after.sumOrders days amount = db.sumOrders days amount + if days fact.day then
      amount fact.contributed - amount (((db.orderFacts.lookup orderId).map (·.contributed)).getD {}) else 0 := by
  rw [sumOrders, sumOrders, written, sumBy_insert, amountAt]
  cases stored : db.orderFacts.lookup orderId with
  | none =>
    rw [elim_none, map_none, getD_none, empty]
    split <;> omega
  | some old =>
    rw [elim_some, map_some, getD_some, same old stored]
    split <;> omega

theorem sumDaily_upsert {change} (days : DayBranch → Bool)
    {column} {amount} (empty : column {} = 0)
    (changed : ∀ row, column (change row) = column row + amount)
    (written : after.active.daily = upsert db.active.daily day {} change) :
    after.sumDaily days column = db.sumDaily days column + if days day then amount else 0 := by
  rw [sumDaily, written]
  refine sumBy_upsert ?_ (fun row => ?_) _
  · rw [empty, ite_self]
  · rw [changed]
    split <;> omega

namespace InsightDb.Recorded

theorem order (recorded : db.Recorded) {event} {fact} {lines}
    (applies : AppliesOrder db event (db.orderFacts.lookup event.orderId) fact.day fact lines after)
    (same : ∀ old, db.orderFacts.lookup event.orderId = some old → old.day = fact.day) (figure : Figure)
    (days : DayBranch → Bool) : figure.Matches after days := by
  have before := recorded.figures figure days
  have orders := sumOrders_insert days figure.ordered figure.ordered_empty applies.orderFacts same
  have returns : after.sumReturns days = db.sumReturns days := by
    unfold sumReturns
    rw [applies.returnFacts]
  rw [Figure.Matches] at before ⊢
  rw [orders, returns, ← figure.ordered_delta]
  rcases applies.daily with ⟨daily, unchanged, _⟩ | daily
  · have rows : after.sumDaily days figure.column = db.sumDaily days figure.column := by
      unfold sumDaily
      rw [daily]
    rw [rows, unchanged, figure.ordered_empty, ite_self]
    omega
  · rw [sumDaily_upsert days figure.column_empty (figure.column_addOrder _ _) daily]
    omega

theorem cost (recorded : db.Recorded) {key line newCogs fact} (resolves : ResolvesCost db key line newCogs fact after)
    (stored : db.orderFacts.lookup key.1 = some fact) (same : fact.day = line.day) (figure : Figure)
    (days : DayBranch → Bool) : figure.Matches after days := by
  obtain ⟨costed, written, sameDay, _, _, contributed⟩ := resolves.orderFacts
  have before := recorded.figures figure days
  have orders := sumOrders_insert days figure.ordered figure.ordered_empty written fun old found => by
    rw [sameDay, some.inj (stored.symm.trans found)]
  have returns : after.sumReturns days = db.sumReturns days := by
    unfold sumReturns
    rw [resolves.returnFacts]
  rw [Figure.Matches] at before ⊢
  rw [orders, returns, stored, contributed, figure.ordered_cogs, sameDay, same]
  have daily := resolves.daily
  split at daily
  · next completed =>
    rw [sumDaily_upsert days figure.column_empty (figure.column_addOrder { cogs := newCogs } (-1)) daily, if_pos completed,
      map_some, getD_some]
    split <;> omega
  · next open_ =>
    have rows : after.sumDaily days figure.column = db.sumDaily days figure.column := by
      unfold sumDaily
      rw [daily]
    have none : figure.ordered { cogs := 0 } = 0 := figure.ordered_empty
    rw [rows, if_neg open_, none, map_some, getD_some]
    split <;> omega

theorem returned (recorded : db.Recorded) {event} {fact}
    (new : db.returnFacts.lookup event.returnId = none) (applies : AppliesReturn db event fact after) (figure : Figure)
    (days : DayBranch → Bool) : figure.Matches after days := by
  have before := recorded.figures figure days
  have orders : after.sumOrders days = db.sumOrders days := by
    unfold sumOrders
    rw [applies.orderFacts]
  rw [Figure.Matches] at before ⊢
  rw [orders, sumDaily_upsert days figure.column_empty (figure.column_addReturn _ _ _) applies.daily, sumReturns,
    applies.returnFacts, sumBy_insert_fresh new, before, sumReturns]
  omega

end InsightDb.Recorded

theorem writtenLines_day {orderId other dimensions status lines}
    {lineFacts} {key line}
    (same : ∀ key line, lineFacts.lookup (orderId, key) = some line → line.day = day)
    (found : (writtenLines orderId day dimensions status lineFacts lines).lookup (other, key) = some line) :
    other = orderId ∧ line.day = day ∨ other ≠ orderId ∧ lineFacts.lookup (other, key) = some line := by
  induction lines generalizing lineFacts with
  | nil =>
    by_cases here : other = orderId
    · exact .inl ⟨here, same key line (here ▸ found)⟩
    · exact .inr ⟨here, found⟩
  | cons first lines inner =>
    have written : ∀ key line, (lineFacts.insert (orderId, first.lineKey)
        (lineFact (lineFacts.lookup (orderId, first.lineKey)) day dimensions status first)).lookup (orderId, key) = some line →
        line.day = day := by
      intro key line looked
      rcases of_lookup_insert looked with ⟨_, rfl⟩ | ⟨_, before⟩
      · rw [lineFact]
        cases stored : lineFacts.lookup (orderId, first.lineKey) with
        | none => rfl
        | some old => exact same first.lineKey old stored
      · exact same key line before
    rcases inner written found with here | ⟨apart, looked⟩
    · exact .inl here
    · rcases of_lookup_insert looked with ⟨here, _⟩ | ⟨_, before⟩
      · exact absurd (Prod.mk.inj here).1 apart
      · exact .inr ⟨apart, before⟩

theorem net_target (status : OrderStatus) (subtotal discountTotal cogsTotal : Int) (unitsTotal : Scaled) :
    let contributed := computeTargetOrderContribution status subtotal discountTotal cogsTotal unitsTotal
    contributed.netRevenue = contributed.grossRevenue - contributed.discount := by
  cases status <;> rfl

namespace InsightDb.Recorded

theorem applyOrder (recorded : db.Recorded) {event} (steady : db.steady (.order event) = true)
    (given : event.day (db.orderFacts.lookup event.orderId) = some day) :
    (applyOrderEvent db event (db.orderFacts.lookup event.orderId) day).Recorded := by
  have applies : AppliesOrder db event (db.orderFacts.lookup event.orderId)
      (eventFact db event (db.orderFacts.lookup event.orderId) day).day _ _ _ :=
    applyOrderEvent_applies db event (db.orderFacts.lookup event.orderId) day
  have same : ∀ old, db.orderFacts.lookup event.orderId = some old → old.day = day :=
    fun _ stored => OrderEvent.day_steady steady given stored
  refine ⟨fun orderId key line found => ?_, fun figure days => recorded.order applies same figure days,
    ?_⟩
  swap
  · rw [applies.orderFacts]
    exact forall_insert (net_target event.status ..) recorded.net
  rw [applies.lineFacts] at found
  rw [applies.orderFacts]
  have sameDay : ∀ key line, db.lineFacts.lookup (event.orderId, key) = some line → line.day = day := by
    intro key line stored
    obtain ⟨fact, known, dated⟩ := recorded.lines event.orderId key line stored
    rw [← dated]
    exact same fact known
  rcases writtenLines_day sameDay found with ⟨rfl, dated⟩ | ⟨apart, before⟩
  · exact ⟨_, lookup_insert_self .., dated.symm⟩
  · obtain ⟨fact, known, dated⟩ := recorded.lines orderId key line before
    exact ⟨fact, (AList.lookup_insert_ne apart).trans known, dated⟩

theorem resolveLine (recorded : db.Recorded) (unitCost : Int) {key} {line}
    {fact} (stored : db.orderFacts.lookup key.1 = some fact) (same : fact.day = line.day) :
    (resolveLineCost unitCost db (key, line)).Recorded := by
  have resolves := resolveLineCost_resolves unitCost line stored
  obtain ⟨costed, orders, sameDay, _, _, contributed⟩ := resolves.orderFacts
  obtain ⟨resolved, lines, _, dated, _⟩ := resolves.lineFacts
  refine ⟨fun orderId other row found => ?_, fun figure days => recorded.cost resolves stored same figure days,
    ?_⟩
  swap
  · rw [orders]
    refine forall_insert ?_ recorded.net
    rw [contributed]
    exact recorded.net key.1 fact stored
  rw [lines] at found
  rw [orders, lookup_insert_if]
  rcases of_lookup_insert found with ⟨here, rfl⟩ | ⟨_, before⟩
  · rw [if_pos (congrArg Prod.fst here)]
    exact ⟨costed, rfl, by rw [sameDay, same, dated]⟩
  · obtain ⟨known, looked, onDay⟩ := recorded.lines orderId other row before
    by_cases here : orderId = key.1
    · rw [if_pos here]
      rw [here, stored] at looked
      cases looked
      exact ⟨costed, rfl, sameDay.trans onDay⟩
    · rw [if_neg here]
      exact ⟨known, looked, onDay⟩

theorem resolveLine_keeps (unitCost : Int) {key} {line fact}
    (stored : db.orderFacts.lookup key.1 = some fact) {orderId} {kept : DayBranch → OrderDimensions → Prop}
    (known : ∃ fact, db.orderFacts.lookup orderId = some fact ∧ kept fact.day fact.dimensions) :
    ∃ fact, (resolveLineCost unitCost db (key, line)).orderFacts.lookup orderId = some fact ∧ kept fact.day fact.dimensions := by
  obtain ⟨costed, orders, sameDay, _, sameDimensions, _⟩ := (resolveLineCost_resolves unitCost line stored).orderFacts
  obtain ⟨other, looked, holds⟩ := known
  rw [orders, lookup_insert_if]
  by_cases here : orderId = key.1
  · rw [if_pos here]
    rw [here, stored] at looked
    cases looked
    exact ⟨costed, rfl, by rw [sameDay, sameDimensions]; exact holds⟩
  · rw [if_neg here]
    exact ⟨other, looked, holds⟩

theorem resolveEach {good : InsightDb → Prop} {kept : SalesOrderLineFactEntity → DayBranch → OrderDimensions → Prop} {unitCost : Int}
    (resolve : ∀ {db : InsightDb} {key line fact}, good db → db.lineFacts.lookup key = some line → line.costStatus = .pending →
      db.orderFacts.lookup key.1 = some fact → kept line fact.day fact.dimensions → good (resolveLineCost unitCost db (key, line)))
    {entries : List ((Uuid × String) × SalesOrderLineFactEntity)} (once : (entries.map (·.1)).Nodup) (before : good db)
    (known : ∀ entry ∈ entries, db.lineFacts.lookup entry.1 = some entry.2 ∧ entry.2.costStatus = .pending ∧
      ∃ fact, db.orderFacts.lookup entry.1.1 = some fact ∧ kept entry.2 fact.day fact.dimensions) :
    good (entries.foldl (resolveLineCost unitCost) db) := by
  induction entries generalizing db with
  | nil => exact before
  | cons entry entries inner =>
    obtain ⟨outside, rest⟩ := List.nodup_cons.mp once
    obtain ⟨found, late, fact, stored, same⟩ := known entry (.head _)
    refine inner rest (resolve before found late stored same) fun other member => ?_
    obtain ⟨otherFound, otherLate, ordered⟩ := known other (.tail _ member)
    obtain ⟨_, lines, _⟩ := (resolveLineCost_resolves unitCost entry.2 stored).lineFacts
    refine ⟨?_, otherLate, resolveLine_keeps unitCost stored ordered⟩
    rw [lines, AList.lookup_insert_ne]
    · exact otherFound
    · intro here
      exact outside (List.mem_map.mpr ⟨other, member, here⟩)

theorem resolvePending {good : InsightDb → Prop} {kept : SalesOrderLineFactEntity → DayBranch → OrderDimensions → Prop} {skuCode unitCost orderId}
    (resolve : ∀ {db : InsightDb} {unitCost key line fact}, good db → db.lineFacts.lookup key = some line → line.costStatus = .pending →
      db.orderFacts.lookup key.1 = some fact → kept line fact.day fact.dimensions → good (resolveLineCost unitCost db (key, line)))
    (before : good db) (known : ∀ key line, db.lineFacts.lookup key = some line → line.skuCode = skuCode → line.costStatus = .pending →
      ∃ fact, db.orderFacts.lookup key.1 = some fact ∧ kept line fact.day fact.dimensions) :
    good (processSalesEvent db (.cost skuCode unitCost orderId)) := by
  rw [processSalesEvent, resolvePendingOrderCosts]
  split
  · exact before
  · refine resolveEach resolve ?_ before fun entry member => ?_
    · rw [List.map_map]
      exact List.NodupKeys.sublist List.filter_sublist db.lineFacts.nodupKeys
    · obtain ⟨stored, listed, rfl⟩ := List.mem_map.mp member
      obtain ⟨inside, late⟩ := List.mem_filter.mp listed
      obtain ⟨sku, pending, _⟩ := of_decide_eq_true late
      have found := AList.mem_lookup_iff.mpr inside
      exact ⟨found, pending, known stored.1 stored.2 found sku pending⟩

theorem step (recorded : db.Recorded) {event : SalesEvent} (steady : db.steady event = true) :
    (processSalesEvent db event).Recorded := by
  cases event with
  | order event =>
    rw [processSalesEvent, processSalesOrderEvent]
    split
    · exact recorded
    · split
      · exact recorded
      · next given => exact recorded.applyOrder steady given
  | cost skuCode unitCost orderId =>
    exact @resolvePending db Recorded (fun line day _ => day = line.day) _ _ _
      (fun recorded _ _ stored same => recorded.resolveLine _ stored same) recorded fun _ _ found _ _ => recorded.lines _ _ _ found
  | returned event =>
    rw [processSalesEvent]
    rcases processSalesReturnCompleted_applies event with same | ⟨new, fact, applies⟩
    · rw [same]
      exact recorded
    · refine ⟨?_, fun figure days => recorded.returned new applies figure days, ?_⟩
      · rw [applies.lineFacts, applies.orderFacts]
        exact recorded.lines
      · rw [applies.orderFacts]
        exact recorded.net

theorem empty (activeGenerationId : GenerationId) (buildingGenerationIds : List GenerationId) :
    Recorded { activeGenerationId, buildingGenerationIds } := by
  refine ⟨fun orderId key line found => ?_, fun figure days => rfl, fun orderId fact found => ?_⟩
  · cases found
  · cases found

end InsightDb.Recorded

end Insight
