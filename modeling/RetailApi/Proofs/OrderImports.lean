import RetailApi.Base.Run
import RetailApi.Integration.OrderSync

/-! The status of an external order follows the highest of its snapshots while none that is higher arrives before the import
has ended, and a raised conflict stays while nothing of the order is processed after it. -/

namespace Integration

open OrderSyncSystem Table List Option Run

variable {db : OrderSyncDb} {system : OrderSyncSystem} {key : ExternalOrder} {ref : ChannelOrderRefEntity} {thread : Nat}
  {incoming : NormalizedExternalOrderStatus}

/-- Before its import has ended an order takes no higher status, and after a conflict it takes none. -/
def OrderSyncSystem.orderly (system : OrderSyncSystem) : OrderSyncInput → Bool
  | .prepare _ connectionId order => (system.db.refs.lookup ⟨connectionId, order.externalOrderId⟩).all fun ref =>
      ref.isImported || (ref.syncStatus ≠ .conflict
        && getNormalizedStatusRank order.normalizedStatus ≤ getNormalizedStatusRank ref.normalizedStatus)
  | .record thread => (system.imports.lookup thread).all fun going =>
      (system.db.refs.lookup going.key).all fun ref => ref.syncStatus ≠ .conflict
  | _ => true

def OneOrderEach (orders : Table Uuid MarketplaceOrder) : Prop :=
  ∀ first second one other, orders.lookup first = some one → orders.lookup second = some other → one.source = other.source →
    first = second

def OrderSyncSystem.Highest (system : OrderSyncSystem) (key : ExternalOrder) (ref : ChannelOrderRefEntity) : Prop :=
  (key, ref.normalizedStatus) ∈ system.taken ∧ ∀ status, (key, status) ∈ system.taken →
    getNormalizedStatusRank status ≤ getNormalizedStatusRank ref.normalizedStatus

structure OrderSyncSystem.Converged (system : OrderSyncSystem) : Prop where
  once : OneOrderEach system.orders
  own : ∀ key ref id, system.db.refs.lookup key = some ref → ref.internalOrderId = some id →
    ∃ order, system.orders.lookup id = some order ∧ order.source = key
  highest : ∀ key ref, system.db.refs.lookup key = some ref → ref.syncStatus ≠ .conflict → system.Highest key ref

def OrderSyncStep (system : OrderSyncSystem) (input : OrderSyncInput) : Prop :=
  ∀ key ref, system.db.refs.lookup key = some ref → ∃ after, (orderSyncStep system input).db.refs.lookup key = some after ∧
    getNormalizedStatusRank ref.normalizedStatus ≤ getNormalizedStatusRank after.normalizedStatus ∧
    (ref.syncStatus = .conflict → after.syncStatus = .conflict)

theorem evaluateExternalStatusProgression_cases (incoming : NormalizedExternalOrderStatus)
    {current currentRank} (ranked : currentRank = getNormalizedStatusRank current) :
    let evaluation := evaluateExternalStatusProgression current currentRank incoming
    evaluation.outcome = .ignoreStale ∧ getNormalizedStatusRank incoming ≤ currentRank ∨
      evaluation.outcome = .conflictReconciliationRequired ∨
      evaluation.outcome = .apply ∧ evaluation.targetRank = getNormalizedStatusRank incoming ∧
        currentRank ≤ getNormalizedStatusRank incoming := by
  intro evaluation
  simp only [evaluation, evaluateExternalStatusProgression]
  split
  · next none => exact .inr (.inr ⟨rfl, rfl, by omega⟩)
  · split
    · next same =>
      rw [same] at ranked
      exact .inl ⟨rfl, ranked.ge⟩
    · split
      · exact .inr (.inl rfl)
      · split
        · next regression =>
          rw [regression.1] at ranked
          exact .inl ⟨rfl, by omega⟩
        · split
          · next older => exact .inl ⟨rfl, older.le⟩
          · next newer => exact .inr (.inr ⟨rfl, rfl, by omega⟩)

structure RefMoves (before : Option ChannelOrderRefEntity) (incoming : NormalizedExternalOrderStatus)
    (after : ChannelOrderRefEntity) : Prop where
  ranked : after.statusRank = getNormalizedStatusRank after.normalizedStatus
  fresh : before = none → after.normalizedStatus = incoming ∧ after.internalOrderId = none
  kept : ∀ ref, before = some ref → after.internalOrderId = ref.internalOrderId ∧
    (after.normalizedStatus = ref.normalizedStatus ∨ after.normalizedStatus = incoming) ∧
    getNormalizedStatusRank ref.normalizedStatus ≤ getNormalizedStatusRank after.normalizedStatus
  reached : (∀ ref, before = some ref → ref.isImported = false →
      getNormalizedStatusRank incoming ≤ getNormalizedStatusRank ref.normalizedStatus) →
    after.syncStatus ≠ .conflict → getNormalizedStatusRank incoming ≤ getNormalizedStatusRank after.normalizedStatus

theorem RefMoves.again {after} (open_ : ref.isImported = false)
    (ranked : ref.statusRank = getNormalizedStatusRank ref.normalizedStatus)
    (same : after.normalizedStatus = ref.normalizedStatus ∧ after.statusRank = ref.statusRank ∧
      after.internalOrderId = ref.internalOrderId) : RefMoves (some ref) incoming after := by
  obtain ⟨status, rank, internal⟩ := same
  refine ⟨?_, by rintro ⟨⟩, ?_, fun higher _ => ?_⟩
  · rw [rank, status]
    exact ranked
  · rintro _ ⟨⟩
    rw [status]
    exact ⟨internal, .inl rfl, le_rfl⟩
  · rw [status]
    exact higher ref rfl open_

theorem RefMoves.received {after} (status : after.normalizedStatus = incoming)
    (rank : after.statusRank = getNormalizedStatusRank incoming) (internal : after.internalOrderId = none) :
    RefMoves none incoming after := by
  refine ⟨?_, fun _ => ⟨status, internal⟩, by rintro _ ⟨⟩, fun _ _ => ?_⟩
  · rw [rank, status]
  · rw [status]

theorem progressImported_moves {order}
    (ranked : ref.statusRank = getNormalizedStatusRank ref.normalizedStatus) :
    RefMoves (some ref) order.normalizedStatus (progressImported ref order).1 := by
  rw [progressImported]
  rcases evaluateExternalStatusProgression_cases order.normalizedStatus ranked with
    ⟨outcome, older⟩ | outcome | ⟨outcome, target, newer⟩
  all_goals dsimp only; rw [outcome]
  · refine ⟨ranked, by rintro ⟨⟩, ?_, fun _ _ => ranked ▸ older⟩
    rintro _ ⟨⟩
    exact ⟨rfl, .inl rfl, le_rfl⟩
  · refine ⟨ranked, by rintro ⟨⟩, ?_, fun _ clear => absurd rfl clear⟩
    rintro _ ⟨⟩
    exact ⟨rfl, .inl rfl, le_rfl⟩
  · refine ⟨target, by rintro ⟨⟩, ?_, fun _ _ => le_rfl⟩
    rintro _ ⟨⟩
    exact ⟨rfl, .inr rfl, ranked ▸ newer⟩

theorem prepareImport_refs (connectionId : Uuid) (order : NormalizedExternalOrder)
    (ranked : ∀ key ref, db.refs.lookup key = some ref → ref.statusRank = getNormalizedStatusRank ref.normalizedStatus) :
    ∃ after, (prepareImport db connectionId order).1.refs = db.refs.insert ⟨connectionId, order.externalOrderId⟩ after ∧
      RefMoves (db.refs.lookup ⟨connectionId, order.externalOrderId⟩) order.normalizedStatus after := by
  rw [prepareImport]
  split
  · next ref found =>
    obtain ⟨stored, _⟩ := filter_eq_some_iff.mp found
    refine ⟨_, rfl, ?_⟩
    rw [stored]
    exact progressImported_moves (ranked _ ref stored)
  · next none =>
    have open_ : ∀ ref, db.refs.lookup ⟨connectionId, order.externalOrderId⟩ = some ref → ref.isImported = false := by
      intro ref stored
      rw [stored] at none
      simpa using none
    -- Lines without a mapping or not: a reference that is not imported yet is written over.
    split
    all_goals
      refine ⟨_, rfl, ?_⟩
      cases existing : db.refs.lookup ⟨connectionId, order.externalOrderId⟩ with
      | none => exact .received rfl rfl rfl
      | some ref => exact .again (open_ ref existing) (ranked _ ref existing) ⟨rfl, rfl, rfl⟩

theorem recordImport_refs (result : CanonicalSalesOrderResult) (stored : db.refs.lookup key = some ref) :
    ∃ after, (recordImport db key result).refs = db.refs.insert key after ∧ after.normalizedStatus = ref.normalizedStatus ∧
      after.statusRank = ref.statusRank ∧ after.internalOrderId = some result.internalOrderId ∧ after.syncStatus ≠ .conflict := by
  rw [recordImport, stored]
  dsimp only
  split
  · exact ⟨_, rfl, rfl, rfl, rfl, by rintro ⟨⟩⟩
  · exact ⟨_, rfl, rfl, rfl, rfl, by rintro ⟨⟩⟩

theorem createOmnichannelOrder_orders {orders after source drawn id code answer}
    (created : createOmnichannelOrder orders source drawn code = (after, id, answer)) :
    (∃ order, after.lookup id = some order ∧ order.source = source) ∧
      (∀ other order, orders.lookup other = some order → after.lookup other = some order) ∧
      (OneOrderEach orders → OneOrderEach after) := by
  rw [createOmnichannelOrder] at created
  split at created
  · next entry found =>
    cases created
    have source := find?_some found
    exact ⟨⟨entry.2, AList.mem_lookup_iff.mpr (mem_of_find?_eq_some found), of_decide_eq_true source⟩, fun _ _ => id, id⟩
  · next absent =>
    cases created
    have fresh : orders.lookup (Fresh.pick (orders.entries.map (·.1)) drawn) = none :=
      AList.lookup_eq_none.mpr (Fresh.pick_not_mem (orders.entries.map Sigma.fst) drawn)
    have first : ∀ other order, orders.lookup other = some order → order.source ≠ source := by
      intro other order found same
      have none := find?_eq_none.mp absent ⟨other, order⟩ (AList.mem_lookup_iff.mp found)
      exact none (decide_eq_true same)
    refine ⟨⟨_, lookup_insert_self .., rfl⟩, fun other order found => ?_, fun once => ?_⟩
    · refine (AList.lookup_insert_ne ?_).trans found
      rintro rfl
      cases fresh.symm.trans found
    · intro one two order other found also same
      rcases of_lookup_insert found with ⟨rfl, rfl⟩ | ⟨_, before⟩
      · rcases of_lookup_insert also with ⟨rfl, _⟩ | ⟨_, others⟩
        · rfl
        · exact absurd same.symm (first two other others)
      · rcases of_lookup_insert also with ⟨_, rfl⟩ | ⟨_, others⟩
        · exact absurd same (first one order before)
        · exact once one two order other before others same

structure OrderSyncSystem.Kept (system : OrderSyncSystem) : Prop extends system.Converged where
  ranked : ∀ key ref, system.db.refs.lookup key = some ref → ref.statusRank = getNormalizedStatusRank ref.normalizedStatus
  known : ∀ key status, (key, status) ∈ system.taken → system.db.refs.lookup key ≠ none
  answered : ∀ thread going result, system.imports.lookup thread = some going → going.result = some result →
    ∃ order, system.orders.lookup result.internalOrderId = some order ∧ order.source = going.key

namespace OrderSyncSystem.Kept

section

variable (kept : Kept system)

include kept

theorem drop (thread : Nat) : Kept { system with imports := system.imports.erase thread } :=
  ⟨⟨kept.once, kept.own, kept.highest⟩, kept.ranked, kept.known,
    fun other going result found => kept.answered other going result (of_lookup_erase found).2⟩

theorem take {after} (moves : RefMoves (system.db.refs.lookup key) incoming after)
    (clear : ∀ ref, system.db.refs.lookup key = some ref → ref.syncStatus ≠ .conflict ∧ (ref.isImported = false →
      getNormalizedStatusRank incoming ≤ getNormalizedStatusRank ref.normalizedStatus))
    {db : OrderSyncDb} (refs : db.refs = system.db.refs.insert key after) {imports : Table Nat OrderImport}
    (answered : ∀ thread going result, imports.lookup thread = some going → going.result = some result →
      ∃ order, system.orders.lookup result.internalOrderId = some order ∧ order.source = going.key) :
    Kept { system with db, imports, taken := system.taken ++ [(key, incoming)] } := by
  have rows : ∀ {other row}, db.refs.lookup other = some row →
      other = key ∧ row = after ∨ other ≠ key ∧ system.db.refs.lookup other = some row := by
    intro other row found
    rw [refs] at found
    exact of_lookup_insert found
  have kinds : ∀ {other status}, (other, status) ∈ system.taken ++ [(key, incoming)] →
      (other, status) ∈ system.taken ∨ other = key ∧ status = incoming := by
    intro other status member
    exact (mem_append.mp member).imp_right fun new => Prod.mk.inj (mem_singleton.mp new)
  refine ⟨⟨kept.once, fun other row id found internal => ?_, fun other row found quiet => ?_⟩, fun other row found => ?_,
    fun other status member => ?_, answered⟩
  · rcases rows found with ⟨rfl, rfl⟩ | ⟨_, before⟩
    · cases stored : system.db.refs.lookup other with
      | none =>
        rw [(moves.fresh stored).2] at internal
        cases internal
      | some ref =>
        rw [(moves.kept ref stored).1] at internal
        exact kept.own other ref id stored internal
    · exact kept.own other row id before internal
  · rcases rows found with ⟨rfl, rfl⟩ | ⟨apart, before⟩
    · have reached := moves.reached (fun ref stored => (clear ref stored).2) quiet
      cases stored : system.db.refs.lookup other with
      | none =>
        have status := (moves.fresh stored).1
        refine ⟨?_, fun status member => ?_⟩
        · rw [status]
          exact mem_append_right _ mem_cons_self
        · rcases kinds member with before | ⟨_, rfl⟩
          · exact absurd stored (kept.known other status before)
          · exact reached
      | some ref =>
        obtain ⟨_, status, higher⟩ := moves.kept ref stored
        obtain ⟨listed, highest⟩ := kept.highest other ref stored (clear ref stored).1
        refine ⟨?_, fun status member => ?_⟩
        · rcases status with same | new
          · rw [same]
            exact mem_append_left _ listed
          · rw [new]
            exact mem_append_right _ mem_cons_self
        · rcases kinds member with before | ⟨_, rfl⟩
          · exact (highest status before).trans higher
          · exact reached
    · obtain ⟨listed, highest⟩ := kept.highest other row before quiet
      refine ⟨mem_append_left _ listed, fun status member => ?_⟩
      rcases kinds member with earlier | ⟨same, _⟩
      · exact highest status earlier
      · exact absurd same apart
  · rcases rows found with ⟨_, rfl⟩ | ⟨_, before⟩
    · exact moves.ranked
    · exact kept.ranked other row before
  · dsimp only
    rw [refs, lookup_insert_if]
    split
    · exact some_ne_none _
    · next apart =>
      rcases kinds member with before | ⟨same, _⟩
      · exact kept.known other status before
      · exact absurd same apart

theorem prepare {connectionId order}
    (orderly : system.orderly (.prepare thread connectionId order) = true) : Kept (system.prepare thread connectionId order) := by
  obtain ⟨after, refs, moves⟩ := prepareImport_refs connectionId order kept.ranked
  refine kept.take moves (fun ref stored => ?_) refs fun other going result found answered => ?_
  · simp only [OrderSyncSystem.orderly, stored, all_some, Bool.or_eq_true, Bool.and_eq_true, decide_eq_true_eq] at orderly
    rcases orderly with imported | ⟨quiet, higher⟩
    · refine ⟨?_, fun open_ => ?_⟩
      · intro conflict
        simp [ChannelOrderRefEntity.isImported, conflict] at imported
      · cases imported.symm.trans open_
    · exact ⟨quiet, fun _ => higher⟩
  · split at found
    · rcases of_lookup_insert found with ⟨_, rfl⟩ | ⟨_, before⟩
      · cases answered
      · exact kept.answered other going result before answered
    · exact kept.answered other going result found answered

theorem ordered {orders source drawn id code answer} (created : createOmnichannelOrder system.orders source drawn code = (orders, id, answer)) :
    Kept { system with orders } := by
  obtain ⟨_, grown, once⟩ := createOmnichannelOrder_orders created
  refine ⟨⟨once kept.once, fun key ref internal found own => ?_, kept.highest⟩, kept.ranked, kept.known,
    fun thread going result found given => ?_⟩
  · obtain ⟨order, stored, same⟩ := kept.own key ref internal found own
    exact ⟨order, grown _ order stored, same⟩
  · obtain ⟨order, stored, same⟩ := kept.answered thread going result found given
    exact ⟨order, grown _ order stored, same⟩

theorem answer (going : OrderImport) (result : CanonicalSalesOrderResult)
    (has : ∃ order, system.orders.lookup result.internalOrderId = some order ∧ order.source = going.key) :
    Kept { system with imports := system.imports.insert thread { going with result := some result } } := by
  refine ⟨⟨kept.once, kept.own, kept.highest⟩, kept.ranked, kept.known, fun other import_ given found answered => ?_⟩
  rcases of_lookup_insert found with ⟨_, rfl⟩ | ⟨_, before⟩
  · cases answered
    exact has
  · exact kept.answered other import_ given before answered

theorem record {result}
    (has : ∃ order, system.orders.lookup result.internalOrderId = some order ∧ order.source = key)
    (quiet : ∀ ref, system.db.refs.lookup key = some ref → ref.syncStatus ≠ .conflict) :
    Kept { system with db := recordImport system.db key result } := by
  cases stored : system.db.refs.lookup key with
  | none =>
    rw [recordImport, stored]
    exact kept
  | some ref =>
    obtain ⟨after, refs, status, rank, internal, _⟩ := recordImport_refs result stored
    have rows : ∀ {other row}, (recordImport system.db key result).refs.lookup other = some row →
        other = key ∧ row = after ∨ other ≠ key ∧ system.db.refs.lookup other = some row := by
      intro other row found
      rw [refs] at found
      exact of_lookup_insert found
    refine ⟨⟨kept.once, fun other row id found own => ?_, fun other row found clear => ?_⟩, fun other row found => ?_,
      fun other status member => ?_, kept.answered⟩
    · rcases rows found with ⟨rfl, rfl⟩ | ⟨_, before⟩
      · cases internal.symm.trans own
        exact has
      · exact kept.own other row id before own
    · rcases rows found with ⟨rfl, rfl⟩ | ⟨_, before⟩
      · rw [Highest, status]
        exact kept.highest other ref stored (quiet ref stored)
      · exact kept.highest other row before clear
    · rcases rows found with ⟨_, rfl⟩ | ⟨_, before⟩
      · rw [rank, status]
        exact kept.ranked key ref stored
      · exact kept.ranked other row before
    · dsimp only
      rw [refs, lookup_insert_if]
      split
      · exact some_ne_none _
      · exact kept.known other status member

end

theorem step (kept : Kept system) {input} (orderly : system.orderly input = true) : Kept (orderSyncStep system input) := by
  cases input with
  | mapListing | setVariant => exact ⟨⟨kept.once, kept.own, kept.highest⟩, kept.ranked, kept.known, kept.answered⟩
  | prepare thread connectionId order =>
    rw [orderSyncStep]
    split
    · exact kept.prepare orderly
    · exact kept
  | callSales thread drawn code shortageDetected =>
    rw [orderSyncStep]
    split
    · next key lines found =>
      rcases created : createOmnichannelOrder system.orders key drawn code with ⟨orders, id, answer⟩
      exact (kept.ordered created).answer ⟨key, lines, none⟩ ⟨id, answer, shortageDetected⟩ (createOmnichannelOrder_orders created).1
    · exact kept
  | loseAnswer thread drawn code =>
    rw [orderSyncStep]
    split
    · next key lines found =>
      rcases created : createOmnichannelOrder system.orders key drawn code with ⟨orders, id, answer⟩
      exact (kept.ordered created).drop thread
    · exact kept
  | record thread =>
    rw [orderSyncStep]
    split
    · next key lines result found =>
      refine (kept.record (kept.answered thread _ result found rfl) fun ref stored => ?_).drop thread
      simp only [OrderSyncSystem.orderly, found, stored, all_some, decide_eq_true_eq] at orderly
      exact orderly
    · exact kept
  | crash thread => exact kept.drop thread

theorem empty : Kept {} := by
  refine ⟨⟨fun first second one other found => ?_, fun key ref id found => ?_, fun key ref found => ?_⟩,
    fun key ref found => ?_, fun key status member => absurd member not_mem_nil, fun thread going result found => ?_⟩
  all_goals cases found

end OrderSyncSystem.Kept

theorem OrderSyncSystem.Kept.orderSyncStep (kept : system.Kept) {input} (orderly : system.orderly input = true) :
    OrderSyncStep system input := by
  intro key ref stored
  have same : ∀ db : OrderSyncDb, db.refs = system.db.refs → ∃ after, db.refs.lookup key = some after ∧
      getNormalizedStatusRank ref.normalizedStatus ≤ getNormalizedStatusRank after.normalizedStatus ∧
      (ref.syncStatus = .conflict → after.syncStatus = .conflict) := by
    intro db unchanged
    rw [unchanged]
    exact ⟨ref, stored, le_rfl, id⟩
  cases input with
  | prepare thread connectionId order =>
    rw [Integration.orderSyncStep]
    split
    · obtain ⟨after, refs, moves⟩ := prepareImport_refs connectionId order kept.ranked
      by_cases here : key = ⟨connectionId, order.externalOrderId⟩
      · obtain rfl := here
        refine ⟨after, ?_, (moves.kept ref stored).2.2, fun conflict => ?_⟩
        · exact (congrArg (AList.lookup _) refs).trans (lookup_insert_self ..)
        · simp [OrderSyncSystem.orderly, stored, ChannelOrderRefEntity.isImported, conflict] at orderly
      · exact ⟨ref, ((congrArg (AList.lookup key) refs).trans (AList.lookup_insert_ne here)).trans stored, le_rfl, id⟩
    · exact same _ rfl
  | record thread =>
    rw [Integration.orderSyncStep]
    split
    · next other lines result found =>
      by_cases here : key = other
      · obtain rfl := here
        obtain ⟨after, refs, status, _⟩ := recordImport_refs result stored
        refine ⟨after, (congrArg (AList.lookup key) refs).trans (lookup_insert_self ..), ?_, fun conflict => ?_⟩
        · rw [status]
        · simp [OrderSyncSystem.orderly, found, stored, conflict] at orderly
      · cases else_ : system.db.refs.lookup other with
        | none =>
          refine same _ ?_
          rw [recordImport, else_]
        | some row =>
          obtain ⟨after, refs, _⟩ := recordImport_refs result else_
          exact ⟨ref, ((congrArg (AList.lookup key) refs).trans (AList.lookup_insert_ne here)).trans stored, le_rfl, id⟩
    · exact same _ rfl
  | callSales | loseAnswer =>
    rw [Integration.orderSyncStep]
    split <;> exact same _ rfl
  | mapListing | setVariant | crash => exact same _ rfl

/-- While orders take no higher status before their import has ended, and none after a conflict, every order has the
highest of its statuses and one internal order, and conflicts stay. -/
theorem imports_converge {inputs : List OrderSyncInput}
    (orderly : Meets orderSyncStep (fun system input => system.orderly input = true) {} inputs) :
    Meets orderSyncStep OrderSyncStep {} inputs ∧ (after orderSyncStep {} inputs).Converged := by
  have keeps : ∀ system input, system.orderly input = true → system.Kept → (orderSyncStep system input).Kept :=
    fun _ _ orderly kept => kept.step orderly
  refine ⟨meets_iff_each.mpr fun earlier input later split => ?_, ?_⟩
  · rw [split] at orderly
    obtain ⟨before, now, _⟩ := meets_append.mp orderly
    exact (invariant_of_meets Kept keeps before .empty).orderSyncStep now
  · exact (invariant_of_meets Kept keeps orderly .empty).toConverged

private def parcel (status : NormalizedExternalOrderStatus) : NormalizedExternalOrder := ⟨"order", status.text, status, 0, []⟩

theorem imports_converge_shipped :
    (after orderSyncStep {} [.prepare 0 1 (parcel .readyToShip), .callSales 0 7 "HD1" false, .record 0,
      .prepare 0 1 (parcel .shipped), .prepare 0 1 (parcel .unpaid)]).Converged :=
  (imports_converge (by decide +kernel)).2

private def heldBack : List OrderSyncInput :=
  [.prepare 0 1 (parcel .unpaid), .crash 0, .prepare 0 1 (parcel .shipped), .callSales 0 7 "HD1" false, .record 0]

private def disputed : List OrderSyncInput :=
  [.prepare 0 1 (parcel .delivered), .callSales 0 7 "HD1" false, .record 0, .prepare 0 1 (parcel .cancelled)]

/-- A higher status that comes with the retry of an import is not stored, and the next delivery clears a conflict. -/
theorem retried_import_keeps_old_status : ¬(after orderSyncStep {} heldBack).Converged ∧
    ¬OrderSyncStep (after orderSyncStep {} disputed) (.prepare 0 1 (parcel .cancelled)) := by
  constructor
  · intro converged
    have stored : ((after orderSyncStep {} heldBack).db.refs.lookup ⟨1, "order"⟩).map
        (fun ref => (ref.normalizedStatus, ref.syncStatus)) = some (.unpaid, .imported) := by decide +kernel
    obtain ⟨ref, found, columns⟩ := map_eq_some_iff.mp stored
    obtain ⟨status, imported⟩ := Prod.mk.inj columns
    have quiet : ref.syncStatus ≠ .conflict := by
      rw [imported]
      rintro ⟨⟩
    have highest := (converged.highest ⟨1, "order"⟩ ref found quiet).2 .shipped (by decide +kernel)
    rw [status, getNormalizedStatusRank, getNormalizedStatusRank] at highest
    omega
  · intro lawful
    have before : ((after orderSyncStep {} disputed).db.refs.lookup ⟨1, "order"⟩).map (·.syncStatus) = some .conflict := by
      decide +kernel
    have later : ((orderSyncStep (after orderSyncStep {} disputed) (.prepare 0 1 (parcel .cancelled))).db.refs.lookup
        ⟨1, "order"⟩).map (·.syncStatus) = some .importing := by decide +kernel
    obtain ⟨ref, found, conflict⟩ := map_eq_some_iff.mp before
    obtain ⟨after, now, _, stays⟩ := lawful ⟨1, "order"⟩ ref found
    rw [now] at later
    cases (stays conflict).symm.trans (some.inj later)

end Integration
