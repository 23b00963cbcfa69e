import RetailApi.Proofs.CheckoutOnce

/-! Shifts that are counted or closed under a checkout. One that has its order, carries no cash, or has ended without an order
asks nothing more of the drawer, unless a call that read its row earlier is still under way. -/

namespace Sales

open Process Transaction Option List WorkflowPatch Run CashStore

def CheckoutWorld.reopened (world : CheckoutWorld) (shiftId : Uuid) : CheckoutWorld :=
  { world with db.cash.shifts := world.db.cash.shifts.mapRows fun id row =>
      if id = shiftId then ⟨{ row.1 with status := .open }, row.2⟩ else row }

def NeedsCashEntry (ids : CheckoutIds) (shiftId : Uuid) (world : CheckoutWorld) (action : CheckoutAction) : Prop :=
  ∃ choice, (performCheckout ids action choice (world.reopened shiftId)).1.db.cash.entriesOf shiftId ≠
    world.db.cash.entriesOf shiftId

/-- Some later sequence of operations would need to append a cash entry to the shift. -/
def MayNeedCash (ids : CheckoutIds) (shiftId : Uuid) (pool : CheckoutPool) : Prop :=
  ∃ later thread action, (after (checkoutMachine ids).step pool later).pending thread = some action ∧
    NeedsCashEntry ids shiftId (after (checkoutMachine ids).step pool later).shared action

def CashStore.statusOf (store : CashStore) (shiftId : Uuid) : Option ShiftStatus :=
  (store.shift shiftId).map (·.status)

def LeavesOpen (ids : CheckoutIds) (pool : CheckoutPool) (operation : ShiftOperation) (shiftId : Uuid) : Prop :=
  pool.shared.db.cash.statusOf shiftId = some .open ∧
    ((checkoutMachine ids).step pool (.environment (.shift operation))).shared.db.cash.statusOf shiftId ≠ some .open

section Effects

variable {ids : CheckoutIds} {db after : SalesDb} {world : CheckoutWorld}

variable {input : FinalizeInput} {entryId : Uuid} {row : CheckoutWorkflow}

theorem recordSaleCash_cashless {cash written wf} (cashless : input.tenderSummary.bringsCash = false)
    (recorded : recordSaleCash cash wf input entryId = .ok written) : written = cash := by
  simp only [recordSaleCash, eq_ok] at recorded
  obtain ⟨amount, computed, recorded⟩ := recorded
  rw [ValidatedTenderSummary.bringsCash, computed] at cashless
  split at recorded
  · rw [if_neg (of_decide_eq_false cashless), pure_eq_ok] at recorded
    exact recorded.symm
  · rw [pure_eq_ok] at recorded
    exact recorded.symm

theorem finalizeCheckout_drawers {accepted} {result}
    (ran : finalizeCheckout ids db input accepted entryId = .ok result) :
    db.orders.length ≤ result.1.orders.length ∧ (result.1.cash = db.cash ∨
      input.tenderSummary.bringsCash = true ∧ result.1.orders.length = db.orders.length + 1) := by
  obtain ⟨row, _, ⟨_, same⟩ | ⟨_, _, wrote⟩ | ⟨_, claimed, cash, coupon, drawer, wrote⟩⟩ := finalizeCheckout_cases ran
  · rw [same]
    exact ⟨le_refl _, .inl rfl⟩
  · obtain ⟨orders, _, cash, _⟩ := saveWorkflow_tables wrote
    exact ⟨le_of_eq (congrArg length orders.symm), .inl cash⟩
  · obtain ⟨_, orders, _, sameCash, _⟩ := claimCoupon_ok coupon
    obtain ⟨savedOrders, _, savedCash, _⟩ := saveWorkflow_tables wrote
    have longer : result.1.orders.length = db.orders.length + 1 := by
      rw [savedOrders, length_append, orders]
      rfl
    refine ⟨by omega, ?_⟩
    cases brings : input.tenderSummary.bringsCash with
    | false =>
      have same := recordSaleCash_cashless brings drawer
      exact .inl (savedCash.trans (same.trans sameCash))
    | true => exact .inr ⟨rfl, longer⟩

theorem finalizeCheckout_tenders {accepted} {result}
    (single : db.Single ids) (found : db.findWorkflow ids.checkoutId = some row)
    (ran : finalizeCheckout ids db input accepted entryId = .ok result) :
    result.1.Single ids ∧ ∃ last, result.1.findWorkflow ids.checkoutId = some last ∧ last.tendersJson = row.tendersJson := by
  have own := findWorkflow_id found
  obtain ⟨stored, sameRow, ways⟩ := finalizeCheckout_cases ran
  cases found.symm.trans sameRow
  rcases ways with ⟨_, same⟩ | ⟨_, _, wrote⟩ | ⟨_, claimed, cash, coupon, drawer, wrote⟩
  · rw [same]
    exact ⟨single, row, found, rfl⟩
  · obtain ⟨isSingle, last, _⟩ := saveWorkflow_row wrote single own
    exact ⟨isSingle, _, last, rfl⟩
  · obtain ⟨workflows, _⟩ := claimCoupon_ok coupon
    obtain ⟨isSingle, last, _⟩ := saveWorkflow_row wrote ((single.congr workflows).1.congr rfl).1 own
    exact ⟨isSingle, _, last, rfl⟩

theorem createUnlessRaced_tables {choice result}
    (created : createUnlessRaced ids db row choice = .ok result) : result.1.orders = db.orders ∧ result.1.cash = db.cash := by
  unfold createUnlessRaced at created
  split at created
  · cases created
  · obtain ⟨stored, wrote, rfl⟩ := map_eq_ok.mp created
    simp only [createWorkflow, eq_ok] at wrote
    obtain ⟨claimed, coupon, saved, kept, _, _, rfl⟩ := wrote
    obtain ⟨_, claimedOrders, _, claimedCash, _⟩ := claimCoupon_ok coupon
    obtain ⟨orders, _, cash, _⟩ := saveWorkflow_tables kept
    exact ⟨orders.trans claimedOrders, cash.trans claimedCash⟩

theorem performCheckout_sold (action : CheckoutAction) (choice : Choice) (sold : world.db.orders ≠ []) :
    (performCheckout ids action choice world).1.db.orders ≠ [] := by
  cases action with
  | createWorkflow row =>
    simp only [performCheckout, settle]
    cases created : createUnlessRaced ids world.db row choice with
    | error failure => exact sold
    | ok result =>
      rw [(createUnlessRaced_tables created).1]
      exact sold
  | finalizeCheckout input =>
    simp only [performCheckout, settle]
    cases ran : finalizeCheckout ids world.db input choice.couponAccepted choice.newId with
    | error failure => exact sold
    | ok result =>
      have longer := (finalizeCheckout_drawers ran).1
      have some := length_pos_iff.mpr sold
      exact length_pos_iff.mp (lt_of_lt_of_le some longer)
  | _ => exact sold

theorem NeedsCashEntry.finalizes {shiftId action} (needs : NeedsCashEntry ids shiftId world action) :
    ∃ input, ∃ choice : Choice, ∃ result, action = .finalizeCheckout input ∧ input.tenderSummary.bringsCash = true ∧
      finalizeCheckout ids (world.reopened shiftId).db input choice.couponAccepted choice.newId = .ok result ∧
      result.1.orders.length = world.db.orders.length + 1 := by
  obtain ⟨choice, appended⟩ := needs
  have unchanged : ∀ cash : CashStore, cash = (world.reopened shiftId).db.cash →
      cash.entriesOf shiftId = world.db.cash.entriesOf shiftId := by
    intro cash same
    rw [same]
    rfl
  cases action with
  | createWorkflow row =>
    simp only [performCheckout, settle] at appended
    cases created : createUnlessRaced ids (world.reopened shiftId).db row choice with
    | error failure =>
      rw [created] at appended
      exact absurd rfl appended
    | ok result =>
      rw [created] at appended
      exact absurd (unchanged _ (createUnlessRaced_tables created).2) appended
  | finalizeCheckout input =>
    simp only [performCheckout, settle] at appended
    cases ran : finalizeCheckout ids (world.reopened shiftId).db input choice.couponAccepted choice.newId with
    | error failure =>
      rw [ran] at appended
      exact absurd rfl appended
    | ok result =>
      rw [ran] at appended
      rcases (finalizeCheckout_drawers ran).2 with same | ⟨brings, orders⟩
      · exact absurd (unchanged _ same) appended
      · exact ⟨input, choice, result, rfl, brings, ran, orders⟩
  | _ => exact absurd rfl appended

end Effects

section Spared

variable {ids : CheckoutIds} {world : CheckoutWorld}

def RowKnown (ids : CheckoutIds) (known : CheckoutWorkflow → Prop) (world : CheckoutWorld) : Prop :=
  world.db.Single ids ∧ ∃ row, world.db.findWorkflow ids.checkoutId = some row ∧ known row

variable {known : CheckoutWorkflow → Prop} {action : CheckoutAction}

theorem RowKnown.answers (found : RowKnown ids known world) (action : CheckoutAction)
    (choice : Choice) : ReadsRow known action (performCheckout ids action choice world).2 := by
  cases action with
  | findWorkflow => exact found.2
  | _ => trivial

theorem RowKnown.surrounded (found : RowKnown ids known world) (event : CheckoutEvent) :
    RowKnown ids known (surroundCheckout ids world event) := by
  obtain ⟨workflows, _⟩ := surroundCheckout_rows ids world event
  obtain ⟨single, same⟩ := found.1.congr workflows
  obtain ⟨row, stored, isKnown⟩ := found.2
  exact ⟨single, row, same.trans stored, isKnown⟩

theorem RowKnown.changed {after} (found : RowKnown ids known world)
    {change} (single : after.db.Single ids)
    (stored : after.db.findWorkflow ids.checkoutId = (world.db.findWorkflow ids.checkoutId).map change)
    (keeps : ∀ row, known row → known (change row)) : RowKnown ids known after := by
  obtain ⟨row, was, isKnown⟩ := found.2
  exact ⟨single, change row, by rw [stored, was]; rfl, keeps row isKnown⟩

theorem performCheckout_aborted (choice : Choice) (leaves : action.revives = false)
    (ended : RowKnown ids (fun row => row.state.isAborted = true) world) :
    RowKnown ids (fun row => row.state.isAborted = true) (performCheckout ids action choice world).1 := by
  cases action with
  | createWorkflow | finalizeCheckout | escalateWorkflow => cases leaves
  | updateWorkflowState patch =>
    obtain ⟨single, stored⟩ := updateWorkflowState_row patch ended.1
    refine ended.changed single stored fun row aborted => ?_
    rw [applyUnlessClosed, aborted, Bool.or_true, if_pos rfl]
    exact aborted
  | abortWorkflow ending lastError =>
    obtain ⟨single, stored⟩ := abortWorkflow_row ending lastError ended.1
    refine ended.changed single stored fun row _ => ?_
    cases ending with
    | cancelled => rfl
    | rejected => rfl
  | _ => exact ended

theorem performCheckout_cashless (choice : Choice) (cashless : action.Cashless ids)
    (found : RowKnown ids (fun row => row.tendersJson.bringsCash = false) world) :
    RowKnown ids (fun row => row.tendersJson.bringsCash = false) (performCheckout ids action choice world).1 := by
  cases action with
  | createWorkflow row =>
    simp only [performCheckout, settle]
    cases created : createUnlessRaced ids world.db row choice with
    | error failure => exact found
    | ok result =>
      obtain ⟨single, stored, _⟩ := createUnlessRaced_row found.1 cashless.1 created
      exact ⟨single, row, stored, cashless.2⟩
  | finalizeCheckout input =>
    simp only [performCheckout, settle]
    cases ran : finalizeCheckout ids world.db input choice.couponAccepted choice.newId with
    | error failure => exact found
    | ok result =>
      obtain ⟨row, stored, isCashless⟩ := found.2
      obtain ⟨single, last, kept, same⟩ := finalizeCheckout_tenders found.1 stored ran
      exact ⟨single, last, kept, (congrArg ValidatedTenderSummary.bringsCash same).trans isCashless⟩
  | updateWorkflowState patch =>
    obtain ⟨single, stored⟩ := updateWorkflowState_row patch found.1
    refine found.changed single stored fun row isCashless => ?_
    unfold applyUnlessClosed
    split
    · exact isCashless
    · cases given : patch.tendersJson with
      | none => simpa [apply, given] using isCashless
      | some summary => simpa [apply, given] using cashless summary given
  | abortWorkflow ending lastError =>
    obtain ⟨single, stored⟩ := abortWorkflow_row ending lastError found.1
    exact found.changed single stored fun _ isCashless => isCashless
  | escalateWorkflow retryCount reason =>
    obtain ⟨single, stored, _⟩ := escalateWorkflow_row retryCount reason found.1
    exact found.changed single stored fun _ isCashless => isCashless
  | _ => exact found

theorem confined_asks_nothing {pool} {kind : CheckoutAction → Prop}
    (confined : Confined (S := checkoutSignature) (RowKnown ids known) (ReadsRow known) kind pool)
    (keeps : ∀ action choice world, kind action → RowKnown ids known world →
      RowKnown ids known (performCheckout ids action choice world).1)
    (starts : ∀ call : CheckoutCall, RowUses known kind (call.saga ids))
    (harmless : ∀ input : FinalizeInput, input.tenderSummary.bringsCash = true → ¬kind (.finalizeCheckout input))
    (shiftId : Uuid) : ¬MayNeedCash ids shiftId pool := by
  rintro ⟨later, thread, action, pending, needs⟩
  have stays : Confined (S := checkoutSignature) (RowKnown ids known) (ReadsRow known) kind
      (after (checkoutMachine ids).step pool later) := by
    refine invariant (Confined (S := checkoutSignature) (RowKnown ids known) (ReadsRow known) kind) ?_ confined later
    intro before input kept
    refine kept.step ?_ (fun _ event found => found.surrounded event) starts
    intro action choice world allowed found
    exact ⟨keeps action choice world allowed found, found.answers action choice⟩
  obtain ⟨program, running, performs⟩ := bind_eq_some_iff.mp pending
  cases program with
  | done => cases performs
  | perform acted next =>
    cases performs
    obtain ⟨input, _, _, rfl, brings, _⟩ := needs.finalizes
    exact harmless input brings (stays.calls thread _ running).1

theorem reopened_keeps {strict} (kept : CheckoutKept ids strict world) (shiftId : Uuid) :
    CheckoutKept ids strict (world.reopened shiftId) ∧ CheckoutLater world (world.reopened shiftId) :=
  kept.of_row kept.single rfl rfl kept.row

theorem sold_asks_nothing (inputs : List CheckoutInput) (sold : (checkoutAfter ids inputs).shared.db.orders ≠ []) (shiftId : Uuid) :
    ¬MayNeedCash ids shiftId (checkoutAfter ids inputs) := by
  rintro ⟨later, thread, action, pending, needs⟩
  have stays : (after (checkoutMachine ids).step (checkoutAfter ids inputs) later).shared.db.orders ≠ [] := by
    refine invariant (fun pool : CheckoutPool => pool.shared.db.orders ≠ []) ?_ sold later
    intro before input some
    refine step_shared (fun world : CheckoutWorld => world.db.orders ≠ []) some ?_ ?_
    · intro thread choice action _ _
      exact performCheckout_sold action choice some
    · intro event _
      have same := congrArg Footprint.orders (surroundCheckout_rows ids before.shared event).2
      exact fun none => some (same.symm.trans none)
  rw [← checkoutAfter_append] at pending needs stays
  have calm : ∀ action, ¬(checkoutDiscipline ids False).Urgent action := fun _ urgent => urgent.1
  have kept : Kept (checkoutDiscipline ids False) (CheckoutTold ids False) (checkoutAfter ids (inputs ++ later)) :=
    checkoutAfter_kept _ (obeys_leniently ids _ _)
  obtain ⟨program, running, performs⟩ := bind_eq_some_iff.mp pending
  cases program with
  | done => cases performs
  | perform acted next =>
    cases performs
    obtain ⟨input, choice, result, rfl, _, ran, longer⟩ := needs.finalizes
    -- were the shift open, the call would still be safe, and write no second order
    have safe := kept.safe calm running
    obtain ⟨openHolds, moved⟩ := reopened_keeps (kept.holds calm) shiftId
    have stepped := (safe.2.2 (calm _)).2 _ choice moved openHolds fun asked => asked.elim
    have after := stepped.quiet fun pressing => calm _ pressing.choose_spec.2
    simp only [checkoutDiscipline, performCheckout, settle, ran] at after
    have one := after.once.orders
    have some := length_pos_iff.mpr stays
    have same : result.1.orders.length ≤ 1 := one
    omega

end Spared

section Closing

variable {store after : CashStore} {shiftId : Uuid} {shift next : Shift}

theorem statusOf_write (wrote : store.writeShift shiftId next = .ok after) (other : Uuid) :
    after.statusOf other = if other = shiftId then some next.status else store.statusOf other := by
  rw [statusOf, (writeShift_ok wrote).1 other]
  split
  · rfl
  · rfl

variable {entryId other : Uuid}

theorem statusOf_record {input} {closing} {result}
    (ran : recordCashEntry store entryId input closing = .ok result) (other : Uuid) :
    result.1.statusOf other = store.statusOf other := by
  rcases recordCashEntry_ok ran with ⟨same, _⟩ | ⟨entry, shift, written, _, shifts⟩
  · rw [same]
  · rw [statusOf, shifts other]
    split
    · next own =>
      rw [own.1, statusOf, written.found]
      rfl
    · rfl

theorem statusOf_finalizeClose {closing}
    (ran : finalizeClose store shiftId entryId shift closing = .ok after) (apart : other ≠ shiftId) :
    after.statusOf other = store.statusOf other := by
  simp only [finalizeClose, eq_ok] at ran
  obtain ⟨recorded, entered, closed, wrote, rfl⟩ := ran
  have entry : recorded.1.statusOf other = store.statusOf other := by
    unfold recordVariance at entered
    split at entered
    · cases entered
      rfl
    · simp only [eq_ok] at entered
      obtain ⟨_, _, result, written, rfl⟩ := entered
      exact statusOf_record written other
  have row := statusOf_write wrote other
  rw [if_neg apart] at row
  exact row.trans entry

theorem assertNoPendingWork_ok {checkDrafts} {checked}
    (accepted : assertNoPendingWork store shiftId shift checkDrafts = .ok checked) :
    store.pendingWorkflows.find? (·.1 = shiftId) = none := by
  unfold assertNoPendingWork at accepted
  split at accepted
  · cases accepted
  · next none => exact none

theorem apart_of_locked {scope} (locked : lockShift store other scope = .ok shift)
    (isOpen : store.statusOf shiftId = some .open) (closing : shift.status ≠ .open) : shiftId ≠ other := by
  rintro rfl
  rw [statusOf, lockShift_ok locked] at isOpen
  exact closing (some.inj isOpen)

theorem executeShift_open {operation} (ran : executeShift store operation = .ok after)
    (isOpen : store.statusOf shiftId = some .open) :
    after.statusOf shiftId = some .open ∨ store.pendingWorkflows.find? (·.1 = shiftId) = none := by
  cases operation with
  | setBranch | setRegister | setPendingWork =>
    cases ran
    exact .inl isOpen
  | updateCashSettings dto =>
    simp only [executeShift, updateCashSettings, eq_ok] at ran
    obtain ⟨_, _, rfl⟩ := ran
    exact .inl isOpen
  | openShift =>
    simp only [executeShift, openShift, eq_ok] at ran
    obtain ⟨_, _, _, _, _, _, _, _, _, _, _, _, ran⟩ := ran
    obtain ⟨_, _, _, _, _, _, written, wrote, rfl⟩ := ran
    have row := statusOf_write wrote shiftId
    split at row
    · exact .inl row
    · exact .inl (row.trans isOpen)
  | record =>
    simp only [executeShift, eq_ok] at ran
    obtain ⟨result, recorded, rfl⟩ := ran
    exact .inl ((statusOf_record recorded shiftId).trans isOpen)
  | addCashEntry =>
    simp only [executeShift, addCashEntry, eq_ok] at ran
    obtain ⟨_, _, result, recorded, rfl⟩ := ran
    exact .inl ((statusOf_record recorded shiftId).trans isOpen)
  | countShift other =>
    simp only [executeShift, countShift, eq_ok] at ran
    obtain ⟨_, _, _, _, _, _, _, _, _, accepted, _, _, _, _, wrote⟩ := ran
    by_cases same : shiftId = other
    · subst same
      exact .inr (assertNoPendingWork_ok accepted)
    · rw [statusOf_write wrote shiftId, if_neg same]
      exact .inl isOpen
  | closeShift other =>
    simp only [executeShift, closeShift, eq_ok] at ran
    obtain ⟨_, _, _, _, _, _, _, _, _, accepted, _, _, _, _, _, _, ran⟩ := ran
    by_cases same : shiftId = other
    · subst same
      exact .inr (assertNoPendingWork_ok accepted)
    split at ran
    · rw [statusOf_write ran shiftId, if_neg same]
      exact .inl isOpen
    · exact .inl ((statusOf_finalizeClose ran same).trans isOpen)
  | approveClose other =>
    simp only [executeShift, approveClose, eq_ok] at ran
    obtain ⟨shift, locked, _, _, _, waiting, _, _, _, _, _, _, ran⟩ := ran
    have apart := apart_of_locked locked isOpen (by simp [waiting])
    exact .inl ((statusOf_finalizeClose ran apart).trans isOpen)
  | rejectClose other =>
    simp only [executeShift, rejectClose, eq_ok] at ran
    obtain ⟨shift, locked, _, _, _, counted, wrote⟩ := ran
    rw [statusOf_write wrote shiftId, if_neg (apart_of_locked locked isOpen counted)]
    exact .inl isOpen
  | patchPlannedEnd other =>
    simp only [executeShift, patchPlannedEnd, eq_ok] at ran
    obtain ⟨shift, locked, _, unchanged, wrote⟩ := ran
    have row := statusOf_write wrote shiftId
    split at row
    · exact .inl (row.trans (congrArg some unchanged))
    · exact .inl (row.trans isOpen)

end Closing

/-- The states that can lead to an order and that a count or a close does not look for. -/
def CheckoutWorkflowState.isOverlooked : CheckoutWorkflowState → Bool
  | .awaitingPayment | .requiresReconciliation => true
  | _ => false

/-- No call that is under way does more than actions of a kind, as long as it reads rows of which something is known. -/
def CheckoutPool.KeepsTo (pool : CheckoutPool) (known : CheckoutWorkflow → Prop) (kind : CheckoutAction → Prop) : Prop :=
  ∀ thread program, pool.running thread = some program →
    Program.Uses (S := checkoutSignature) (ReadsRow known) kind program

/-- A checkout that has no order yet: overlooked states have no cash, and no call under way takes up a checkout with
cash again, or brings cash to one that has none. -/
def SparesDrawer (ids : CheckoutIds) (pool : CheckoutPool) (row : CheckoutWorkflow) : Prop :=
  pool.shared.db.findOrder ids.orderId = none →
    (row.state.isOverlooked = true → row.tendersJson.bringsCash = false) ∧
    (row.tendersJson.bringsCash = true →
      pool.KeepsTo (fun read => read.state.isAborted = true) fun action => action.revives = false) ∧
    (row.tendersJson.bringsCash = false →
      pool.KeepsTo (fun read => read.tendersJson.bringsCash = false) (CheckoutAction.Cashless ids))

section Leaving

variable {ids : CheckoutIds} {pool : CheckoutPool} {operation : ShiftOperation} {shiftId : Uuid} {row : CheckoutWorkflow}

theorem LeavesOpen.not_pending (leaves : LeavesOpen ids pool operation shiftId)
    (found : pool.shared.db.findWorkflow ids.checkoutId = some row) (bound : row.shiftId = some shiftId) :
    row.state.isPending = false := by
  obtain ⟨isOpen, left⟩ := leaves
  cases pending : row.state.isPending with
  | false => rfl
  | true =>
    have listed : (shiftId, row.id, toString row.state) ∈ pool.shared.db.pendingWork := by
      refine mem_filterMap.mpr ⟨row, mem_of_find?_eq_some found, ?_⟩
      rw [pending, if_pos rfl, bound]
      rfl
    simp only [checkoutMachine, Machine.step, surroundCheckout] at left
    split at left
    · exact absurd isOpen left
    unfold performShift commit at left
    split at left
    · next ran =>
      rcases executeShift_open ran isOpen with stays | none
      · exact absurd stays left
      · have missed := find?_eq_none.mp none _ listed
        exact absurd (decide_eq_true rfl) missed
    · exact absurd isOpen left

theorem overlooked_or_aborted {state : CheckoutWorkflowState} (pending : state.isPending = false)
    (unfinished : state.isFinished = false) : state.isOverlooked = true ∨ state.isAborted = true := by
  cases state <;> first | exact .inl rfl | exact .inr rfl | cases pending; done | cases unfinished

/-- When a count or a close takes a shift out of OPEN, and a checkout bound to it spares the drawer, no later sequence
of operations on the checkout needs a cash entry in the shift. -/
theorem closing_shift_needs_no_cash (ids : CheckoutIds) (inputs : List CheckoutInput) (operation : ShiftOperation)
    (shiftId : Uuid) (row : CheckoutWorkflow)
    (found : (checkoutAfter ids inputs).shared.db.findWorkflow ids.checkoutId = some row) (bound : row.shiftId = some shiftId)
    (leaves : LeavesOpen ids (checkoutAfter ids inputs) operation shiftId)
    (spares : SparesDrawer ids (checkoutAfter ids inputs) row) :
    ¬MayNeedCash ids shiftId (checkoutAfter ids (inputs ++ [.environment (.shift operation)])) := by
  have kept := checkoutAfter_holds ids inputs
  have pending := leaves.not_pending found bound
  obtain ⟨workflows, footprint⟩ := surroundCheckout_rows ids (checkoutAfter ids inputs).shared (.shift operation)
  have orders := congrArg Footprint.orders footprint
  have closed : checkoutAfter ids (inputs ++ [.environment (.shift operation)]) =
      { checkoutAfter ids inputs with shared := surroundCheckout ids (checkoutAfter ids inputs).shared (.shift operation) } := by
    rw [checkoutAfter_append]
    rfl
  by_cases sold : (checkoutAfter ids inputs).shared.db.orders = []
  · have unordered : (checkoutAfter ids inputs).shared.db.findOrder ids.orderId = none := by
      rw [SalesDb.findOrder, sold]
      rfl
    obtain ⟨overlooked, revived, paid⟩ := spares unordered
    -- the count or close changes neither the row nor the calls
    have confined : ∀ (known : CheckoutWorkflow → Prop) (kind : CheckoutAction → Prop), known row →
        (checkoutAfter ids inputs).KeepsTo known kind →
        Confined (S := checkoutSignature) (RowKnown ids known) (ReadsRow known) kind
          (checkoutAfter ids (inputs ++ [.environment (.shift operation)])) := by
      intro known kind isKnown keeps
      have before : RowKnown ids known (checkoutAfter ids inputs).shared := ⟨kept.single, row, found, isKnown⟩
      rw [closed]
      exact ⟨before.surrounded _, keeps⟩
    cases brings : row.tendersJson.bringsCash with
    | false =>
      refine confined_asks_nothing (confined _ _ brings (paid brings)) ?_ call_cashless ?_ shiftId
      · intro action choice world cashless holds
        exact performCheckout_cashless choice cashless holds
      · intro input carries cashless
        exact Bool.noConfusion (carries.symm.trans cashless)
    | true =>
      have unfinished : row.state.isFinished = false := by
        by_contra finished
        have named := (kept.row row found).finished (Bool.not_eq_false _ ▸ finished)
        exact ((kept.row row found).named _ named).2 sold
      have aborted : row.state.isAborted = true := by
        rcases overlooked_or_aborted pending unfinished with state | aborted
        · rw [overlooked state] at brings
          cases brings
        · exact aborted
      refine confined_asks_nothing (confined _ _ aborted (revived brings)) ?_ call_aborted ?_ shiftId
      · intro action choice world leaves holds
        exact performCheckout_aborted choice leaves holds
      · intro input _ revives
        cases revives
  · apply sold_asks_nothing
    rw [closed]
    exact fun none => sold (orders.symm.trans none)

end Leaving

/-- A sale of which a part is to be paid by transfer, left waiting for the payment by call 0. -/
def awaitedSale (cash transfer : Int) : List CheckoutInput :=
  let inCash : List PosTenderDto := if 0 < cash then [{ method := .cash, amount := cash, tenderedCash := some cash }] else []
  openTill ++ .call (cartSale (inCash ++ [{ method := .bankTransfer, amount := transfer }])) :: turns 0 12

def closeTill : ShiftOperation := .closeShift 10 400 7 none { actualCash := some 500000 }

variable {pool : CheckoutPool}

theorem mayNeedCash_of_appends {ids shiftId} (later : List CheckoutInput) (thread : Nat) (choice : Choice)
    (appends : ((after (checkoutMachine ids).step pool later).pending thread).any (fun action =>
      ((performCheckout ids action choice ((after (checkoutMachine ids).step pool later).shared.reopened shiftId)).1.db.cash.entriesOf
        shiftId).length ≠ ((after (checkoutMachine ids).step pool later).shared.db.cash.entriesOf shiftId).length) = true) :
    MayNeedCash ids shiftId pool := by
  obtain ⟨action, pending, longer⟩ := (any_eq_true _ _).mp appends
  refine ⟨later, thread, action, pending, choice, fun same => ?_⟩
  exact of_decide_eq_true longer (congrArg length same)

theorem keepsTo_of_idle {known} {kind}
    (idle : (pool.threads.all fun thread => (thread.program.bind Program.action).isNone) = true) : pool.KeepsTo known kind := by
  intro thread program running
  obtain ⟨entry, found, same⟩ := bind_eq_some_iff.mp running
  have done := all_eq_true.mp idle entry (mem_of_getElem? found)
  rw [same, bind_some, isNone_iff_eq_none] at done
  exact Program.Uses.of_idle done

/-- A sale to be paid by transfer alone: the drawer is closed over it, and nothing is missing there. -/
theorem closing_shift_needs_no_cash_transfer :
    ((checkoutAfter saleIds (awaitedSale 0 100000)).shared.db.findWorkflow saleIds.checkoutId).map (·.state) =
      some .awaitingPayment ∧
    ¬MayNeedCash saleIds 10 (checkoutAfter saleIds (awaitedSale 0 100000 ++ [.environment (.shift closeTill)])) := by
  have facts : ((checkoutAfter saleIds (awaitedSale 0 100000)).shared.db.findWorkflow saleIds.checkoutId).map
      (fun row => (row.state, row.shiftId, row.tendersJson.bringsCash)) = some (.awaitingPayment, some 10, false) := by
    decide +kernel
  obtain ⟨row, found, fields⟩ := map_eq_some_iff.mp facts
  obtain ⟨state, bound, cashless⟩ : row.state = .awaitingPayment ∧ row.shiftId = some 10 ∧
      row.tendersJson.bringsCash = false := by simpa using fields
  refine ⟨by rw [found, map_some, state], ?_⟩
  refine closing_shift_needs_no_cash saleIds (awaitedSale 0 100000) closeTill 10 row found bound
    ⟨by decide +kernel, by decide +kernel⟩ fun _ => ⟨fun _ => cashless, fun brings => ?_, fun _ => ?_⟩
  · cases cashless.symm.trans brings
  · exact keepsTo_of_idle (by decide +kernel)

/-- A sale paid partly in cash is left waiting for a transfer, and the shift is closed. The payment is then confirmed, and
the sale cannot be finished: its cash has no drawer to go to. -/
theorem shift_closed_under_awaited_cash :
    ¬∀ ids inputs operation shiftId row,
      (checkoutAfter ids inputs).shared.db.findWorkflow ids.checkoutId = some row → row.shiftId = some shiftId →
      LeavesOpen ids (checkoutAfter ids inputs) operation shiftId →
      ¬MayNeedCash ids shiftId (checkoutAfter ids (inputs ++ [.environment (.shift operation)])) := by
  intro claimed
  have facts : ((checkoutAfter saleIds (awaitedSale 40000 60000)).shared.db.findWorkflow saleIds.checkoutId).map
      (·.shiftId) = some (some 10) := by decide +kernel
  obtain ⟨row, found, bound⟩ := map_eq_some_iff.mp facts
  apply claimed saleIds (awaitedSale 40000 60000) closeTill 10 row found bound ⟨by decide +kernel, by decide +kernel⟩
  exact mayNeedCash_of_appends (.call (.confirmCheckoutPayment 7 none (some "FT-1")) :: turns 1 5) 1 { newId := 700 }
    (by decide +kernel)

end Sales
