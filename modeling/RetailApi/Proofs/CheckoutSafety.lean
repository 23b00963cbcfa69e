import RetailApi.Proofs.CheckoutRows
import RetailApi.Proofs.SagaActions

/-! Every call on a checkout is safe among any others: it keeps the rows of the checkout in order, and a result that says it is
finished names the one order there is. Under `strict` a finished checkout also has its credit committed. -/

namespace Sales

open Process Transaction Ready List CheckoutAction WorkflowPatch Calm

structure Footprint.Once (ids : CheckoutIds) (footprint : Footprint) : Prop where
  orders : footprint.orders.length ≤ 1
  named : ∀ order ∈ footprint.orders, order.id = ids.orderId
  tenders : ∃ count, footprint.tenders.map (·.idempotencyKey) =
    (range count).map fun idx => (ids.checkoutId, idx + 1)
  saleEntries : footprint.saleEntries.length ≤ 1
  completions : footprint.completions.length ≤ 1
  unsold : footprint.orders = [] → footprint.tenders = [] ∧ footprint.saleEntries = [] ∧ footprint.completions = []

def Settled (hold : Option RemoteHold) : Prop := ∃ settled, hold = some settled ∧ settled.state = .committed

structure Told (ids : CheckoutIds) (strict : Prop) (world : CheckoutWorld) (state : CheckoutWorkflowState)
    (orderId : Option Uuid) : Prop where
  named : ∀ named, orderId = some named → named = ids.orderId ∧ world.db.orders ≠ []
  finished : state.isFinished = true → orderId = some ids.orderId
  debt : strict → state.isFinished = true → Settled world.credit

structure CheckoutKept (ids : CheckoutIds) (strict : Prop) (world : CheckoutWorld) : Prop where
  single : world.db.Single ids
  once : (world.db.footprint ids).Once ids
  row : ∀ row, world.db.findWorkflow ids.checkoutId = some row → Told ids strict world row.state row.orderId

/-- What never goes back: an order stays, a committed credit stays committed. -/
structure CheckoutLater (before after : CheckoutWorld) : Prop where
  orders : before.db.orders ≠ [] → after.db.orders ≠ []
  credit : Settled before.credit → Settled after.credit

/-- The order is written by a call that knows its credit authorisation, and the credit commit finds it HELD and
reaches finance, unless the credit was committed before. -/
def debtFollows : CheckoutAction → Choice → CheckoutWorld → Bool
  | .finalizeCheckout input, _, _ => input.quote.creditAuthId.isSome && !input.quote.creditCommitted
  | .commitAuthorization authorizationId, choice, world =>
    world.credit.any (·.state = .committed) ||
      ((choice.delivery = .answered || choice.delivery = .lost) && world.credit = some ⟨authorizationId, .held⟩)
  | _, _, _ => true

def CheckoutAction.isCreditCommit : CheckoutAction → Bool
  | .commitAuthorization _ => true
  | _ => false

def checkoutDiscipline (ids : CheckoutIds) (strict : Prop) : Discipline checkoutSignature CheckoutWorld Choice where
  perform := performCheckout ids
  Holds := CheckoutKept ids strict
  Later := CheckoutLater
  Urgent action := strict ∧ isCreditCommit action = true
  Allowed action choice world := strict → debtFollows action choice world = true
  refl _ := ⟨id, id⟩
  trans first second := ⟨second.orders ∘ first.orders, second.credit ∘ first.credit⟩

section Worlds

variable {ids : CheckoutIds} {strict : Prop} {before after : CheckoutWorld}

theorem Told.later {state orderId} (told : Told ids strict before state orderId) (later : CheckoutLater before after) :
    Told ids strict after state orderId where
  named named same := ⟨(told.named named same).1, later.orders (told.named named same).2⟩
  finished := told.finished
  debt asked finished := later.credit (told.debt asked finished)

theorem CheckoutKept.start (ids : CheckoutIds) (strict : Prop) : CheckoutKept ids strict {} where
  single := rfl
  once := ⟨Nat.zero_le 1, by simp [SalesDb.footprint], ⟨0, rfl⟩, Nat.zero_le 1, Nat.zero_le 1, fun _ => ⟨rfl, rfl, rfl⟩⟩
  row _ found := by cases found

section

variable (kept : CheckoutKept ids strict before)
include kept

theorem CheckoutKept.of_remote (same : after.db = before.db)
    (credit : Settled before.credit → Settled after.credit) :
    CheckoutKept ids strict after ∧ CheckoutLater before after := by
  have later : CheckoutLater before after := ⟨fun some => by rw [same]; exact some, credit⟩
  refine ⟨⟨by rw [same]; exact kept.single, by rw [same]; exact kept.once, ?_⟩, later⟩
  intro row found
  rw [same] at found
  exact (kept.row row found).later later

theorem CheckoutKept.of_row (single : after.db.Single ids)
    (footprint : after.db.footprint ids = before.db.footprint ids) (credit : after.credit = before.credit)
    (row : ∀ row, after.db.findWorkflow ids.checkoutId = some row → Told ids strict before row.state row.orderId) :
    CheckoutKept ids strict after ∧ CheckoutLater before after := by
  have orders : after.db.orders = before.db.orders := congrArg Footprint.orders footprint
  have later : CheckoutLater before after :=
    ⟨fun some => by rw [orders]; exact some, fun settled => by rw [credit]; exact settled⟩
  refine ⟨⟨single, by rw [footprint]; exact kept.once, ?_⟩, later⟩
  intro stored found
  exact (row stored found).later later

theorem CheckoutKept.same :
    CheckoutKept ids strict before ∧ CheckoutLater before before := ⟨kept, ⟨id, id⟩⟩

end

variable {hold moved : Option RemoteHold}

theorem apply_settled {α : Type} {delivery : Delivery} {effect : Option (Option RemoteHold × α)}
    (kept : ∀ moved answer, effect = some (moved, answer) → Settled hold → Settled moved) (settled : Settled hold) :
    Settled (delivery.apply hold effect).1 := by
  cases delivery with
  | failed => exact settled
  | refused => exact settled
  | answered | lost =>
    cases effect with
    | none => exact settled
    | some outcome => exact kept outcome.1 outcome.2 rfl settled

theorem createRemote_settled {newId answer}
    (created : createRemote hold newId = some (moved, answer)) (settled : Settled hold) : Settled moved := by
  obtain ⟨existing, rfl, state⟩ := settled
  cases created
  exact ⟨existing, rfl, state⟩

theorem moveRemote_settled {move} {id answer} (stays : ∀ state, move .committed = some state → state = .committed)
    (performed : moveRemote move hold id = some (moved, answer)) (settled : Settled hold) : Settled moved := by
  obtain ⟨existing, rfl, committed⟩ := settled
  simp only [moveRemote, committed] at performed
  split at performed
  · obtain ⟨state, stepped, same⟩ := Option.map_eq_some_iff.mp performed
    cases same
    exact ⟨_, rfl, stays state stepped⟩
  · cases performed

/-- The actions of a checkout but its finalising transaction, with what they write as the calls write it. -/
def CheckoutAction.Proper (ids : CheckoutIds) : CheckoutAction → Prop
  | .createWorkflow row => row.id = ids.checkoutId ∧ row.orderId = none ∧ row.state.isFinished = false
  | .updateWorkflowState patch => ∀ state, patch.state = some state → state.isFinished = false
  | .finalizeCheckout _ => False
  | _ => True

theorem CheckoutKept.of_update (kept : CheckoutKept ids strict before) {change}
    (stored : after.db.findWorkflow ids.checkoutId = (before.db.findWorkflow ids.checkoutId).map change)
    (order : ∀ row, (change row).orderId = row.orderId)
    (unfinished : ∀ row, (change row).state.isFinished = true → row.state.isFinished = true)
    (single : after.db.Single ids) (footprint : after.db.footprint ids = before.db.footprint ids) (credit : after.credit = before.credit) :
    CheckoutKept ids strict after ∧ CheckoutLater before after := by
  refine kept.of_row single footprint credit ?_
  intro changed found
  rw [stored] at found
  obtain ⟨row, rowFound, rfl⟩ := Option.map_eq_some_iff.mp found
  have told := kept.row row rowFound
  rw [order]
  exact ⟨told.named, fun finished => told.finished (unfinished row finished),
    fun asked finished => told.debt asked (unfinished row finished)⟩

theorem performCheckout_keeps {action : CheckoutAction} (choice : Choice) (proper : action.Proper ids)
    (kept : CheckoutKept ids strict before) :
    CheckoutKept ids strict (performCheckout ids action choice before).1 ∧
      CheckoutLater before (performCheckout ids action choice before).1 := by
  cases action with
  | findWorkflow | findOrder | validateBranchAndShift | getWarehouseReservationByKey | getWarehouseReservation =>
    exact kept.same
  | createWorkflow row =>
    obtain ⟨own, unordered, unfinished⟩ := proper
    simp only [performCheckout, settle]
    cases created : createUnlessRaced ids before.db row choice with
    | error failure => exact kept.same
    | ok result =>
      obtain ⟨single, stored, footprint⟩ := createUnlessRaced_row kept.single own created
      refine kept.of_row single footprint rfl ?_
      intro other found
      rw [show SalesDb.findWorkflow _ _ = _ from stored] at found
      cases found
      rw [unordered]
      exact ⟨by simp, by simp [unfinished], by simp [unfinished]⟩
  | updateWorkflowState patch =>
    obtain ⟨single, stored⟩ := updateWorkflowState_row patch kept.single
    refine kept.of_update stored ?_ ?_ single rfl rfl
    · intro row
      unfold applyUnlessClosed
      split <;> rfl
    · intro row
      unfold applyUnlessClosed
      split
      · exact id
      · intro finished
        cases given : patch.state with
        | none => simpa [apply, given] using finished
        | some state => simp [apply, given, proper state given] at finished
  | abortWorkflow ending lastError =>
    obtain ⟨single, stored⟩ := abortWorkflow_row ending lastError kept.single
    refine kept.of_update stored (fun _ => rfl) ?_ single rfl rfl
    intro row finished
    cases ending <;> cases finished
  | escalateWorkflow retryCount reason =>
    obtain ⟨single, stored, footprint⟩ := escalateWorkflow_row retryCount reason kept.single
    refine kept.of_update stored (fun _ => rfl) ?_ single footprint rfl
    intro row finished
    cases finished
  | finalizeCheckout => exact proper.elim
  | reserveWarehouseStock | commitWarehouseReservation | releaseWarehouseReservation | createHold | commitHold
  | releaseHold => exact kept.of_remote rfl id
  | authorizeCredit =>
    refine kept.of_remote rfl (apply_settled ?_)
    intro moved answer created
    exact createRemote_settled created
  | commitAuthorization =>
    refine kept.of_remote rfl (apply_settled ?_)
    intro moved answer performed
    exact moveRemote_settled (by rintro _ ⟨⟩; rfl) performed
  | releaseAuthorization =>
    refine kept.of_remote rfl (apply_settled ?_)
    intro moved answer performed
    exact moveRemote_settled (by rintro _ ⟨⟩) performed

theorem CheckoutKept.settle (kept : CheckoutKept ids False before) (debt : strict → Settled before.credit) :
    CheckoutKept ids strict before where
  single := kept.single
  once := kept.once
  row row found := ⟨(kept.row row found).named, (kept.row row found).finished, fun asked _ => debt asked⟩

theorem tenders_keys (input : FinalizeInput) (row : CheckoutWorkflow) :
    (input.tenders row).map (·.idempotencyKey) =
      (range input.tenderSummary.tenders.length).map fun idx => (row.id, idx + 1) := by
  simp only [FinalizeInput.tenders, map_map]
  refine ext_getElem (by simp) ?_
  intro idx _ _
  simp

theorem events_completions (input : FinalizeInput) (wf : CheckoutWorkflow) (order : Order) :
    ((input.events wf order).filter (SalesEvent.isCompletionOf ids)).length ≤ 1 := by
  cases all : input.tenderSummary.allConfirmed <;> by_cases own : input.orderId = ids.orderId <;>
    simp [FinalizeInput.events, all, SalesEvent.isCompletionOf, own]

theorem Footprint.Once.found {footprint : Footprint} (once : footprint.Once ids) {db : SalesDb}
    (orders : footprint.orders = db.orders) : db.findOrder ids.orderId = none → db.orders = [] := by
  intro missing
  rw [← orders]
  refine eq_nil_iff_forall_not_mem.mpr ?_
  intro order member
  have absent := find?_eq_none.mp missing order (orders ▸ member)
  exact absent (by simpa using once.named order member)

theorem finalizeCheckout_keeps {input : FinalizeInput} {accepted : Bool} {entryId result}
    (kept : CheckoutKept ids strict before) (own : input.orderId = ids.orderId)
    (ran : finalizeCheckout ids before.db input accepted entryId = .ok result) :
    CheckoutKept ids False { before with db := result.1 } ∧ CheckoutLater before { before with db := result.1 } ∧
      result.1.orders ≠ [] := by
  have target : ∀ row, before.db.findWorkflow ids.checkoutId = some row → row.orderId.getD input.orderId = ids.orderId := by
    intro row found
    cases named : row.orderId with
    | none => exact own
    | some orderId => exact ((kept.row row found).named orderId named).1
  have weaker : CheckoutKept ids False before :=
    ⟨kept.single, kept.once, fun row found => ⟨(kept.row row found).named, (kept.row row found).finished, False.elim⟩⟩
  cases finalizeCheckout_ok kept.single ran with
  | replayed row found finished same =>
    rw [same]
    have told := kept.row row found
    exact ⟨weaker, ⟨id, id⟩, (told.named _ (told.finished finished)).2⟩
  | adopted row order found known single confirmed footprint =>
    have member : order ∈ before.db.orders := mem_of_find?_eq_some known
    have some : before.db.orders ≠ [] := ne_nil_of_mem member
    have orders : result.1.orders = before.db.orders := congrArg Footprint.orders footprint
    have both : CheckoutKept ids False { before with db := result.1 } ∧
        CheckoutLater before { before with db := result.1 } := by
      refine weaker.of_row single footprint rfl ?_
      intro other otherFound
      rw [show SalesDb.findWorkflow _ _ = _ from confirmed] at otherFound
      cases otherFound
      have named := kept.once.named order member
      exact ⟨by rintro _ ⟨⟩; exact ⟨named, some⟩, fun _ => congrArg Option.some named, False.elim⟩
    exact ⟨both.1, both.2, by rw [orders]; exact some⟩
  | created row confirmed code entries found unknown single stored state order orders tenders drawer one sale outbox =>
    rw [target row found] at unknown
    have unsold := kept.once.found rfl unknown
    obtain ⟨noTenders, noEntries, noCompletions⟩ := kept.once.unsold unsold
    have sold : result.1.orders ≠ [] := by
      rw [orders]
      simp
    have later : CheckoutLater before { before with db := result.1 } := ⟨fun _ => sold, id⟩
    refine ⟨⟨single, ⟨?_, ?_, ?_, ?_, ?_, fun none => absurd none sold⟩, ?_⟩, later, sold⟩
    · simp [SalesDb.footprint, orders, unsold]
    · intro order' member
      rw [show (SalesDb.footprint ids _).orders = _ from orders, unsold] at member
      rw [mem_singleton.mp member]
      exact own
    · refine ⟨input.tenderSummary.tenders.length, ?_⟩
      rw [show (SalesDb.footprint ids _).tenders = _ from tenders, show before.db.tenders = [] from noTenders]
      rw [nil_append, tenders_keys, findWorkflow_id found]
    · have before_ : before.db.cash.entries.filter (CashEntry.isSaleOf ids) = [] := noEntries
      simp only [SalesDb.footprint, drawer, filter_append, before_, nil_append]
      exact (length_filter_le _ _).trans one
    · obtain ⟨wf, finished, appended⟩ := outbox
      have before_ : before.db.outbox.filter (SalesEvent.isCompletionOf ids) = [] := noCompletions
      simp only [SalesDb.footprint, appended, filter_append, before_, nil_append]
      exact events_completions input wf finished
    · intro other otherFound
      rw [show SalesDb.findWorkflow _ _ = _ from stored] at otherFound
      cases otherFound
      rw [order, own]
      exact ⟨by rintro _ ⟨⟩; exact ⟨rfl, sold⟩, fun _ => rfl, False.elim⟩

end Worlds

section Programs

variable {ids : CheckoutIds} {strict : Prop} {α : Type}

theorem attempt_steady {action : CheckoutAction} {read : action.Answer → Except Failure α} (proper : action.Proper ids)
    (calm : action.isCreditCommit = false) :
    Steady (checkoutDiscipline ids strict) (attempt (S := checkoutSignature) action read) := by
  refine Steady.attempt ?_ ?_
  · rintro ⟨_, commits⟩
    cases calm.symm.trans commits
  · intro now choice kept _
    exact performCheckout_keeps choice proper kept

theorem Calm.steady {saga : CheckoutSaga α} (calm : Calm saga) : Steady (checkoutDiscipline ids strict) saga := by
  refine Steady.of_uses calm fun action calm => ⟨?_, fun now choice kept _ => performCheckout_keeps choice ?_ kept⟩
  · rintro ⟨_, commits⟩
    cases action with
    | commitAuthorization => cases calm
    | _ => cases commits
  · cases action with
    | updateWorkflowState patch =>
      intro state given
      simpa [isCalm, given] using (Bool.and_eq_true_iff.mp calm).2
    | createWorkflow | finalizeCheckout => cases calm
    | _ => trivial

variable {Post : CheckoutWorld → α → Prop} {world before after : CheckoutWorld} {wf row : CheckoutWorkflow}

theorem pending_ready {patch} {failure : Failure}
    (calm : (CheckoutAction.updateWorkflowState patch).isCalm = true) (holds : CheckoutKept ids strict world) :
    Ready (checkoutDiscipline ids strict) Post (updateState patch >>= fun _ => MonadExcept.throw failure) world :=
  (updateState_calm calm).steady.andThen holds fun _ _ kept _ => throw kept

def ResultTold (ids : CheckoutIds) (strict : Prop) (world : CheckoutWorld) (result : PosCheckoutResult) : Prop :=
  Told ids strict world result.state result.orderId

abbrev Tells (ids : CheckoutIds) (strict : Prop) (saga : CheckoutSaga PosCheckoutResult) (world : CheckoutWorld) : Prop :=
  Ready (checkoutDiscipline ids strict) (ResultTold ids strict) saga world

theorem commitAuthorization_settles (ids : CheckoutIds) {authorizationId : Uuid} {choice : Choice}
    (follows : debtFollows (.commitAuthorization authorizationId) choice world = true) :
    Settled (performCheckout ids (.commitAuthorization authorizationId) choice world).1.credit := by
  simp only [debtFollows, Bool.or_eq_true, Bool.and_eq_true, decide_eq_true_eq, Option.any_eq_true] at follows
  rcases follows with ⟨hold, known, committed⟩ | ⟨delivered, held⟩
  · refine apply_settled ?_ ⟨hold, known, committed⟩
    intro moved answer performed
    exact moveRemote_settled (by rintro _ ⟨⟩; rfl) performed
  · have moved : moveRemote HoldState.commit? world.credit authorizationId =
        some (some ⟨authorizationId, .committed⟩, ()) := by
      rw [held, moveRemote, if_pos rfl]
      rfl
    refine ⟨⟨authorizationId, .committed⟩, ?_, rfl⟩
    rcases delivered with answered | lost
    · simp [performCheckout, moved, answered, Delivery.apply]
    · simp [performCheckout, moved, lost, Delivery.apply]

theorem commitCredit_steady (lenient : ¬strict) (quote : PersistedQuote) :
    Steady (checkoutDiscipline ids strict) (commitCredit quote) := by
  unfold commitCredit
  split
  · refine .ite (fun _ => .pure _) fun _ => .bind (.attempt (fun urgent => lenient urgent.1) ?_) ?_
    · intro now choice kept _
      exact performCheckout_keeps choice trivial kept
    · intro answer
      split
      · exact .pure _
      · exact .throw _
  · exact .pure _

theorem commitCredit_safe {quote} {result : PersistedQuote → PosCheckoutResult}
    (weak : CheckoutKept ids False after) (later : CheckoutLater before after)
    (sold : after.db.orders ≠ []) (named : ∀ quote, (result quote).orderId = some ids.orderId)
    (asked : strict → (quote.creditAuthId.isSome && !quote.creditCommitted) = true) :
    SafeSaga (checkoutDiscipline ids strict) (ResultTold ids strict)
      (commitCredit quote >>= fun quote => pure (result quote)) before after := by
  have told : ∀ final, CheckoutLater after final → (strict → Settled final.credit) → ∀ quote,
      ResultTold ids strict final (result quote) := by
    intro final moved debt quote
    refine ⟨?_, fun _ => named quote, fun asks _ => debt asks⟩
    intro orderId same
    rw [named quote] at same
    cases same
    exact ⟨rfl, moved.orders sold⟩
  by_cases strictly : strict
  · obtain ⟨present, uncommitted⟩ : quote.creditAuthId.isSome = true ∧ quote.creditCommitted = false := by
      simpa using asked strictly
    obtain ⟨authorizationId, authorized⟩ := Option.isSome_iff_exists.mp present
    simp only [commitCredit, authorized, uncommitted, Bool.false_eq_true, if_false, bind_assoc]
    refine SafeSaga.urgent ⟨strictly, rfl⟩ later ?_
    intro choice allowed
    have settled := commitAuthorization_settles ids (allowed strictly)
    have proper : Proper ids (.commitAuthorization authorizationId) := trivial
    obtain ⟨stays, moved⟩ := performCheckout_keeps choice proper weak
    have kept := stays.settle fun _ : strict => settled
    have whole : CheckoutLater before _ := ⟨moved.orders ∘ later.orders, moved.credit ∘ later.credit⟩
    show SafeSaga _ _ (_ >>= _) before _
    split
    · refine ⟨kept, whole, ?_⟩
      intro final again _ value same
      cases same
      exact told final ⟨again.orders ∘ moved.orders, again.credit ∘ moved.credit⟩ (fun _ => again.credit settled) _
    · exact SafeSaga.failed kept whole
  · have kept : CheckoutKept ids strict after := weak.settle fun asks => absurd asks strictly
    refine Safe.rebase later ((commitCredit_steady strictly quote).andThen kept ?_)
    intro committed now holds moved
    refine pure holds ?_
    intro final again _
    exact told final ⟨again.orders ∘ moved.orders, again.credit ∘ moved.credit⟩ (fun asks => absurd asks strictly) committed

theorem finalizeAndCommitCredit_ready (input : FinalizeInput) (replayed : Bool) (own : input.orderId = ids.orderId)
    (holds : CheckoutKept ids strict world) :
    Tells ids strict (finalizeAndCommitCredit input replayed) world := by
  refine attempt_bind (fun urgent => by cases urgent.2) holds ?_
  intro now choice _ kept allowed
  cases ran : finalizeCheckout ids now.db input choice.couponAccepted choice.newId with
  | error failure =>
    simp only [checkoutDiscipline, performCheckout, settle, ran]
    exact kept.same
  | ok result =>
    obtain ⟨weak, later, sold⟩ := finalizeCheckout_keeps kept own ran
    have performed : (checkoutDiscipline ids strict).perform (.finalizeCheckout input) choice now =
        ({ now with db := result.1 }, .ok result.2) := by
      simp only [checkoutDiscipline, performCheckout, settle, ran]
      rfl
    rw [performed]
    exact commitCredit_safe weak later sold (fun _ => congrArg some own) allowed

theorem commitAndFinalizeCheckout_ready (input : FinalizeInput) (replayed alreadyCommitted : Bool)
    (simulate : SimulatedFailures) (own : input.orderId = ids.orderId) (holds : CheckoutKept ids strict world) :
    Tells ids strict (commitAndFinalizeCheckout input replayed alreadyCommitted simulate) world := by
  refine (commitStock_calm _ _ _).steady.andThen holds fun _ now kept _ => ?_
  refine (updateState_calm rfl).steady.andThen kept fun _ now kept _ => ?_
  split
  · exact pending_ready rfl kept
  · refine (commitLoyalty_calm _).steady.andThen kept fun quote now kept _ => ?_
    split
    · exact pending_ready rfl kept
    · exact finalizeAndCommitCredit_ready { input with quote } replayed own kept

theorem findWorkflow_ready (holds : CheckoutKept ids strict world) :
    Ready (checkoutDiscipline ids strict) (fun now found => ∀ row, found = some row →
      Told ids strict now row.state row.orderId) findWorkflow world := by
  refine attempt (fun urgent => by cases urgent.2) holds ?_
  intro now choice _ kept _
  refine ⟨kept, ⟨id, id⟩, ?_⟩
  intro final found later _ same row rowFound
  cases same
  exact (kept.row row rowFound).later later

theorem buildCheckoutResultFromWorkflow_ready (replayed : Bool)
    (holds : CheckoutKept ids strict world) (told : Told ids strict world wf.state wf.orderId) :
    Tells ids strict (buildCheckoutResultFromWorkflow wf replayed) world := by
  refine (findOrderOf_calm wf).steady.andThen holds fun order now kept later => ?_
  exact pure kept fun final again _ => (told.later later).later again

theorem Told.target {state orderId} (told : Told ids strict world state orderId) : orderId.getD ids.orderId = ids.orderId := by
  cases orderId with
  | none => rfl
  | some orderId => exact (told.named orderId rfl).1

theorem findAndBuild_ready (replayed : Bool) (failure : Failure) (holds : CheckoutKept ids strict world) :
    Tells ids strict (do match ← findWorkflow with
      | some updated => buildCheckoutResultFromWorkflow updated replayed
      | none => throw failure) world := by
  refine (findWorkflow_ready holds).bind fun found now kept _ told => ?_
  cases found with
  | some updated => exact buildCheckoutResultFromWorkflow_ready replayed kept (told updated rfl)
  | none => exact throw kept

theorem resumeOrReplayExistingWorkflow_ready (actorId : Uuid) (replayed : Bool) (holds : CheckoutKept ids strict world)
    (told : Told ids strict world wf.state wf.orderId) : Tells ids strict (resumeOrReplayExistingWorkflow ids wf actorId replayed) world := by
  unfold resumeOrReplayExistingWorkflow
  split
  · exact buildCheckoutResultFromWorkflow_ready replayed holds told
  · exact buildCheckoutResultFromWorkflow_ready replayed holds told
  · exact buildCheckoutResultFromWorkflow_ready replayed holds told
  · exact throw holds
  · exact throw holds
  · refine (recoverLoyaltyHold_calm _ _).steady.andThen holds fun quote now kept _ => ?_
    refine (recoverCreditAuthorization_calm _ _).steady.andThen kept fun quote now kept _ => ?_
    refine (recoverReservation_calm _ _).steady.andThen kept fun recovered now kept _ => ?_
    split
    · exact commitAndFinalizeCheckout_ready _ _ _ _ told.target kept
    · refine (updateState_calm rfl).steady.andThen kept fun _ now kept _ => ?_
      exact findAndBuild_ready replayed _ kept

theorem holdLoyalty_calm (row : CheckoutWorkflow) (simulate : SimulatedFailures) : Calm (holdLoyalty row simulate) := by
  unfold holdLoyalty
  split
  · refine (executeLoyaltyHoldStep_calm _ _).bind fun held => ?_
    split
    · exact (updateState_calm rfl).bind fun _ => throw _
    · exact pure _
  · exact pure _

theorem authorizeCredit_calm (row : CheckoutWorkflow) (quote : PersistedQuote) (simulate : SimulatedFailures) :
    Calm (authorizeCredit row quote simulate) := by
  unfold authorizeCredit
  split
  · split
    · refine (executeCreditAuthStep_calm _ _).bind fun authorized => ?_
      split
      · exact (updateState_calm rfl).bind fun _ => throw _
      · exact pure _
    · exact pure _
  · exact pure _

theorem runCheckout_ready (row : CheckoutWorkflow) (staffId : Uuid) (simulate : SimulatedFailures)
    (holds : CheckoutKept ids strict world) :
    Tells ids strict (runCheckout ids row staffId simulate) world := by
  refine (holdLoyalty_calm _ _).steady.andThen holds fun quote now kept _ => ?_
  refine (authorizeCredit_calm _ _ _).steady.andThen kept fun quote now kept _ => ?_
  refine (executeReserveStep_calm _ _).steady.andThen kept fun reservationId now kept _ => ?_
  split
  · exact pending_ready rfl kept
  split
  · exact commitAndFinalizeCheckout_ready _ _ _ _ rfl kept
  · refine (updateState_calm rfl).steady.andThen kept fun _ now kept _ => ?_
    refine pure kept fun _ _ _ => ⟨by rintro _ ⟨⟩, fun finished => ?_, fun _ finished => ?_⟩
    · cases finished
    · cases finished

theorem prepareWorkflow_ok {staffId dto preflight} (prepared : prepareWorkflow ids staffId dto preflight = .ok row) :
    row.id = ids.checkoutId ∧ row.orderId = none ∧ row.state = .reservingStock := by
  simp only [prepareWorkflow, eq_ok] at prepared
  obtain ⟨_, _, _, _, _, _, _, _, _, _, rfl⟩ := prepared
  exact ⟨rfl, rfl, rfl⟩

theorem createAndRun_ready (staffId : Uuid) (dto : PosCheckoutDto)
    (holds : CheckoutKept ids strict world) (proper : Proper ids (.createWorkflow row)) :
    Tells ids strict (createAndRun ids row staffId dto) world := by
  refine (attempt_steady proper rfl).andThen holds fun answer now kept _ => ?_
  split
  · exact runCheckout_ready row staffId _ kept
  · refine (findWorkflow_ready kept).bind fun found now kept _ told => ?_
    cases found with
    | some raced =>
      dsimp only
      split
      · exact resumeOrReplayExistingWorkflow_ready _ _ kept (told raced rfl)
      · exact throw kept
    | none => exact throw kept
  · exact throw kept

theorem checkout_ready (staffId : Uuid) (scope : BranchScope) (dto : PosCheckoutDto) (preflight : Preflight)
    (holds : CheckoutKept ids strict world) : Tells ids strict (checkout ids staffId scope dto preflight) world := by
  unfold checkout
  split
  · refine (findWorkflow_ready holds).bind fun found now kept _ told => ?_
    cases found with
    | some existing =>
      dsimp only
      split
      · split
        · exact resumeOrReplayExistingWorkflow_ready _ _ kept (told existing rfl)
        · exact throw kept
      · exact throw kept
    | none =>
      have validated : Steady (checkoutDiscipline ids strict) (attempt (S := checkoutSignature)
        (.validateBranchAndShift dto.branchId dto.shiftId) id) := attempt_steady trivial rfl
      refine validated.andThen kept fun _ now kept _ => ?_
      cases prepared : prepareWorkflow ids staffId dto preflight with
      | error failure => exact throw kept
      | ok row =>
        obtain ⟨own, unordered, state⟩ := prepareWorkflow_ok prepared
        exact createAndRun_ready staffId dto kept ⟨own, unordered, by rw [state]; rfl⟩
  · exact throw holds

theorem requireWorkflow_ready (scope : BranchScope) (holds : CheckoutKept ids strict world) :
    Ready (checkoutDiscipline ids strict) (fun now row => Told ids strict now row.state row.orderId)
      (requireWorkflow ids scope) world := by
  refine (findWorkflow_ready holds).bind fun found now kept _ told => ?_
  cases found with
  | some row =>
    simp only [requireFound]
    split
    · exact pure kept fun _ later _ => (told row rfl).later later
    · exact throw kept
  | none => exact throw kept

theorem getCheckout_ready (scope : BranchScope) (holds : CheckoutKept ids strict world) :
    Tells ids strict (getCheckout ids scope) world :=
  (requireWorkflow_ready scope holds).bind fun _ _ kept _ told => buildCheckoutResultFromWorkflow_ready _ kept told

theorem retryCheckout_ready (actorId : Uuid) (scope : BranchScope) (holds : CheckoutKept ids strict world) :
    Tells ids strict (retryCheckout ids actorId scope) world :=
  (requireWorkflow_ready scope holds).bind fun _ _ kept _ told => resumeOrReplayExistingWorkflow_ready _ _ kept told

theorem confirmCheckoutPayment_ready (actorId : Uuid) (scope : BranchScope) (externalRef : Option String)
    (holds : CheckoutKept ids strict world) : Tells ids strict (confirmCheckoutPayment ids actorId scope externalRef) world := by
  refine (requireWorkflow_ready scope holds).bind fun wf now kept _ told => ?_
  split
  · exact buildCheckoutResultFromWorkflow_ready _ kept told
  split
  · exact throw kept
  dsimp only
  split
  · exact throw kept
  · refine Steady.andThen (attempt_steady (by rintro _ ⟨⟩) rfl) kept fun _ now kept _ => ?_
    refine (reservationOf_calm wf).steady.andThen kept fun reservationId now kept _ => ?_
    exact commitAndFinalizeCheckout_ready _ _ _ _ told.target kept

theorem cancelCheckout_ready (scope : BranchScope) (reason : Option String) (holds : CheckoutKept ids strict world) :
    Tells ids strict (cancelCheckout ids scope reason) world := by
  refine (requireWorkflow_ready scope holds).bind fun wf now kept _ told => ?_
  unfold cancelWorkflow
  split
  · exact throw kept
  · exact throw kept
  · exact buildCheckoutResultFromWorkflow_ready _ kept told
  · refine (releaseReservation_calm wf).steady.andThen kept fun _ now kept _ => ?_
    refine (releaseLoyaltyHold_calm _).steady.andThen kept fun _ now kept _ => ?_
    refine (releaseCreditAuthorization_calm _).steady.andThen kept fun _ now kept _ => ?_
    refine (abort_calm _ _).steady.andThen kept fun _ now kept _ => ?_
    exact findAndBuild_ready false _ kept

def ReconciledTold (strict : Prop) (world : CheckoutWorld) (outcome : Reconciled) : Prop :=
  outcome = .finalized → world.db.orders ≠ [] ∧ (strict → Settled world.credit)

theorem ReconciledTold.later {outcome}
    (told : ReconciledTold strict before outcome) (later : CheckoutLater before after) : ReconciledTold strict after outcome := by
  intro finalized
  obtain ⟨sold, debt⟩ := told finalized
  exact ⟨later.orders sold, fun asked => later.credit (debt asked)⟩

theorem reconcilePendingCheckouts_ready (scope : BranchScope) (holds : CheckoutKept ids strict world) :
    Ready (checkoutDiscipline ids strict) (ReconciledTold strict) (reconcilePendingCheckouts ids scope) world := by
  refine (findWorkflow_ready holds).bind fun found now kept _ told => ?_
  cases found with
  | none => exact pure kept fun _ _ _ finalized => by cases finalized
  | some wf =>
    dsimp only
    split
    · refine tryCatch ?_ ?_ fun _ _ _ later _ told => told.later later
      · refine (resumeOrReplayExistingWorkflow_ready _ _ kept (told wf rfl)).bind fun result now kept _ told => ?_
        refine pure kept fun final later _ finalized => ?_
        have finished : result.state.isFinished = true := by
          by_contra unfinished
          rw [if_neg unfinished] at finalized
          split at finalized <;> cases finalized
        have still := told.later later
        exact ⟨(still.named _ (still.finished finished)).2, fun asked => still.debt asked finished⟩
      · intro failure now kept _
        unfold reconcilePendingCheckouts.retryLater
        split
        · have escalated : Steady (checkoutDiscipline ids strict) (attempt (S := checkoutSignature)
              (.escalateWorkflow (wf.retryCount + 1) (reconcilePendingCheckouts.message failure)) .ok) :=
            attempt_steady trivial rfl
          refine escalated.andThen kept fun _ _ kept _ => ?_
          exact pure kept fun _ _ _ finalized => by cases finalized
        · refine (updateState_calm rfl).steady.andThen kept fun _ _ kept _ => ?_
          exact pure kept fun _ _ _ finalized => by cases finalized
    · exact pure kept fun _ _ _ finalized => by cases finalized

end Programs

end Sales
