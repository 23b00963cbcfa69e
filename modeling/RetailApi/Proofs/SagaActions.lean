import RetailApi.Base.Confined
import RetailApi.Sales.CheckoutSystem

/-! Which actions the calls on a checkout can come to. A call reads the workflow row first; what
it performs from then on depends on the state and the tenders it has read there. -/

namespace Sales

open Process Transaction CheckoutAction ValidatedTenderSummary

def ValidatedTenderSummary.bringsCash (summary : ValidatedTenderSummary) : Bool :=
  match cashSaleDrawerAmount summary.tenders with
  | .ok amount => 0 < amount
  | .error _ => false

theorem bringsCash_confirm (summary : ValidatedTenderSummary) (reference : Option String) :
    (summary.confirm reference).bringsCash = summary.bringsCash := by
  have same : cashSaleDrawerAmount (summary.confirm reference).tenders = cashSaleDrawerAmount summary.tenders := by
    simp only [cashSaleDrawerAmount, confirm, List.foldlM_map]
  rw [bringsCash, bringsCash, same]

/-- The actions that neither end a checkout, nor begin or escalate it, nor change its tenders. -/
def CheckoutAction.isMinor : CheckoutAction → Bool
  | .createWorkflow _ | .finalizeCheckout _ | .escalateWorkflow .. => false
  | .updateWorkflowState patch => patch.tendersJson.isNone
  | _ => true

def CheckoutAction.revives : CheckoutAction → Bool
  | .createWorkflow _ | .finalizeCheckout _ | .escalateWorkflow .. => true
  | _ => false

def CheckoutAction.Cashless (ids : CheckoutIds) : CheckoutAction → Prop
  | .createWorkflow row => row.id = ids.checkoutId ∧ row.tendersJson.bringsCash = false
  | .finalizeCheckout input => input.tenderSummary.bringsCash = false
  | .updateWorkflowState patch => ∀ summary, patch.tendersJson = some summary → summary.bringsCash = false
  | _ => True

def ReadsRow (known : CheckoutWorkflow → Prop) : (action : CheckoutAction) → action.Answer → Prop
  | .findWorkflow, answer => ∃ row, answer = some row ∧ known row
  | _, _ => True

abbrev RowUses {α : Type} (known : CheckoutWorkflow → Prop) (kind : CheckoutAction → Prop) (saga : CheckoutSaga α) : Prop :=
  SagaUses (S := checkoutSignature) (ReadsRow known) kind saga

/-- The minor actions that commit no credit and leave the checkout unfinished. -/
def CheckoutAction.isCalm : CheckoutAction → Bool
  | .createWorkflow _ | .finalizeCheckout _ | .escalateWorkflow .. | .commitAuthorization _ => false
  | .updateWorkflowState patch => patch.tendersJson.isNone && !patch.state.any (·.isFinished)
  | _ => true

def Minor {α : Type} (saga : CheckoutSaga α) : Prop :=
  SagaUses (S := checkoutSignature) (fun _ _ => True) (fun action => isMinor action = true) saga

def Calm {α : Type} (saga : CheckoutSaga α) : Prop :=
  SagaUses (S := checkoutSignature) (fun _ _ => True) (fun action => isCalm action = true) saga

section Calm

variable {α : Type}

theorem Calm.pure (value : α) : Calm (pure value) := trivial

theorem Calm.throw (failure : Failure) : Calm (MonadExcept.throw failure : CheckoutSaga α) := trivial

theorem Calm.attempt {action : CheckoutAction} {read : action.Answer → Except Failure α}
    (calm : action.isCalm = true) : Calm (attempt (S := checkoutSignature) action read) := SagaUses.attempt calm

theorem Calm.remotely {action} {read : action.Answer → Except RemoteFailure α}
    (calm : action.isCalm = true) : Calm (remotely action read) := SagaUses.attempt calm

theorem Calm.bind {β : Type} {saga} {next : α → CheckoutSaga β} (first : Calm saga)
    (resume : ∀ value, Calm (next value)) : Calm (saga >>= next) := SagaUses.bind first resume

open Calm

theorem updateState_calm {patch : WorkflowPatch} (calm : (CheckoutAction.updateWorkflowState patch).isCalm = true) :
    Calm (updateState patch) := attempt calm

theorem abort_calm (ending : Ending) (lastError : String) : Calm (abort ending lastError) := attempt rfl

theorem findOrderOf_calm (wf : CheckoutWorkflow) : Calm (findOrderOf wf) := by
  unfold findOrderOf
  split
  · exact attempt rfl
  · exact pure _

theorem buildCheckoutResult_calm (wf : CheckoutWorkflow) (replayed : Bool) : Calm (buildCheckoutResultFromWorkflow wf replayed) :=
  (findOrderOf_calm wf).bind fun _ => pure _

theorem releaseLoyaltyHold_calm (quote : PersistedQuote) : Calm (releaseLoyaltyHold quote) := by
  unfold releaseLoyaltyHold
  split
  · split
    · exact Calm.pure _
    · refine Calm.bind (Calm.remotely rfl) fun answer => ?_
      split
      · exact Calm.throw _
      · exact Calm.pure _
  · exact Calm.pure _

theorem releaseCreditAuthorization_calm (quote : PersistedQuote) : Calm (releaseCreditAuthorization quote) := by
  unfold releaseCreditAuthorization
  split
  · split
    · exact Calm.pure _
    · exact Calm.bind (Calm.remotely rfl) fun _ => Calm.pure _
  · exact Calm.pure _

theorem cancelExpiredWorkflow_calm (rsvState : HoldState) (quote : PersistedQuote) :
    Calm (cancelExpiredWorkflow rsvState quote : CheckoutSaga α) := by
  refine bind (releaseLoyaltyHold_calm quote) fun _ => ?_
  refine bind (releaseCreditAuthorization_calm quote) fun _ => ?_
  exact bind (abort_calm _ _) fun _ => throw _

theorem executeLoyaltyHoldStep_calm (quote : PersistedQuote) (points : Int) : Calm (executeLoyaltyHoldStep quote points) := by
  refine Calm.bind (Calm.remotely rfl) fun answer => ?_
  split
  · exact Calm.bind (updateState_calm rfl) fun _ => Calm.pure _
  · exact Calm.bind (abort_calm _ _) fun _ => Calm.throw _
  · exact Calm.bind (updateState_calm rfl) fun _ => Calm.throw _

theorem executeCreditAuthStep_calm (quote : PersistedQuote) (amount : Int) : Calm (executeCreditAuthStep quote amount) := by
  refine Calm.bind (Calm.remotely rfl) fun answer => ?_
  split
  · exact Calm.bind (updateState_calm rfl) fun _ => Calm.pure _
  all_goals
    refine Calm.bind (releaseLoyaltyHold_calm quote) fun _ => ?_
    exact Calm.bind (abort_calm _ _) fun _ => Calm.throw _

theorem executeReserveStep_calm (warehouseId : Uuid) (quote : PersistedQuote) : Calm (executeReserveStep warehouseId quote) := by
  refine Calm.bind (Calm.remotely rfl) fun answer => ?_
  split
  · exact Calm.bind (updateState_calm rfl) fun _ => Calm.pure _
  · refine Calm.bind (releaseLoyaltyHold_calm quote) fun _ => ?_
    refine Calm.bind (releaseCreditAuthorization_calm quote) fun _ => ?_
    exact Calm.bind (abort_calm _ _) fun _ => Calm.throw _
  · refine Calm.bind (updateState_calm rfl) fun _ => ?_
    refine Calm.bind (Calm.remotely rfl) fun found => ?_
    split
    · split
      · exact Calm.bind (updateState_calm rfl) fun _ => Calm.pure _
      · exact Calm.throw _
    · exact Calm.throw _

theorem commitPending_calm (reservationId : Uuid) : Calm (commitPending reservationId : CheckoutSaga α) :=
  bind (updateState_calm rfl) fun _ => throw _

theorem commitStock_calm (alreadyCommitted : Bool) (reservationId : Uuid) (quote : PersistedQuote) :
    Calm (commitStock alreadyCommitted reservationId quote) := by
  unfold commitStock
  split
  · exact Calm.pure _
  refine Calm.bind (updateState_calm rfl) fun _ => ?_
  refine Calm.bind (Calm.remotely rfl) fun answer => ?_
  split
  · exact Calm.pure _
  refine Calm.bind (Calm.remotely rfl) fun found => ?_
  split
  · split
    · exact Calm.pure _
    · exact commitPending_calm reservationId
    · refine Calm.bind ?_ fun _ => commitPending_calm reservationId
      exact SagaUses.tryCatch (cancelExpiredWorkflow_calm _ _) fun _ => SagaUses.pure ()
  · exact commitPending_calm reservationId

theorem simulateAfterCommit_calm (reservationId : Uuid) (quote : PersistedQuote) (step : String) :
    Calm (simulateAfterCommit reservationId quote step : CheckoutSaga α) :=
  bind (updateState_calm rfl) fun _ => throw _

theorem commitLoyalty_calm (quote : PersistedQuote) : Calm (commitLoyalty quote) := by
  unfold commitLoyalty
  split
  · split
    · exact Calm.pure _
    · refine Calm.bind (Calm.remotely rfl) fun answer => ?_
      split
      · exact Calm.bind (updateState_calm rfl) fun _ => Calm.pure _
      · exact Calm.throw _
  · exact Calm.pure _

theorem commitCredit_minor (quote : PersistedQuote) : Minor (commitCredit quote) := by
  unfold commitCredit
  split
  · split
    · exact SagaUses.pure _
    · refine SagaUses.bind (SagaUses.attempt rfl) fun answer => ?_
      split
      · exact SagaUses.pure _
      · exact SagaUses.throw _
  · exact SagaUses.pure _

section

variable (wf : CheckoutWorkflow)

include wf

theorem recoverLoyaltyHold_calm (quote : PersistedQuote) :
    Calm (resumeOrReplayExistingWorkflow.recoverLoyaltyHold wf quote) := by
  unfold resumeOrReplayExistingWorkflow.recoverLoyaltyHold
  split
  · exact executeLoyaltyHoldStep_calm _ _
  · exact pure _

theorem recoverCreditAuthorization_calm (quote : PersistedQuote) :
    Calm (resumeOrReplayExistingWorkflow.recoverCreditAuthorization wf quote) := by
  unfold resumeOrReplayExistingWorkflow.recoverCreditAuthorization
  split
  · split
    · exact executeCreditAuthStep_calm _ _
    · exact pure _
  · exact pure _

theorem recoverReservation_calm (quote : PersistedQuote) :
    Calm (resumeOrReplayExistingWorkflow.recoverReservation wf quote) := by
  unfold resumeOrReplayExistingWorkflow.recoverReservation
  split
  · refine Calm.bind (Calm.remotely rfl) fun answer => ?_
    split
    · split
      · exact cancelExpiredWorkflow_calm _ _
      · refine Calm.bind (updateState_calm ?_) fun _ => Calm.pure _
        cases wf.commitConfirmed || decide (_ = HoldState.committed) <;> rfl
    · exact Calm.bind (executeReserveStep_calm _ _) fun _ => Calm.pure _
    · exact Calm.throw _
  · split
    · exact Calm.pure _
    · refine Calm.bind (Calm.remotely rfl) fun answer => ?_
      split
      · split
        · exact cancelExpiredWorkflow_calm _ _
        · exact Calm.pure _
      · exact Calm.pure _
      · exact Calm.throw _

theorem reservationOf_calm : Calm (confirmCheckoutPayment.reservationOf wf) := by
  unfold confirmCheckoutPayment.reservationOf
  split
  · exact pure _
  · exact executeReserveStep_calm _ _

theorem releaseReservation_calm : Calm (releaseReservation wf) := by
  unfold releaseReservation
  split
  · exact Calm.bind (Calm.remotely rfl) fun _ => Calm.pure _
  · exact Calm.pure _

theorem cancelWorkflow_calm (reason : Option String) : Calm (cancelWorkflow wf reason) := by
  unfold cancelWorkflow
  split
  · exact throw _
  · exact throw _
  · exact buildCheckoutResult_calm _ _
  · refine bind (releaseReservation_calm wf) fun _ => ?_
    refine bind (releaseLoyaltyHold_calm _) fun _ => ?_
    refine bind (releaseCreditAuthorization_calm _) fun _ => ?_
    refine bind (abort_calm _ _) fun _ => ?_
    refine bind (attempt rfl) fun found => ?_
    split
    · exact buildCheckoutResult_calm _ _
    · exact throw _

end

end Calm

section Calls

variable {α : Type} {known : CheckoutWorkflow → Prop} {kind : CheckoutAction → Prop}

theorem revives_of_minor (action : CheckoutAction) (minor : action.isMinor = true) : action.revives = false := by
  cases action <;> first | rfl | cases minor

theorem cashless_of_minor (ids : CheckoutIds) (action : CheckoutAction) (minor : action.isMinor = true) :
    action.Cashless ids := by
  cases action with
  | createWorkflow | finalizeCheckout => cases minor
  | updateWorkflowState patch =>
    intro summary given
    rw [isMinor, given] at minor
    cases minor
  | _ => trivial

theorem Minor.uses {saga : CheckoutSaga α} (minor : Minor saga) (wide : ∀ action : CheckoutAction, action.isMinor = true → kind action) :
    RowUses known kind saga := SagaUses.mono minor wide fun _ _ _ => trivial

theorem minor_of_calm (action : CheckoutAction) (calm : action.isCalm = true) : action.isMinor = true := by
  cases action with
  | updateWorkflowState patch => exact (Bool.and_eq_true_iff.mp calm).1
  | createWorkflow | finalizeCheckout | escalateWorkflow | commitAuthorization => cases calm
  | _ => rfl

theorem Calm.uses {saga : CheckoutSaga α} (calm : Calm saga) (wide : ∀ action : CheckoutAction, action.isMinor = true → kind action) :
    RowUses known kind saga :=
  SagaUses.mono calm (fun action calm => wide action (minor_of_calm action calm)) fun _ _ _ => trivial

theorem Calm.cashless {saga : CheckoutSaga α} {ids} (calm : Calm saga) : RowUses known (Cashless ids) saga :=
  calm.uses (cashless_of_minor ids)

theorem Minor.cashless {saga : CheckoutSaga α} {ids} (minor : Minor saga) : RowUses known (Cashless ids) saga :=
  minor.uses (cashless_of_minor ids)

theorem findWorkflow_uses {next : Option CheckoutWorkflow → CheckoutSaga α} (allowed : kind .findWorkflow)
    (resume : ∀ row, known row → RowUses known kind (next (some row))) :
    RowUses known kind (findWorkflow >>= next) := by
  refine SagaUses.attempt_bind allowed fun answer value expected same => ?_
  obtain ⟨row, rfl, isKnown⟩ := expected
  cases same
  exact resume row isKnown

theorem requireWorkflow_uses {ids scope} {next : CheckoutWorkflow → CheckoutSaga α} (allowed : kind .findWorkflow)
    (resume : ∀ row, known row → RowUses known kind (next row)) :
    RowUses known kind (requireWorkflow ids scope >>= next) := by
  rw [requireWorkflow, bind_assoc]
  refine findWorkflow_uses allowed fun row isKnown => ?_
  by_cases visible : branchAllowed scope row.branchId = true
  · rw [requireFound, if_pos visible]
    exact resume row isKnown
  · rw [requireFound, if_neg visible]
    trivial

/-! A cancelled or rejected checkout is not taken up again by a call that reads its row. -/

variable {ids : CheckoutIds} {wf : CheckoutWorkflow}

theorem resume_aborted (aborted : wf.state.isAborted = true) (actorId : Uuid) (replayed : Bool) :
    Calm (resumeOrReplayExistingWorkflow ids wf actorId replayed) := by
  unfold resumeOrReplayExistingWorkflow
  cases state : wf.state with
  | rejected | cancelled => exact Calm.throw _
  | _ =>
    rw [state] at aborted
    cases aborted

theorem call_uses (wide : ∀ action : CheckoutAction, action.isMinor = true → kind action)
    (resumes : ∀ row actorId, known row → RowUses known kind (resumeOrReplayExistingWorkflow ids row actorId true))
    (confirms : ∀ actorId scope externalRef, RowUses known kind (confirmCheckoutPayment ids actorId scope externalRef))
    (reconciles : ∀ scope, RowUses known kind (reconcilePendingCheckouts ids scope)) (call : CheckoutCall) :
    RowUses known kind (call.saga ids) := by
  cases call with
  | checkout staffId scope dto preflight =>
    refine SagaUses.map _ ?_
    unfold checkout
    split
    · refine findWorkflow_uses (wide _ rfl) fun row isKnown => ?_
      dsimp only
      split
      · split
        · exact resumes row staffId isKnown
        · exact SagaUses.throw _
      · exact SagaUses.throw _
    · exact SagaUses.throw _
  | getCheckout scope =>
    refine SagaUses.map _ (requireWorkflow_uses (wide _ rfl) fun row _ => ?_)
    exact (buildCheckoutResult_calm row false).uses wide
  | retryCheckout actorId scope =>
    exact SagaUses.map _ (requireWorkflow_uses (wide _ rfl) fun row isKnown => resumes row actorId isKnown)
  | confirmCheckoutPayment actorId scope externalRef => exact SagaUses.map _ (confirms actorId scope externalRef)
  | cancelCheckout scope reason =>
    refine SagaUses.map _ (requireWorkflow_uses (wide _ rfl) fun row _ => ?_)
    exact (cancelWorkflow_calm row reason).uses wide
  | reconcilePendingCheckouts scope => exact SagaUses.map _ (reconciles scope)

theorem call_aborted : ∀ call : CheckoutCall, RowUses (fun row => row.state.isAborted = true)
    (fun action => revives action = false) (call.saga ids) := by
  refine call_uses revives_of_minor (fun row actorId aborted => ?_) (fun actorId scope externalRef => ?_) fun scope => ?_
  · exact (resume_aborted aborted actorId true).uses revives_of_minor
  · refine requireWorkflow_uses rfl fun row aborted => ?_
    split
    · exact (buildCheckoutResult_calm row true).uses revives_of_minor
    · exact SagaUses.throw _
  · refine findWorkflow_uses rfl fun row aborted => ?_
    have settled : row.state.isStuck = false := by
      cases state : row.state <;> first | rfl | (rw [state] at aborted; cases aborted)
    dsimp only
    rw [settled, Bool.false_and]
    exact SagaUses.pure _

/-! A call that reads a row without cash among its tenders carries none. -/

theorem finalizeAndCommitCredit_cashless {input : FinalizeInput} (cashless : input.tenderSummary.bringsCash = false)
    (replayed : Bool) :
    RowUses known (Cashless ids) (finalizeAndCommitCredit input replayed) := by
  refine SagaUses.bind (SagaUses.attempt cashless) fun finalized => ?_
  exact SagaUses.bind (commitCredit_minor _).cashless fun quote => SagaUses.pure _

theorem commitAndFinalizeCheckout_cashless {input : FinalizeInput} (cashless : input.tenderSummary.bringsCash = false)
    (replayed alreadyCommitted : Bool) (simulate : SimulatedFailures) :
    RowUses known (Cashless ids) (commitAndFinalizeCheckout input replayed alreadyCommitted simulate) := by
  refine SagaUses.bind (commitStock_calm _ _ _).cashless fun _ => ?_
  refine SagaUses.bind (updateState_calm rfl).cashless fun _ => ?_
  split
  · exact (simulateAfterCommit_calm _ _ _).cashless
  refine SagaUses.bind (commitLoyalty_calm _).cashless fun quote => ?_
  split
  · exact (simulateAfterCommit_calm _ _ _).cashless
  · apply finalizeAndCommitCredit_cashless
    exact cashless

theorem resume_cashless (cashless : wf.tendersJson.bringsCash = false) (actorId : Uuid) (replayed : Bool) :
    RowUses known (Cashless ids) (resumeOrReplayExistingWorkflow ids wf actorId replayed) := by
  unfold resumeOrReplayExistingWorkflow
  split
  · exact (buildCheckoutResult_calm wf replayed).cashless
  · exact (buildCheckoutResult_calm wf replayed).cashless
  · exact (buildCheckoutResult_calm wf replayed).cashless
  · exact SagaUses.throw _
  · exact SagaUses.throw _
  · refine SagaUses.bind (recoverLoyaltyHold_calm wf _).cashless fun quote => ?_
    refine SagaUses.bind (recoverCreditAuthorization_calm wf quote).cashless fun quote => ?_
    refine SagaUses.bind (recoverReservation_calm wf quote).cashless fun recovered => ?_
    split
    · exact commitAndFinalizeCheckout_cashless cashless replayed _ {}
    · refine SagaUses.bind (updateState_calm rfl).cashless fun _ => ?_
      refine SagaUses.bind (SagaUses.attempt trivial) fun found => ?_
      split
      · exact (buildCheckoutResult_calm _ replayed).cashless
      · exact SagaUses.throw _

theorem call_cashless : ∀ call : CheckoutCall, RowUses (fun row => row.tendersJson.bringsCash = false)
    (Cashless ids) (call.saga ids) := by
  refine call_uses (cashless_of_minor ids) (fun row actorId cashless => resume_cashless cashless actorId true)
    (fun actorId scope externalRef => ?_) fun scope => ?_
  · refine requireWorkflow_uses trivial fun row cashless => ?_
    split
    · exact (buildCheckoutResult_calm row true).cashless
    split
    · exact SagaUses.throw _
    dsimp only
    split
    · exact SagaUses.throw _
    have confirmed : (row.tendersJson.confirm (confirm.given externalRef)).bringsCash = false := by
      rw [bringsCash_confirm, cashless]
    refine SagaUses.bind (SagaUses.attempt ?_) fun _ => ?_
    · intro summary given
      cases given
      exact confirmed
    refine SagaUses.bind (reservationOf_calm row).cashless fun reservationId => ?_
    apply commitAndFinalizeCheckout_cashless
    exact confirmed
  · refine findWorkflow_uses trivial fun row cashless => ?_
    dsimp only
    split
    · refine SagaUses.tryCatch ?_ fun failure => ?_
      · exact SagaUses.bind (resume_cashless cashless row.createdBy true) fun result => SagaUses.pure _
      · unfold reconcilePendingCheckouts.retryLater
        split
        · exact SagaUses.bind (SagaUses.attempt trivial) fun _ => SagaUses.pure _
        · exact SagaUses.bind (updateState_calm rfl).cashless fun _ => SagaUses.pure _
    · exact SagaUses.pure _

end Calls

end Sales
