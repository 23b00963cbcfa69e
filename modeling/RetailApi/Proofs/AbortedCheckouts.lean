import RetailApi.Proofs.CheckoutOnce

/-! The end of a checkout without an order. The patches of the saga leave a cancelled or
rejected workflow alone; the other transactions on its row do not look at its state. -/

namespace Sales

open Process Transaction CheckoutAction

/-- The transactions that give a row another state whatever state it is in. -/
def CheckoutAction.overwrites (state : CheckoutWorkflowState) (choice : Choice) : CheckoutAction → Bool
  | .createWorkflow _ => !choice.raced
  | .finalizeCheckout _ | .escalateWorkflow .. => true
  | .abortWorkflow ending _ => ending.state ≠ state
  | _ => false

/-- A step that is not one of these transactions on a cancelled or rejected row. -/
def endingKept (ids : CheckoutIds) (pool : CheckoutPool) : CheckoutInput → Bool
  | .advance thread choice =>
    match pool.shared.db.findWorkflow ids.checkoutId, pool.pending thread with
    | some row, some action => !(row.state.isAborted && overwrites row.state choice action)
    | _, _ => true
  | _ => true

/-- The checkout has ended in a state, with what it had left behind by then. -/
structure Ended (ids : CheckoutIds) (state : CheckoutWorkflowState) (footprint : Footprint) (db : SalesDb) : Prop where
  single : db.Single ids
  row : ∃ row, db.findWorkflow ids.checkoutId = some row ∧ row.state = state
  footprint : db.footprint ids = footprint

section Steps

variable {ids : CheckoutIds} {state : CheckoutWorkflowState} {footprint : Footprint} {db after : SalesDb}

theorem Ended.of_update (ended : Ended ids state footprint db) {change}
    (single : after.Single ids)
    (stored : after.findWorkflow ids.checkoutId = (db.findWorkflow ids.checkoutId).map change)
    (same : ∀ row, row.state = state → (change row).state = state)
    (left : after.footprint ids = db.footprint ids) : Ended ids state footprint after := by
  obtain ⟨row, found, rowState⟩ := ended.row
  refine ⟨single, ⟨change row, by rw [stored, found]; rfl, same row rowState⟩, left.trans ended.footprint⟩

theorem performCheckout_ended {world} {action} {choice}
    (aborted : state.isAborted = true) (ended : Ended ids state footprint world.db)
    (respects : action.overwrites state choice = false) :
    Ended ids state footprint (performCheckout ids action choice world).1.db := by
  cases action with
  | createWorkflow row =>
    have raced : choice.raced = true := by simpa [overwrites] using respects
    obtain ⟨stored, found, _⟩ := ended.row
    simp only [performCheckout, settle, createUnlessRaced, raced, found, Option.isSome_some, and_self, if_true]
    exact ended
  | updateWorkflowState patch =>
    obtain ⟨single, stored⟩ := updateWorkflowState_row patch ended.single
    refine ended.of_update single stored ?_ rfl
    intro row rowState
    rw [WorkflowPatch.applyUnlessClosed, rowState, aborted, Bool.or_true, if_pos rfl, rowState]
  | abortWorkflow ending lastError =>
    obtain ⟨single, stored⟩ := abortWorkflow_row ending lastError ended.single
    refine ended.of_update single stored ?_ rfl
    intro row _
    show ending.state = state
    simpa [overwrites] using respects
  | escalateWorkflow | finalizeCheckout => cases respects
  | _ => exact ended

theorem checkoutStep_ended {pool input} (aborted : state.isAborted = true)
    (kept : endingKept ids pool input = true) (ended : Ended ids state footprint pool.shared.db) :
    Ended ids state footprint ((checkoutMachine ids).step pool input).shared.db := by
  refine step_shared (fun world : CheckoutWorld => Ended ids state footprint world.db) ended ?_ ?_
  · rintro thread choice action rfl pending
    refine performCheckout_ended aborted ended ?_
    obtain ⟨row, found, rowState⟩ := ended.row
    simpa [endingKept, found, pending, rowState, aborted] using kept
  · rintro event rfl
    obtain ⟨workflows, left⟩ := surroundCheckout_rows ids pool.shared event
    obtain ⟨single, found⟩ := ended.single.congr workflows
    obtain ⟨row, stored, rowState⟩ := ended.row
    exact ⟨single, ⟨row, found.trans stored, rowState⟩, left.trans ended.footprint⟩

end Steps

/-- From a cancelled or rejected checkout on, as long as none of these transactions is performed on its row, the
row keeps its state and nothing more is left behind. -/
theorem aborted_checkout_stays (ids : CheckoutIds) (earlier during : List CheckoutInput) (row : CheckoutWorkflow)
    (found : (checkoutAfter ids earlier).shared.db.findWorkflow ids.checkoutId = some row)
    (aborted : row.state.isAborted = true)
    (kept : Run.Meets (checkoutMachine ids).step (fun pool input => endingKept ids pool input = true)
      (checkoutAfter ids earlier) during) :
    let before := (checkoutAfter ids earlier).shared.db
    let after := (checkoutAfter ids (earlier ++ during)).shared.db
    (∃ last, after.findWorkflow ids.checkoutId = some last ∧ last.state = row.state) ∧
      after.footprint ids = before.footprint ids := by
  have holds := checkoutAfter_holds ids earlier
  have start : Ended ids row.state ((checkoutAfter ids earlier).shared.db.footprint ids)
      (checkoutAfter ids earlier).shared.db := ⟨holds.single, ⟨row, found, rfl⟩, rfl⟩
  have ended := Run.invariant_of_meets (fun pool : CheckoutPool => Ended ids row.state _ pool.shared.db)
    (fun pool input step => checkoutStep_ended aborted step) kept start
  rw [checkoutAfter_append]
  exact ⟨ended.row, ended.footprint⟩

def cashSale : List CheckoutInput :=
  openTill ++ [.call (cartSale [{ method := .cash, amount := 100000, tenderedCash := some 100000 }])]

/-- The sale is cancelled by call 1 with its goods reserved, and call 2 retries it. -/
theorem aborted_checkout_stays_after_retry :
    ((checkoutAfter saleIds (cashSale ++ turns 0 5 ++ .call (.cancelCheckout none none) :: turns 1 4 ++
      .call (.retryCheckout 7 none) :: turns 2 1)).shared.db.findWorkflow saleIds.checkoutId).map (·.state) =
      some .cancelled := by
  have cancelled : ((checkoutAfter saleIds (cashSale ++ turns 0 5 ++ .call (.cancelCheckout none none) ::
      turns 1 4)).shared.db.findWorkflow saleIds.checkoutId).map (·.state) = some .cancelled := by decide +kernel
  obtain ⟨row, found, state⟩ := Option.map_eq_some_iff.mp cancelled
  obtain ⟨⟨last, stored, same⟩, _⟩ := aborted_checkout_stays saleIds _ (.call (.retryCheckout 7 none) :: turns 2 1)
    row found (by rw [state]; rfl) (by decide +kernel)
  exact Option.map_eq_some_iff.mpr ⟨last, stored, same.trans state⟩

/-- The cancellation comes between the stock commit and the finalising transaction, which confirms the sale and
writes the order all the same. -/
theorem cancelled_checkout_confirmed :
    ¬∀ ids earlier during row, (checkoutAfter ids earlier).shared.db.findWorkflow ids.checkoutId = some row →
      row.state.isAborted = true →
      (∃ last, (checkoutAfter ids (earlier ++ during)).shared.db.findWorkflow ids.checkoutId = some last ∧
        last.state = row.state) ∧
      (checkoutAfter ids (earlier ++ during)).shared.db.footprint ids =
        (checkoutAfter ids earlier).shared.db.footprint ids := by
  intro claimed
  let earlier := cashSale ++ turns 0 8 ++ .call (.cancelCheckout none none) :: turns 1 4
  have cancelled : ((checkoutAfter saleIds earlier).shared.db.findWorkflow saleIds.checkoutId).map (·.state) =
      some .cancelled := by decide +kernel
  have confirmed : ((checkoutAfter saleIds (earlier ++ turns 0 1)).shared.db.findWorkflow saleIds.checkoutId).map
      (·.state) = some .confirmed := by decide +kernel
  obtain ⟨row, found, state⟩ := Option.map_eq_some_iff.mp cancelled
  obtain ⟨⟨last, stored, same⟩, _⟩ := claimed saleIds earlier (turns 0 1) row found (by rw [state]; rfl)
  rw [stored, Option.map_some, same, state] at confirmed
  cases confirmed

end Sales
