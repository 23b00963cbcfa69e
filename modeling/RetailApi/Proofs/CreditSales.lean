import RetailApi.Proofs.CheckoutOnce

/-! A sale on credit and its debt. The order is written before the credit is committed, and a
finished checkout is never taken up again: the debt is only sure where nothing can come
between the two. -/

namespace Sales

open Process Transaction

def CheckoutPool.posting (pool : CheckoutPool) : List Nat :=
  (List.range pool.threads.length).filter fun thread => (pool.pending thread).any CheckoutAction.isCreditCommit

/-- A step under which the debt follows the order: a call that is about to commit the credit goes first, the order
is written by a call that knows its authorisation, and the commit reaches finance. -/
def debtFollowed (pool : CheckoutPool) (input : CheckoutInput) : Bool :=
  (pool.posting.all fun thread => input.yieldsTo thread) &&
  match input with
  | .advance thread choice => (pool.pending thread).all fun action => debtFollows action choice pool.shared
  | _ => true

theorem debtFollowed_obeys (ids : CheckoutIds) {pool input}
    (followed : debtFollowed pool input = true) : Obeys (checkoutDiscipline ids True) pool input := by
  obtain ⟨yields, performed⟩ := Bool.and_eq_true_iff.mp followed
  refine ⟨?_, ?_⟩
  · intro thread action pending urgent
    refine List.all_eq_true.mp yields thread (List.mem_filter.mpr ⟨?_, ?_⟩)
    · obtain ⟨program, running, _⟩ := Option.bind_eq_some_iff.mp pending
      exact List.mem_range.mpr (running_inside running)
    · rw [pending]
      exact urgent.2
  · rintro thread choice action rfl pending _
    dsimp only at performed
    rw [pending] at performed
    exact performed

/-- In every run in which the debt follows each order, no call says the sale is done, and no reconciliation counts
it as finalised, before the credit is committed. -/
theorem credit_sale_has_its_debt (ids : CheckoutIds) (inputs : List CheckoutInput)
    (followed : Run.Meets (checkoutMachine ids).step (fun pool input => debtFollowed pool input = true)
      { shared := {} } inputs) :
    let pool := checkoutAfter ids inputs
    (∀ thread result, pool.returned thread = some result → result.state.isFinished = true →
      Settled pool.shared.credit) ∧
    (∀ thread, pool.reconciled thread = some .finalized → Settled pool.shared.credit) := by
  have obeyed := followed.imp fun _ _ step => debtFollowed_obeys ids step
  have kept := checkoutAfter_kept inputs obeyed
  refine ⟨?_, ?_⟩
  · intro thread result returned finished
    exact (returned_told kept returned).debt trivial finished
  · intro thread reconciled
    exact (reconciled_told kept reconciled rfl).2 trivial

def creditSale : List CheckoutInput := openTill ++ [.call (cartSale [{ method := .onAccount, amount := 100000 }])]

theorem credit_sale_has_its_debt_undisturbed :
    ((checkoutAfter saleIds (creditSale ++ turns 0 12)).returned 0).map (·.state) = some .confirmed ∧
      Settled (checkoutAfter saleIds (creditSale ++ turns 0 12)).shared.credit := by
  have confirmed : ((checkoutAfter saleIds (creditSale ++ turns 0 12)).returned 0).map (·.state) =
      some .confirmed := by decide +kernel
  obtain ⟨result, returned, state⟩ := Option.map_eq_some_iff.mp confirmed
  refine ⟨confirmed, ?_⟩
  exact (credit_sale_has_its_debt saleIds (creditSale ++ turns 0 12) (by decide +kernel)).1 0 result returned
    (by rw [state]; rfl)

/-- Finance does not get the commit of an order that is already written; a retry finds the checkout finished, and
leaves the credit as it is. -/
theorem confirmed_sale_without_debt :
    ¬∀ ids inputs thread result row, (checkoutAfter ids inputs).returned thread = some result →
      result.state.isFinished = true → (checkoutAfter ids inputs).shared.db.findWorkflow ids.checkoutId = some row →
      row.quoteJson.creditAmount ≠ none →
      Settled (checkoutAfter ids inputs).shared.credit ∨ (row.state.isFinished || row.state.isAborted) = false := by
  intro claimed
  let inputs := creditSale ++ turns 0 11 ++ .advance 0 { delivery := .failed } :: .call (.retryCheckout 7 none) :: turns 1 2
  have confirmed : ((checkoutAfter saleIds inputs).returned 1).map (·.state) = some .confirmed := by decide +kernel
  have stored : ((checkoutAfter saleIds inputs).shared.db.findWorkflow saleIds.checkoutId).map
      (fun row => (row.state, row.quoteJson.creditAmount)) = some (.confirmed, some 100000) := by decide +kernel
  have held : (checkoutAfter saleIds inputs).shared.credit = some ⟨300, .held⟩ := by decide +kernel
  obtain ⟨result, returned, state⟩ := Option.map_eq_some_iff.mp confirmed
  obtain ⟨row, found, fields⟩ := Option.map_eq_some_iff.mp stored
  obtain ⟨rowState, amount⟩ := Prod.mk.inj fields
  rcases claimed saleIds inputs 1 result row returned (by rw [state]; rfl) found (by simp [amount]) with settled | open_
  · obtain ⟨hold, known, committed⟩ := settled
    rw [held] at known
    cases known
    cases committed
  · rw [rowState] at open_
    cases open_

end Sales
