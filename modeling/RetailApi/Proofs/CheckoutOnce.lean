import RetailApi.Proofs.CheckoutSafety

/-! A checkout happens at most once, however its calls are interleaved, repeated, crashed or
answered late. -/

namespace Sales

open Process Transaction

section Calls

variable {ids : CheckoutIds} {strict : Prop}

theorem expire_settled {hold} (settled : Settled hold) :
    Settled (hold.map fun hold => { hold with state := hold.state.expire }) := by
  obtain ⟨existing, rfl, committed⟩ := settled
  exact ⟨{ existing with state := existing.state.expire }, rfl, by rw [committed]; rfl⟩

theorem surroundCheckout_keeps (world : CheckoutWorld) (event : CheckoutEvent) (kept : CheckoutKept ids strict world) :
    CheckoutKept ids strict (surroundCheckout ids world event) ∧
      CheckoutLater world (surroundCheckout ids world event) := by
  obtain ⟨workflows, footprint⟩ := surroundCheckout_rows ids world event
  obtain ⟨single, found⟩ := kept.single.congr workflows
  have orders : (surroundCheckout ids world event).db.orders = world.db.orders := congrArg Footprint.orders footprint
  have credit : Settled world.credit → Settled (surroundCheckout ids world event).credit := by
    cases event with
    | expireReservation | expireLoyaltyHold => exact id
    | expireCreditAuthorization => exact expire_settled
    | shift operation =>
      simp only [surroundCheckout]
      split <;> exact id
  have later : CheckoutLater world (surroundCheckout ids world event) := ⟨fun some => by rw [orders]; exact some, credit⟩
  refine ⟨⟨single, by rw [footprint]; exact kept.once, ?_⟩, later⟩
  intro row rowFound
  rw [found] at rowFound
  exact (kept.row row rowFound).later later

def ReplyTold (ids : CheckoutIds) (strict : Prop) (world : CheckoutWorld) : CheckoutReply → Prop
  | .checkout result => ResultTold ids strict world result
  | .reconciled outcome => ReconciledTold strict world outcome

theorem ReplyTold.later {before after reply} (told : ReplyTold ids strict before reply)
    (later : CheckoutLater before after) : ReplyTold ids strict after reply := by
  cases reply with
  | checkout result => exact Told.later told later
  | reconciled outcome => exact ReconciledTold.later told later

theorem reply_ready {α : Type} {Post} {saga : CheckoutSaga α} {reply}
    {world : CheckoutWorld} (ready : Ready (checkoutDiscipline ids strict) Post saga world)
    (told : ∀ world value, Post world value → ReplyTold ids strict world (reply value)) :
    Ready (checkoutDiscipline ids strict) (ReplyTold ids strict) (reply <$> saga) world := by
  rw [map_eq_pure_bind]
  refine ready.bind fun value now kept _ ended => ?_
  exact Ready.pure kept fun _ later _ => (told now value ended).later later

theorem call_ready (call : CheckoutCall) {world : CheckoutWorld} (holds : CheckoutKept ids strict world) :
    Ready (checkoutDiscipline ids strict) (ReplyTold ids strict) (call.saga ids) world := by
  cases call with
  | checkout => exact reply_ready (checkout_ready _ _ _ _ holds) fun _ _ => id
  | getCheckout => exact reply_ready (getCheckout_ready _ holds) fun _ _ => id
  | retryCheckout => exact reply_ready (retryCheckout_ready _ _ holds) fun _ _ => id
  | confirmCheckoutPayment => exact reply_ready (confirmCheckoutPayment_ready _ _ _ holds) fun _ _ => id
  | cancelCheckout => exact reply_ready (cancelCheckout_ready _ _ holds) fun _ _ => id
  | reconcilePendingCheckouts => exact reply_ready (reconcilePendingCheckouts_ready _ holds) fun _ _ => id

theorem call_calm (call : CheckoutCall) : ¬(call.saga ids).run.Pressing (checkoutDiscipline ids strict) := by
  rintro ⟨action, acts, _, commits⟩
  have first : action = .findWorkflow := by
    cases call with
    | checkout staffId scope dto preflight =>
      cases allowed : branchAllowed scope dto.branchId with
      | true =>
        simp only [CheckoutCall.saga, checkout, allowed, if_true] at acts
        exact (Option.some.inj acts).symm
      | false =>
        simp only [CheckoutCall.saga, checkout, allowed, Bool.false_eq_true, if_false] at acts
        cases acts
    | _ => exact (Option.some.inj acts).symm
  rw [first] at commits
  cases commits

def CheckoutTold (ids : CheckoutIds) (strict : Prop) (_thread : Nat) (world : CheckoutWorld)
    (result : Except Failure CheckoutReply) : Prop := ∀ reply, result = .ok reply → ReplyTold ids strict world reply

theorem checkoutAfter_kept (inputs : List CheckoutInput)
    (obeyed : Run.Meets (checkoutMachine ids).step (Obeys (checkoutDiscipline ids strict)) { shared := {} } inputs) :
    Kept (checkoutDiscipline ids strict) (CheckoutTold ids strict) (checkoutAfter ids inputs) := by
  refine Run.invariant_of_meets (Kept (checkoutDiscipline ids strict) (CheckoutTold ids strict)) ?_ obeyed ?_
  · intro pool input obeys kept
    refine kept.step rfl surroundCheckout_keeps ?_ obeys
    intro call _ world holds
    exact ⟨call_calm call, call_ready call holds⟩
  · refine .quiet (CheckoutKept.start ids strict) ?_
    intro thread program running
    cases running

theorem checkoutAfter_append (ids : CheckoutIds) (first second : List CheckoutInput) :
    checkoutAfter ids (first ++ second) = Run.after (checkoutMachine ids).step (checkoutAfter ids first) second :=
  Run.after_append _ _ _

theorem checkoutAfter_call (ids : CheckoutIds) (inputs : List CheckoutInput) (call : CheckoutCall) :
    (checkoutAfter ids (inputs ++ [.call call])).running (checkoutAfter ids inputs).threads.length =
      some (call.saga ids).run := by
  rw [checkoutAfter_append]
  exact (running_call call _).trans (if_pos rfl)

theorem obeys_leniently (ids : CheckoutIds) (inputs : List CheckoutInput) (pool : CheckoutPool) :
    Run.Meets (checkoutMachine ids).step (Obeys (checkoutDiscipline ids False)) pool inputs := by
  induction inputs generalizing pool with
  | nil => trivial
  | cons input inputs inner =>
    exact ⟨⟨fun _ _ _ urgent => urgent.1.elim, fun _ _ _ _ _ asked => asked.elim⟩, inner _⟩

theorem checkoutAfter_holds (ids : CheckoutIds) (inputs : List CheckoutInput) :
    CheckoutKept ids False (checkoutAfter ids inputs).shared := by
  have kept := checkoutAfter_kept inputs (obeys_leniently ids inputs { shared := {} })
  exact kept.holds fun _ urgent => urgent.1

theorem returned_told {pool : CheckoutPool} {thread} {result}
    (kept : Kept (checkoutDiscipline ids strict) (CheckoutTold ids strict) pool)
    (returned : pool.returned thread = some result) : ResultTold ids strict pool.shared result := by
  unfold CheckoutPool.returned at returned
  split at returned
  · next running =>
    cases returned
    obtain ⟨base, later, told⟩ := kept.returned running
    exact Told.later (told _ rfl) later
  · cases returned

theorem reconciled_told {pool : CheckoutPool} {thread} {outcome}
    (kept : Kept (checkoutDiscipline ids strict) (CheckoutTold ids strict) pool)
    (reconciled : pool.reconciled thread = some outcome) : ReconciledTold strict pool.shared outcome := by
  unfold CheckoutPool.reconciled at reconciled
  split at reconciled
  · next running =>
    cases reconciled
    obtain ⟨base, later, told⟩ := kept.returned running
    exact ReconciledTold.later (told _ rfl) later
  · cases reconciled

end Calls

/-- At most one of everything, and every result that says the checkout is done, or names an order at all, names
the order there is. -/
theorem checkout_at_most_once (ids : CheckoutIds) (inputs : List CheckoutInput) :
    let pool := checkoutAfter ids inputs
    pool.shared.db.workflows.length ≤ 1 ∧ (pool.shared.db.footprint ids).Once ids ∧
    ∀ thread result, pool.returned thread = some result →
      (∀ orderId, result.orderId = some orderId → ∃ order, pool.shared.db.orders = [order] ∧ order.id = orderId) ∧
      (result.state.isFinished = true → ∃ order, pool.shared.db.orders = [order] ∧ result.orderId = some order.id) := by
  have kept := checkoutAfter_kept inputs (obeys_leniently ids inputs { shared := {} })
  have holds := checkoutAfter_holds ids inputs
  have only : (checkoutAfter ids inputs).shared.db.orders ≠ [] →
      ∃ order, (checkoutAfter ids inputs).shared.db.orders = [order] ∧ order.id = ids.orderId := by
    intro sold
    obtain ⟨order, stored⟩ := List.length_eq_one_iff.mp
      (Nat.le_antisymm holds.once.orders (List.length_pos_iff.mpr sold))
    refine ⟨order, stored, holds.once.named order ?_⟩
    rw [show (SalesDb.footprint ids _).orders = _ from stored]
    exact .head _
  refine ⟨?_, holds.once, ?_⟩
  · rw [holds.single]
    cases (checkoutAfter ids inputs).shared.db.findWorkflow ids.checkoutId <;> simp
  · intro thread result returned
    have told := returned_told kept returned
    refine ⟨?_, ?_⟩
    · intro orderId named
      obtain ⟨own, sold⟩ := told.named orderId named
      obtain ⟨order, stored, same⟩ := only sold
      exact ⟨order, stored, same.trans own.symm⟩
    · intro finished
      have named := told.finished finished
      obtain ⟨order, stored, same⟩ := only (told.named _ named).2
      exact ⟨order, stored, by rw [named, same]⟩

def saleIds : CheckoutIds := ⟨"sale-1", 100, 200⟩

def openTill : List CheckoutInput :=
  [.environment (.shift (.setBranch 1 true)),
    .environment (.shift (.openShift 10 "CA-1" 7 none { branchId := 1, openingCash := 500000 }))]

/-- A customer's cart of one line, with what inventory and pricing answer for it. -/
def cartSale (tenders : List PosTenderDto) : CheckoutCall :=
  .checkout 7 none
    { branchId := 1, shiftId := some 10, customerId := some 9, lines := [{ variantId := some 5, qty := 1000 }], tenders }
    { saleWarehouse := .ok 3
      quote := .ok {
        lines := [{ variantId := 5, productId := 6, skuCode := "SKU-5", productName := "Goods", qty := 1000
                    baseQty := 1000, unitPrice := 100000, lineGross := 100000, itemDiscountAmount := 0
                    allocatedOrderDiscount := 0, lineNet := 100000, taxAmount := 0, lineTotal := 100000
                    unitCostSnapshot := 60000 }]
        subtotal := 100000, itemDiscountTotal := 0, orderDiscountTotal := 0, promotionDiscountTotal := 0
        shippingFee := 0, taxTotal := 0, grandTotal := 100000, couponCode := none } }

def turns (thread count : Nat) : List CheckoutInput := List.replicate count (.advance thread { newId := 300 })

/-- A transfer nobody has verified yet: the call succeeds, and there is no order it could name. -/
theorem awaiting_checkout_names_no_order :
    ¬∀ ids inputs thread result, (checkoutAfter ids inputs).returned thread = some result →
      ∃ order ∈ (checkoutAfter ids inputs).shared.db.orders, result.orderId = some order.id := by
  intro claimed
  let inputs := openTill ++ .call (cartSale [{ method := .bankTransfer, amount := 100000 }]) :: turns 0 12
  have awaiting : ((checkoutAfter saleIds inputs).returned 0).map (fun result => (result.state, result.orderId)) =
      some (.awaitingPayment, none) := by decide +kernel
  obtain ⟨result, returned, fields⟩ := Option.map_eq_some_iff.mp awaiting
  obtain ⟨order, _, named⟩ := claimed saleIds inputs 0 result returned
  rw [(Prod.mk.inj fields).2] at named
  cases named

end Sales
