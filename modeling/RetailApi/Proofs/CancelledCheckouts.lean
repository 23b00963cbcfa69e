import RetailApi.Proofs.CheckoutOnce

/-! What a cancelled checkout still holds. A cancellation releases the holds its row names, whatever becomes of the releases:
nothing stays behind where the row names every hold, the stock was not committed, the releases come through and nobody takes a
new hold. -/

namespace Sales

open Process Transaction Ready HoldState

structure Free (world : CheckoutWorld) : Prop where
  unreserved : ∀ id, world.reservation ≠ some ⟨id, .held⟩
  unsold : ∀ id, world.reservation ≠ some ⟨id, .committed⟩
  unheld : ∀ id, world.loyalty ≠ some ⟨id, .held⟩
  unauthorized : ∀ id, world.credit ≠ some ⟨id, .held⟩

def Fades (state : HoldState) (before after : Option RemoteHold) : Prop :=
  ∀ id, after = some ⟨id, state⟩ → before = some ⟨id, state⟩

theorem Fades.refl (state : HoldState) (hold : Option RemoteHold) : Fades state hold hold := fun _ => id

structure HoldsFade (before after : CheckoutWorld) : Prop where
  reservation : Fades .held before.reservation after.reservation
  stock : Fades .committed before.reservation after.reservation
  loyalty : Fades .held before.loyalty after.loyalty
  credit : Fades .held before.credit after.credit

def takes : CheckoutAction → Choice → CheckoutWorld → Bool
  | .reserveWarehouseStock _, choice, world => choice.delivery.arrives && world.reservation.isNone
  | .createHold _, choice, world => choice.delivery.arrives && world.loyalty.isNone
  | .authorizeCredit _, choice, world => choice.delivery.arrives && world.credit.isNone
  | .commitWarehouseReservation _, choice, world =>
    choice.delivery.arrives && world.reservation.any (·.state = .held)
  | _, _, _ => false

/-- A release that leaves a hold as it is and is passed over: a release of points that fails is not. -/
def withheld : CheckoutAction → Choice → CheckoutWorld → Bool
  | .releaseWarehouseReservation _, choice, world =>
    !choice.delivery.arrives && world.reservation.any (·.state = .held)
  | .releaseHold _, choice, world => choice.delivery = .refused && world.loyalty.any (·.state = .held)
  | .releaseAuthorization _, choice, world => !choice.delivery.arrives && world.credit.any (·.state = .held)
  | _, _, _ => false

section Fading

variable {delivery : Delivery} {hold : Option RemoteHold} {state : HoldState}

theorem apply_failed {α : Type} {effect : Option (Option RemoteHold × α)} (stays : delivery.arrives = false) :
    (delivery.apply hold effect).1 = hold := by
  cases delivery with
  | answered | lost => cases stays
  | refused | failed => rfl

theorem apply_create {newId : Uuid} (known : (delivery.arrives && hold.isNone) = false) :
    (delivery.apply hold (createRemote hold newId)).1 = hold := by
  cases hold with
  | none => exact apply_failed (by simpa using known)
  | some existing => cases delivery <;> rfl

theorem conflictUnavailable_arrives : (conflictUnavailable delivery hold).arrives = delivery.arrives := by
  unfold conflictUnavailable
  split
  · next conflict =>
    rw [conflict.1]
    rfl
  · rfl

theorem moveRemote_fades {move} {id : Uuid}
    (into : delivery.arrives = true → ∀ existing, hold = some existing → move existing.state = some state →
      existing.state = state) : Fades state hold (delivery.apply hold (moveRemote move hold id)).1 := by
  cases arrives : delivery.arrives with
  | false =>
    rw [apply_failed arrives]
    exact .refl state hold
  | true =>
    cases performed : moveRemote move hold id with
    | none =>
      cases delivery <;> exact .refl state hold
    | some outcome =>
      have after : (delivery.apply hold (some outcome)).1 = outcome.1 := by
        cases delivery with
        | answered | lost => rfl
        | refused | failed => cases arrives
      rw [after]
      intro other same
      unfold moveRemote at performed
      split at performed
      · next existing =>
        split at performed
        · obtain ⟨moved, stepped, rfl⟩ := Option.map_eq_some_iff.mp performed
          cases same
          have before := into arrives existing rfl stepped
          rw [← before]
        · cases performed
      · cases performed

theorem release_fades {id} (different : state = .held ∨ state = .committed) :
    Fades state hold (delivery.apply hold (moveRemote release? hold id)).1 := by
  refine moveRemote_fades fun _ existing _ stepped => ?_
  rcases different with rfl | rfl <;> cases before : existing.state <;> rw [before] at stepped <;> cases stepped

theorem commit_fades {id} : Fades .held hold (delivery.apply hold (moveRemote commit? hold id)).1 := by
  refine moveRemote_fades fun _ existing _ stepped => ?_
  cases before : existing.state <;> rw [before] at stepped <;> cases stepped

theorem performCheckout_fades (ids : CheckoutIds) {action choice world} (untaken : takes action choice world = false) :
    HoldsFade world (performCheckout ids action choice world).1 := by
  have same : ∀ after : CheckoutWorld, after.reservation = world.reservation → after.loyalty = world.loyalty →
      after.credit = world.credit → HoldsFade world after := by
    intro after reservation loyalty credit
    refine ⟨?_, ?_, ?_, ?_⟩ <;> simp only [reservation, loyalty, credit] <;> exact .refl _ _
  have settled : ∀ {α : Type} (outcome : Except Failure (SalesDb × α)), HoldsFade world (settle world outcome).1 := by
    intro α outcome
    cases outcome with
    | ok result => exact same _ rfl rfl rfl
    | error failure => exact same _ rfl rfl rfl
  cases action with
  | findWorkflow | findOrder | validateBranchAndShift | updateWorkflowState | abortWorkflow | escalateWorkflow
  | getWarehouseReservationByKey | getWarehouseReservation => exact same _ rfl rfl rfl
  | createWorkflow | finalizeCheckout => exact settled _
  | reserveWarehouseStock => exact same _ (apply_create (by rw [conflictUnavailable_arrives]; exact untaken)) rfl rfl
  | createHold => exact same _ rfl (apply_create untaken) rfl
  | authorizeCredit => exact same _ rfl rfl (apply_create (by rw [conflictUnavailable_arrives]; exact untaken))
  | commitWarehouseReservation =>
    refine ⟨commit_fades, moveRemote_fades ?_, .refl _ _, .refl _ _⟩
    intro arrives existing found stepped
    simp only [takes, arrives, found, Bool.true_and, Option.any_some, decide_eq_false_iff_not] at untaken
    cases before : existing.state with
    | held => exact absurd before untaken
    | committed => rfl
    | released | expired =>
      rw [before] at stepped
      cases stepped
  | releaseWarehouseReservation =>
    exact ⟨release_fades (.inl rfl), release_fades (.inr rfl), .refl _ _, .refl _ _⟩
  | commitHold => exact ⟨.refl _ _, .refl _ _, commit_fades, .refl _ _⟩
  | releaseHold => exact ⟨.refl _ _, .refl _ _, release_fades (.inl rfl), .refl _ _⟩
  | commitAuthorization => exact ⟨.refl _ _, .refl _ _, .refl _ _, commit_fades⟩
  | releaseAuthorization => exact ⟨.refl _ _, .refl _ _, .refl _ _, release_fades (.inl rfl)⟩

end Fading

theorem expire_fades {hold state} (different : state ≠ .expired) :
    Fades state hold (hold.map fun hold => { hold with state := hold.state.expire }) := by
  intro id same
  obtain ⟨existing, found, expired⟩ := Option.map_eq_some_iff.mp same
  rw [found]
  obtain ⟨existingId, before⟩ := existing
  cases before <;> cases expired <;> first | rfl | exact absurd rfl different

theorem surroundCheckout_fades (ids : CheckoutIds) (world : CheckoutWorld) (event : CheckoutEvent) :
    HoldsFade world (surroundCheckout ids world event) := by
  have expired : ∀ {hold : Option RemoteHold} {state : HoldState}, state ≠ .expired →
      Fades state hold (hold.map fun hold => { hold with state := hold.state.expire }) := expire_fades
  cases event with
  | expireReservation => exact ⟨expired (by decide), expired (by decide), .refl _ _, .refl _ _⟩
  | expireLoyaltyHold => exact ⟨.refl _ _, .refl _ _, expired (by decide), .refl _ _⟩
  | expireCreditAuthorization => exact ⟨.refl _ _, .refl _ _, .refl _ _, expired (by decide)⟩
  | shift operation =>
    simp only [surroundCheckout]
    split <;> exact ⟨.refl _ _, .refl _ _, .refl _ _, .refl _ _⟩

def cancelDiscipline (ids : CheckoutIds) : Discipline checkoutSignature CheckoutWorld Choice where
  perform := performCheckout ids
  Holds _ := True
  Later := HoldsFade
  Urgent _ := False
  Allowed action choice world := takes action choice world = false ∧ withheld action choice world = false
  refl _ := ⟨.refl _ _, .refl _ _, .refl _ _, .refl _ _⟩
  trans first second := ⟨fun id => first.reservation id ∘ second.reservation id,
    fun id => first.stock id ∘ second.stock id, fun id => first.loyalty id ∘ second.loyalty id,
    fun id => first.credit id ∘ second.credit id⟩

/-- A row that names every hold there is, of a checkout whose stock is not committed. -/
structure Covered (row : CheckoutWorkflow) (world : CheckoutWorld) : Prop where
  unsold : ∀ id, world.reservation ≠ some ⟨id, .committed⟩
  reservation : ∀ id, world.reservation = some ⟨id, .held⟩ → row.reservationId = some id
  loyalty : ∀ id, world.loyalty = some ⟨id, .held⟩ →
    row.quoteJson.loyaltyHoldId = some id ∧ row.quoteJson.loyaltyCommitted = false
  credit : ∀ id, world.credit = some ⟨id, .held⟩ →
    row.quoteJson.creditAuthId = some id ∧ row.quoteJson.creditCommitted = false

section Cancelling

variable {ids : CheckoutIds} {before after world : CheckoutWorld} {row : CheckoutWorkflow}

theorem Covered.later (covered : Covered row before) (later : HoldsFade before after) : Covered row after where
  unsold id same := covered.unsold id (later.stock id same)
  reservation id same := covered.reservation id (later.reservation id same)
  loyalty id same := covered.loyalty id (later.loyalty id same)
  credit id same := covered.credit id (later.credit id same)

theorem Free.later (free : Free before) (later : HoldsFade before after) : Free after where
  unreserved id same := free.unreserved id (later.reservation id same)
  unsold id same := free.unsold id (later.stock id same)
  unheld id same := free.unheld id (later.loyalty id same)
  unauthorized id same := free.unauthorized id (later.credit id same)

theorem ready_of_free {α : Type} {saga : CheckoutSaga α} (free : Free world) :
    Ready (cancelDiscipline ids) (fun now _ => Free now) saga world := by
  refine Safe.of_stable (fun _ => id) trivial ?_ fun now _ later _ _ => free.later later
  intro action choice now _ allowed
  exact ⟨trivial, performCheckout_fades ids allowed.1⟩

theorem release_clears {delivery : Delivery} {hold id} (named : ∀ other, hold = some ⟨other, .held⟩ → other = id)
    (through : (!delivery.arrives && hold.any (·.state = .held)) = false) (other : Uuid) :
    (delivery.apply hold (moveRemote release? hold id)).1 ≠ some ⟨other, .held⟩ := by
  intro still
  have held := release_fades (.inl rfl) other still
  have own := named other held
  subst held own
  cases delivery with
  | answered | lost => simp [moveRemote, release?, Delivery.apply] at still
  | refused | failed => cases through

theorem remotely_clears {action} {read : action.Answer → Except RemoteFailure Unit}
    {hold : CheckoutWorld → Option RemoteHold}
    (fades : ∀ before after, HoldsFade before after → Fades .held (hold before) (hold after))
    (clears : ∀ now choice, HoldsFade world now → withheld action choice now = false →
      ∀ id, hold (performCheckout ids action choice now).1 ≠ some ⟨id, .held⟩) :
    Ready (cancelDiscipline ids) (fun now _ => ∀ id, hold now ≠ some ⟨id, .held⟩)
      (remotely action read >>= fun _ => pure () : CheckoutSaga Unit) world := by
  have released : Ready (cancelDiscipline ids) (fun now _ => ∀ id, hold now ≠ some ⟨id, .held⟩)
      (remotely action read) world := by
    refine attempt id trivial ?_
    intro now choice later _ allowed
    refine ⟨trivial, performCheckout_fades ids allowed.1, ?_⟩
    intro final _ fade _ _ id same
    exact clears now choice later allowed.2 id (fades _ _ fade id same)
  refine released.bind fun _ now _ _ clear => pure trivial ?_
  intro final later _ id same
  exact clear id (fades _ _ later id same)

theorem spared_clears {hold : CheckoutWorld → Option RemoteHold} {own} {committed}
    (covers : ∀ now, HoldsFade world now → ∀ id, hold now = some ⟨id, .held⟩ → own = some id ∧ committed = false)
    (spared : ∀ id, own = some id → committed = true) :
    Ready (cancelDiscipline ids) (fun now _ => ∀ id, hold now ≠ some ⟨id, .held⟩) (pure () : CheckoutSaga Unit)
      world := by
  refine pure trivial fun now later _ id same => ?_
  obtain ⟨known, uncommitted⟩ := covers now later id same
  rw [spared id known] at uncommitted
  cases uncommitted

theorem releaseReservation_clears (covered : Covered row world) :
    Ready (cancelDiscipline ids) (fun now _ => ∀ id, now.reservation ≠ some ⟨id, .held⟩) (releaseReservation row)
      world := by
  unfold releaseReservation
  split
  · next reservationId named =>
    refine remotely_clears (fun _ _ fade => fade.reservation) ?_
    intro now choice later through
    refine release_clears ?_ through
    intro other held
    have known := (covered.later later).reservation other held
    rw [named] at known
    exact (Option.some.inj known).symm
  · next unnamed =>
    refine pure trivial fun now later _ id same => ?_
    have known := (covered.later later).reservation id same
    cases unnamed.symm.trans known

theorem releaseCreditAuthorization_clears (covered : Covered row world) :
    Ready (cancelDiscipline ids) (fun now _ => ∀ id, now.credit ≠ some ⟨id, .held⟩)
      (releaseCreditAuthorization row.quoteJson) world := by
  -- Without a release nothing is held: the row would name it, and not as committed.
  have unheld := @spared_clears ids world _ _ _ fun _ later => (covered.later later).credit
  unfold releaseCreditAuthorization
  split
  · next authorizationId named =>
    split
    · next committed => exact unheld fun _ _ => committed
    · refine remotely_clears (fun _ _ fade => fade.credit) ?_
      intro now choice later through
      refine release_clears ?_ through
      intro other held
      have known := ((covered.later later).credit other held).1
      rw [named] at known
      exact (Option.some.inj known).symm
  · next unnamed => exact unheld fun id named => by rw [unnamed] at named; cases named

theorem releaseLoyaltyHold_clears (covered : Covered row world) :
    Ready (cancelDiscipline ids) (fun now _ => ∀ id, now.loyalty ≠ some ⟨id, .held⟩)
      (releaseLoyaltyHold row.quoteJson) world := by
  have unheld := @spared_clears ids world _ _ _ fun _ later => (covered.later later).loyalty
  unfold releaseLoyaltyHold
  split
  · next holdId named =>
    split
    · next committed => exact unheld fun _ _ => committed
    · have released : Ready (cancelDiscipline ids)
          (fun now answer => answer = .error .unavailable ∨ ∀ id, now.loyalty ≠ some ⟨id, .held⟩)
          (remotely (.releaseHold holdId) id) world := by
        refine attempt id trivial ?_
        intro now choice later _ allowed
        refine ⟨trivial, performCheckout_fades ids allowed.1, ?_⟩
        intro final answer fade _ read
        cases failed : decide (choice.delivery = .failed) with
        | true =>
          left
          cases read
          simp only [cancelDiscipline, performCheckout, of_decide_eq_true failed]
          rfl
        | false =>
          right
          intro id same
          refine release_clears ?_ ?_ id (fade.loyalty id same)
          · intro other held
            have known := ((covered.later later).loyalty other held).1
            rw [named] at known
            exact (Option.some.inj known).symm
          · have through := allowed.2
            cases delivery : choice.delivery <;> simp_all [withheld, Delivery.arrives]
      refine released.bind fun answer now _ _ ended => ?_
      split
      · exact throw trivial
      · next answered =>
        rcases ended with failed | clear
        · exact absurd failed answered
        · exact pure trivial fun final later _ id same => clear id (later.loyalty id same)
  · next unnamed => exact unheld fun id named => by rw [unnamed] at named; cases named

theorem cancelWorkflow_ready (reason : Option String)
    (covered : row.state.isFinished = false → Covered row world ∧ (row.state = .cancelled → Free world)) :
    Ready (cancelDiscipline ids) (fun now _ => Free now) (cancelWorkflow row reason) world := by
  unfold cancelWorkflow
  split
  · exact throw trivial
  · exact throw trivial
  · next cancelled => exact ready_of_free ((covered (by rw [cancelled]; rfl)).2 cancelled)
  · next unconfirmed uncompleted _ =>
    have unfinished : row.state.isFinished = false := by
      cases state : row.state <;> first | rfl | exact absurd state unconfirmed | exact absurd state uncompleted
    have covered := (covered unfinished).1
    refine (releaseReservation_clears covered).bind fun _ first _ toFirst unreserved => ?_
    have covered := covered.later toFirst
    refine (releaseLoyaltyHold_clears covered).bind fun _ second _ toSecond unheld => ?_
    have covered := covered.later toSecond
    refine (releaseCreditAuthorization_clears covered).bind fun _ third _ toThird unauthorized => ?_
    have last : HoldsFade first third := (cancelDiscipline ids).trans toSecond toThird
    refine ready_of_free ⟨?_, (covered.later toThird).unsold, ?_, unauthorized⟩
    · exact fun id same => unreserved id (last.reservation id same)
    · exact fun id same => unheld id (toThird.loyalty id same)

end Cancelling

def named (id : Option Uuid) (hold : Option RemoteHold) : Bool :=
  hold.all fun hold => hold.state ≠ .held || id = some hold.id

/-- The ids of the stock, points and credit that a cancellation of a row releases. -/
def CheckoutWorkflow.released (row : CheckoutWorkflow) : Option Uuid × Option Uuid × Option Uuid :=
  if row.state = .cancelled then (none, none, none)
  else (row.reservationId, if row.quoteJson.loyaltyCommitted then none else row.quoteJson.loyaltyHoldId,
    if row.quoteJson.creditCommitted then none else row.quoteJson.creditAuthId)

/-- A checkout that a cancellation can undo: it is not sold, and every hold there is will be released. -/
def compensable (ids : CheckoutIds) (world : CheckoutWorld) : Bool :=
  match world.db.findWorkflow ids.checkoutId with
  | some row => row.state.isFinished || (world.reservation.all (·.state ≠ .committed) &&
      named row.released.1 world.reservation && named row.released.2.1 world.loyalty && named row.released.2.2 world.credit)
  | none => true

/-- A step that takes nothing for the checkout and, by the given call, lets no release come to nothing. -/
def clearsHolds (thread : Nat) (pool : CheckoutPool) : CheckoutInput → Bool
  | .advance other choice => (pool.pending other).all fun action =>
      !takes action choice pool.shared && (other ≠ thread || !withheld action choice pool.shared)
  | _ => true

section Runs

variable {ids : CheckoutIds} {world : CheckoutWorld} {row : CheckoutWorkflow}

theorem named_held {id hold} (covers : named id hold = true) (other : Uuid)
    (held : hold = some ⟨other, .held⟩) : id = some other := by
  rw [held] at covers
  simpa [named] using covers

theorem compensable_covered (undone : compensable ids world = true)
    (found : world.db.findWorkflow ids.checkoutId = some row) (unfinished : row.state.isFinished = false) :
    Covered row world ∧ (row.state = .cancelled → Free world) := by
  simp only [compensable, found, unfinished, Bool.false_or, Bool.and_eq_true] at undone
  obtain ⟨⟨⟨unsold, stock⟩, points⟩, credit⟩ := undone
  have uncommitted : ∀ id, world.reservation ≠ some ⟨id, .committed⟩ := by
    intro id same
    rw [same] at unsold
    cases unsold
  unfold CheckoutWorkflow.released at stock points credit
  split at stock
  · next cancelled =>
    simp only [cancelled, if_true] at points credit
    have none_ : ∀ {hold : Option RemoteHold}, named none hold = true → ∀ id, hold ≠ some ⟨id, .held⟩ := by
      intro hold covers id same
      cases named_held covers id same
    have free : Free world := ⟨none_ stock, uncommitted, none_ points, none_ credit⟩
    refine ⟨⟨uncommitted, ?_, ?_, ?_⟩, fun _ => free⟩
    · exact fun id same => absurd same (free.unreserved id)
    · exact fun id same => absurd same (free.unheld id)
    · exact fun id same => absurd same (free.unauthorized id)
  · next open_ =>
    simp only [open_, if_false] at points credit
    refine ⟨⟨uncommitted, named_held stock, ?_, ?_⟩, fun cancelled => absurd cancelled open_⟩
    · intro id same
      have known := named_held points id same
      split at known
      · cases known
      · next uncommitted => exact ⟨known, by simpa using uncommitted⟩
    · intro id same
      have known := named_held credit id same
      split at known
      · cases known
      · next uncommitted => exact ⟨known, by simpa using uncommitted⟩

theorem cancelFound_ready (scope : BranchScope) (reason : Option String) (undone : compensable ids world = true) :
    Ready (cancelDiscipline ids) (fun now _ => Free now)
      (CheckoutReply.checkout <$> (requireFound ids scope (world.db.findWorkflow ids.checkoutId) >>= fun wf =>
        cancelWorkflow wf reason)) world := by
  rw [map_eq_pure_bind, bind_assoc]
  cases found : world.db.findWorkflow ids.checkoutId with
  | none => exact throw trivial
  | some row =>
    simp only [requireFound]
    split
    · rw [pure_bind]
      refine (cancelWorkflow_ready reason (compensable_covered undone found)).bind fun _ now _ _ free => ?_
      exact pure trivial fun _ later _ => free.later later
    · exact throw trivial

def CancelTold (world : CheckoutWorld) (result : Except Failure CheckoutReply) : Prop :=
  ∀ reply, result = .ok reply → Free world

theorem clearsHolds_advance {thread other pool choice action}
    (clears : clearsHolds thread pool (.advance other choice) = true) (pending : pool.pending other = some action) :
    takes action choice pool.shared = false ∧ (other = thread → withheld action choice pool.shared = false) := by
  rw [clearsHolds, pending] at clears
  exact spared clears

theorem clearsHolds_step {thread pool input}
    (clears : clearsHolds thread pool input = true) (tracked : Tracked (cancelDiscipline ids) CancelTold thread pool) :
    Tracked (cancelDiscipline ids) CancelTold thread ((checkoutMachine ids).step pool input) := by
  refine tracked.step rfl (fun _ => id) trivial ?_ trivial ?_
  · rintro choice action rfl pending
    obtain ⟨untaken, through⟩ := clearsHolds_advance clears pending
    exact ⟨untaken, through rfl⟩
  · refine step_shared (HoldsFade pool.shared) ((cancelDiscipline ids).refl _) ?_ ?_
    · rintro other choice action rfl pending
      exact performCheckout_fades ids (clearsHolds_advance clears pending).1
    · rintro event rfl
      exact surroundCheckout_fades ids pool.shared event

end Runs

/-- In every run in which a cancellation reads a row that names all there is to release, its releases come to
something, and nothing is taken from then on: once it has returned, nothing is held and no stock is taken. -/
theorem cancelled_checkout_holds_nothing (ids : CheckoutIds) (earlier during : List CheckoutInput) (thread : Nat)
    (scope : BranchScope) (reason : Option String) (choice : Choice) (result : PosCheckoutResult)
    (called : (checkoutAfter ids earlier).running thread = some ((CheckoutCall.cancelCheckout scope reason).saga ids).run)
    (undone : compensable ids (checkoutAfter ids earlier).shared = true)
    (clears : Run.Meets (checkoutMachine ids).step (fun pool input => clearsHolds thread pool input = true)
      (checkoutAfter ids (earlier ++ [.advance thread choice])) during)
    (returned : (checkoutAfter ids (earlier ++ .advance thread choice :: during)).returned thread = some result) :
    Free (checkoutAfter ids (earlier ++ .advance thread choice :: during)).shared := by
  have read : checkoutAfter ids (earlier ++ [.advance thread choice]) =
      (checkoutMachine ids).step (checkoutAfter ids earlier) (.advance thread choice) := checkoutAfter_append ids _ _
  rw [read] at clears
  rw [checkoutAfter_append] at returned ⊢
  have tracked : Tracked (cancelDiscipline ids) CancelTold thread
      (Run.after (checkoutMachine ids).step (checkoutAfter ids earlier) (.advance thread choice :: during)) :=
    Tracked.of_action called (cancelFound_ready scope reason undone) (fun _ _ step => clearsHolds_step step) clears
  unfold CheckoutPool.returned at returned
  split at returned
  · next ended running => exact tracked.returned trivial running _ rfl
  · cases returned

/-- A sale on account whose call stops with the credit authorised and the goods reserved. -/
def stoppedSale : List CheckoutInput :=
  openTill ++ .call (cartSale [{ method := .onAccount, amount := 100000 }]) :: turns 0 7 ++ [.crash 0]

theorem cancelled_checkout_holds_nothing_stoppedSale :
    let cancelled := checkoutAfter saleIds
      (stoppedSale ++ [.call (.cancelCheckout none none)] ++ .advance 1 {} :: turns 1 4)
    (cancelled.returned 1).map (·.state) = some .cancelled ∧ cancelled.shared.credit = some ⟨300, .released⟩ ∧
      Free cancelled.shared := by
  have returned : ((checkoutAfter saleIds (stoppedSale ++ [.call (.cancelCheckout none none)] ++
      .advance 1 {} :: turns 1 4)).returned 1).map (·.state) = some .cancelled := by decide +kernel
  have first : (checkoutAfter saleIds stoppedSale).threads.length = 1 := by decide +kernel
  have called := checkoutAfter_call saleIds stoppedSale (.cancelCheckout none none)
  rw [first] at called
  obtain ⟨result, known, _⟩ := Option.map_eq_some_iff.mp returned
  have free := cancelled_checkout_holds_nothing saleIds (stoppedSale ++ [.call (.cancelCheckout none none)]) (turns 1 4)
    1 none none {}
  exact ⟨returned, by decide +kernel, free result called (by decide +kernel) (by decide +kernel) known⟩

/-- A cash sale whose goods inventory commits, with an answer that is lost and cannot be asked for again. -/
def unknownCommit : List CheckoutInput :=
  openTill ++ .call (cartSale [{ method := .cash, amount := 100000, tenderedCash := some 100000 }]) ::
    turns 0 6 ++ [.advance 0 { delivery := .lost }, .advance 0 { delivery := .failed }, .advance 0 {}]

/-- The cancellation that follows does not mind that the goods cannot be released. -/
theorem cancelled_checkout_keeps_stock :
    ¬∀ ids earlier during thread scope reason result,
      (checkoutAfter ids earlier).running thread = some ((CheckoutCall.cancelCheckout scope reason).saga ids).run →
      (checkoutAfter ids (earlier ++ during)).returned thread = some result →
      Free (checkoutAfter ids (earlier ++ during)).shared := by
  intro claimed
  have returned : ((checkoutAfter saleIds (unknownCommit ++ [.call (.cancelCheckout none none)] ++
      turns 1 5)).returned 1).map (·.state) = some .cancelled := by decide +kernel
  have committed : (checkoutAfter saleIds (unknownCommit ++ [.call (.cancelCheckout none none)] ++
      turns 1 5)).shared.reservation = some ⟨300, .committed⟩ := by decide +kernel
  have first : (checkoutAfter saleIds unknownCommit).threads.length = 1 := by decide +kernel
  have called := checkoutAfter_call saleIds unknownCommit (.cancelCheckout none none)
  obtain ⟨result, known, _⟩ := Option.map_eq_some_iff.mp returned
  have free := claimed saleIds (unknownCommit ++ [.call (.cancelCheckout none none)]) (turns 1 5) 1 none none
  exact (free result called known).unsold 300 committed

end Sales
