import RetailApi.Proofs.OrderQuantities
import RetailApi.Sales.OrderSystem

/-! What a confirmed order holds in inventory. A confirmation reserves the lines it read and
then confirms whatever lines the order has: the two are the same where no edit came between. -/

namespace Sales

open Process Transaction JsString Inventory OrderEntity Keyed SkuQty Option

def soldQty (key : Text) (items : List OrderItemEntity) : Int :=
  Keyed.total (fun item => inventoryStockKey item.variantId item.sku) (·.baseQty) key items

def OrderReservation.heldQty (reservation : OrderReservation) (key : Text) : Int :=
  Keyed.total (fun line => line.2.1) (fun line => line.2.2) key reservation.requestSha256.lines

/-- A confirmed order names the reservation there is, and that holds what its lines sell. -/
def ReservesWhatItSells (world : OrderWorld) : Prop :=
  ∀ order, world.db.order = some order → order.orderStatus = .confirmed →
    ∃ reservation, world.reservation = some reservation ∧ order.reservationId = some reservation.id ∧
      ∀ key, reservation.heldQty key = soldQty key world.db.items

theorem skuQty_ok {item : OrderItemEntity} {line} (made : item.skuQty = .ok line) :
    line = ⟨inventoryStockKey item.variantId item.sku, item.baseQty⟩ := by
  simp only [OrderItemEntity.skuQty, eq_ok] at made
  obtain ⟨millis, parsed, rfl⟩ := made
  rw [parseQtyMillis_format_ok parsed]

theorem qtyBySku_total {items quantities} (collected : qtyBySku items = .ok quantities)
    (key : Text) : Keyed.total skuKey millis key quantities = soldQty key items := by
  refine foldlM_links (fun finished collected =>
    Keyed.total skuKey millis key collected = soldQty key finished) rfl ?_ collected
  intro finished item rest before after _ linked stepped
  simp only [eq_ok] at stepped
  obtain ⟨line, made, rfl⟩ := stepped
  have kept : ∀ first second : SkuQty, (first.combine second).skuKey = first.skuKey := fun _ _ => rfl
  rw [skuQty_ok made, total_insert kept (fun _ _ _ => rfl) (fun _ _ => id), linked]
  simp [soldQty]

theorem parseDecimalToMilli_format {millis parsed}
    (accepted : parseDecimalToMilli (formatQtyMillis millis) = .ok parsed) (positive : 0 < parsed) :
    parsed = millis := by
  rcases Int.lt_trichotomy millis 0 with negative | rfl | above
  · obtain ⟨letters, text⟩ := formatQtyMillis_negative negative
    rw [parseDecimalToMilli, trim_formatQtyMillis, text, required_eq_ok] at accepted
    obtain ⟨value, _, rfl⟩ := map_eq_some_iff.mp accepted
    omega
  · have zero : readSigned 3 (trim (formatQtyMillis 0).toList) = some 0 := by decide
    cases accepted
    rfl
  · have printed : parseQtyToMilli (formatQtyMillis millis) false false = .ok millis :=
      parseQtyToMilli_format above
    simp only [parseQtyToMilli, eq_ok] at printed
    obtain ⟨value, read, checked⟩ := printed
    simp only [parseDecimalToMilli, required_eq_ok] at accepted
    cases accepted.symm.trans read
    exact (checkQty_ok checked).1.symm

theorem mergeReservationLines_total (lines : List NormalizedReservationLine) (key : Text) :
    Keyed.total (·.skuId) (·.qtyMilli) key (mergeReservationLines lines) =
      Keyed.total (·.skuId) (·.qtyMilli) key lines := by
  have kept : ∀ first second : NormalizedReservationLine, (first.combine second).skuId = first.skuId :=
    fun _ _ => rfl
  rw [mergeReservationLines, total_perm (List.perm_insertionSort _ _), total_foldl_insert kept fun _ _ _ => rfl]
  · simp
  · intro first second same
    exact congrArg Prod.snd same

theorem normalizeReservationLines_total {orderId branchId warehouseId quantities lines}
    (accepted : normalizeReservationLines (reserveRequest orderId branchId warehouseId quantities).lines = .ok lines)
    (key : Text) :
    Keyed.total (·.skuId) (·.qtyMilli) key lines = Keyed.total skuKey millis key quantities := by
  simp only [normalizeReservationLines, reserveRequest, eq_ok, List.mapM_map] at accepted
  obtain ⟨_, _, parsed, mapped, rfl⟩ := accepted
  rw [mergeReservationLines_total]
  have same : parsed.map (fun line => (line.skuId, line.qtyMilli)) = quantities.map fun line => (line.skuKey, line.millis) := by
    refine mapM_map_eq ?_ mapped
    intro line made
    simp only [Function.comp_apply, eq_ok]
    rintro ⟨millis, read, _, positive, rfl⟩
    rw [parseDecimalToMilli_format read positive]
  have pairs : ∀ {α : Type} (skuKey : α → Text) (qty : α → Int) (lines : List α),
      Keyed.total skuKey qty key lines = Keyed.total Prod.fst Prod.snd key (lines.map fun line => (skuKey line, qty line)) := by
    intro α skuKey qty lines
    rw [total_map]
    rfl
  rw [pairs, same, ← pairs]

theorem reserveUnderKey_ok {orderId branchId warehouseId newId quantities reservation kept}
    (reserved : reserveUnderKey reservation newId (reserveRequest orderId branchId warehouseId quantities) = .ok kept)
    (key : Text) : kept.heldQty key = Keyed.total skuKey millis key quantities := by
  unfold reserveUnderKey at reserved
  split at reserved
  · cases reserved
  · next lines normalized =>
    have payload : kept.requestSha256 =
        payloadOf (reserveRequest orderId branchId warehouseId quantities) lines := by
      split at reserved
      · split at reserved
        · next same =>
          cases reserved
          exact same
        · cases reserved
      · cases reserved
        rfl
    rw [OrderReservation.heldQty, payload, payloadOf, total_map]
    exact normalizeReservationLines_total normalized key

def ReservationStays (before after : OrderWorld) : Prop :=
  ∀ reservation, before.reservation = some reservation →
    ∃ state, after.reservation = some { reservation with state }

theorem ReservationStays.refl (world : OrderWorld) : ReservationStays world world :=
  fun reservation found => ⟨reservation.state, found⟩

theorem ReservationStays.trans {first second third} (before : ReservationStays first second)
    (after : ReservationStays second third) : ReservationStays first third := by
  intro reservation found
  obtain ⟨middle, between⟩ := before reservation found
  obtain ⟨last, now⟩ := after _ between
  exact ⟨last, now⟩

/-- A confirming transaction on an order that is still open finds the lines its call has read. -/
def confirmsLinesRead : OrderAction → OrderWorld → Bool
  | .confirmReserved read .., world => world.db.items = read.items || world.db.order.all fun order => !order.isOpen
  | _, _ => true

def confirmDiscipline (orderId : Uuid) : Discipline orderSignature OrderWorld OrderChoice where
  perform := performOrder orderId
  Holds := ReservesWhatItSells
  Later := ReservationStays
  Urgent _ := False
  Allowed action _ world := confirmsLinesRead action world = true
  refl := .refl
  trans := .trans

section Calls

variable {orderId : Uuid} {world : OrderWorld}

theorem performReserve_known (existing : OrderReservation) (choice : OrderChoice)
    (req : CreateWarehouseReservationRequest) : (performReserve (some existing) choice req).1 = some existing := by
  have same : ∀ kept, reserveUnderKey (some existing) choice.newId req = .ok kept → kept = existing := by
    intro kept reserved
    unfold reserveUnderKey at reserved
    split at reserved
    · cases reserved
    · dsimp only at reserved
      split at reserved
      · exact (Except.ok.inj reserved).symm
      · cases reserved
  unfold performReserve
  split
  · rfl
  · next kept _ reserved =>
    rw [isSome_some, if_pos rfl, same kept reserved]
  · next kept _ reserved => rw [same kept reserved]
  · next kept _ reserved => rw [same kept reserved]
  · rfl
  · rfl

theorem performReserve_answered {reservation choice req id} (answered : (performReserve reservation choice req).2 = .ok id) :
    ∃ kept, reserveUnderKey reservation choice.newId req = .ok kept ∧ kept.id = id ∧
      (performReserve reservation choice req).1 = some kept := by
  unfold performReserve at answered ⊢
  split at answered
  · cases answered
  · next kept _ reserved =>
    split at answered
    · next known =>
      refine ⟨kept, reserved, Except.ok.inj answered, ?_⟩
      rw [if_pos known]
    · cases answered
  · cases answered
  · next kept _ reserved => exact ⟨kept, reserved, Except.ok.inj answered, rfl⟩
  · cases answered
  · cases answered

theorem performRelease_stays (reservation : OrderReservation) (delivery : Delivery) (id : Uuid) :
    ∃ state, performRelease (some reservation) delivery id = some { reservation with state } := by
  unfold performRelease
  split
  · simp only [map_some]
    split
    · exact ⟨_, rfl⟩
    · exact ⟨reservation.state, rfl⟩
  · exact ⟨reservation.state, rfl⟩

theorem ReservesWhatItSells.of_reservation {after} (kept : ReservesWhatItSells world)
    (same : after.db = world.db) (stays : ReservationStays world after) : ReservesWhatItSells after := by
  intro order found confirmed
  rw [same] at found ⊢
  obtain ⟨reservation, held, named, quantities⟩ := kept order found confirmed
  obtain ⟨state, now⟩ := stays reservation held
  exact ⟨{ reservation with state }, now, named, quantities⟩

theorem settleOrder_keeps {outcome} (kept : ReservesWhatItSells world)
    (unconfirmed : ∀ db, outcome = .ok db → db = world.db ∨ ∀ order, db.order = some order → order.orderStatus ≠ .confirmed) :
    ReservesWhatItSells (settleOrder world outcome).1 ∧ ReservationStays world (settleOrder world outcome).1 := by
  cases outcome with
  | error failure => exact ⟨kept, .refl world⟩
  | ok db =>
    refine ⟨?_, .refl world⟩
    rcases unconfirmed db rfl with rfl | other
    · exact kept
    · intro order found confirmed
      exact absurd confirmed (other order found)

theorem updateDraft_open {db after scope dto quote}
    (updated : updateDraft orderId db scope dto quote = .ok after) (order : OrderEntity) (found : after.order = some order) :
    order.isOpen = true := by
  simp only [updateDraft, assertEditable, eq_ok] at updated
  obtain ⟨before, _, _, _, _, ⟨_, _, opened⟩, written⟩ := updated
  cases quote with
  | none =>
    cases written
    cases found
    exact opened
  | some quote =>
    cases written
    cases found
    exact opened

theorem isOpen_unconfirmed {order : OrderEntity} (opened : order.isOpen = true) : order.orderStatus ≠ .confirmed := by
  intro confirmed
  simp [isOpen, confirmed] at opened

theorem cancelLocked_ok {db after actorId reason} (cancelled : cancelLocked orderId db actorId reason = .ok after) :
    after = db ∨ ∀ order, after.order = some order → order.orderStatus = .cancelled := by
  unfold cancelLocked at cancelled
  split at cancelled
  · exact .inl (Except.ok.inj cancelled).symm
  · simp only [cancel, eq_ok] at cancelled
    obtain ⟨_, _, row, ⟨_, _, _, _, _, _, rfl⟩, coupons, _, rfl⟩ := cancelled
    right
    intro order found
    cases found
    rfl

theorem performOrder_keeps {action} (choice : OrderChoice)
    (other : ∀ read actorId warehouseId reservationId, action ≠ .confirmReserved read actorId warehouseId reservationId)
    (kept : ReservesWhatItSells world) : ReservesWhatItSells (performOrder orderId action choice world).1 ∧
      ReservationStays world (performOrder orderId action choice world).1 := by
  have stays : ∀ after : OrderWorld, after.db = world.db → ReservationStays world after →
      ReservesWhatItSells after ∧ ReservationStays world after := fun after same later => ⟨kept.of_reservation same later, later⟩
  cases action with
  | findOrder | resolveAndQuoteLines | resolveSaleWarehouse | getOrderDetails =>
    exact ⟨kept, .refl world⟩
  | confirmReserved read actorId warehouseId reservationId => exact absurd rfl (other read actorId warehouseId reservationId)
  | updateDraft scope dto quote =>
    refine settleOrder_keeps kept fun db updated => .inr ?_
    exact fun order found => isOpen_unconfirmed (updateDraft_open updated order found)
  | cancelLocked actorId reason =>
    refine settleOrder_keeps kept fun db cancelled => ?_
    refine (cancelLocked_ok cancelled).imp_right fun ended order found => ?_
    rw [ended order found]
    decide
  | reserveWarehouseStock req =>
    refine stays _ rfl fun reservation found => ⟨reservation.state, ?_⟩
    simp only [performOrder, found]
    exact performReserve_known reservation choice req
  | releaseWarehouseReservation reservationId reason =>
    refine stays _ rfl fun reservation found => ?_
    simp only [performOrder, found]
    exact performRelease_stays reservation choice.delivery reservationId

theorem steady_action {α : Type} {action : OrderAction} {read : action.Answer → Except Failure α}
    (other : ∀ read actorId warehouseId reservationId, action ≠ .confirmReserved read actorId warehouseId reservationId) :
    Steady (confirmDiscipline orderId) (attempt (S := orderSignature) action read) :=
  Steady.attempt id fun _ choice kept _ => performOrder_keeps choice other kept

theorem steady_checked {α : Type} (D : Discipline orderSignature OrderWorld OrderChoice) (outcome : Except Failure α) :
    Steady D (checked outcome) := by
  cases outcome with
  | ok value => exact .pure value
  | error failure => exact .throw failure

theorem steady_details (scope : BranchScope) : Steady (confirmDiscipline orderId) (getOrderDetails scope) :=
  steady_action fun _ _ _ _ same => by cases same

theorem steady_read (scope : BranchScope) : Steady (confirmDiscipline orderId) (readVisible orderId scope) :=
  steady_action fun _ _ _ _ same => by cases same

theorem updateDraftOrder_steady (permissions : List String) (scope : BranchScope) (dto : UpdateDraftOrderDto) :
    Steady (confirmDiscipline orderId) (updateDraftOrder orderId permissions scope dto) := by
  refine (steady_read scope).bind fun current => (steady_checked _ _).bind fun _ => ?_
  refine Steady.bind ?_ fun quote => ?_
  · unfold nextQuote
    split
    · rw [map_eq_pure_bind]
      exact (steady_action fun _ _ _ _ same => by cases same).bind fun quote => .pure _
    · exact .pure none
  · exact (steady_action fun _ _ _ _ same => by cases same).bind fun _ => steady_details scope

theorem cancelOrder_steady (actorId : Uuid) (scope : BranchScope) (dto : CancelOrderDto) :
    Steady (confirmDiscipline orderId) (cancelOrder orderId actorId scope dto) := by
  refine (steady_read scope).bind fun read => ?_
  refine .ite (fun _ => steady_details scope) fun _ => ?_
  refine (steady_checked _ _).bind fun _ => Steady.bind ?_ fun _ => ?_
  · unfold releaseHeld
    split
    · exact steady_action fun _ _ _ _ same => by cases same
    · exact .pure ()
  · exact (steady_action fun _ _ _ _ same => by cases same).bind fun _ => steady_details scope

def HeldFor (id : Uuid) (items : List OrderItemEntity) (world : OrderWorld) : Prop :=
  ∃ reservation, world.reservation = some reservation ∧ reservation.id = id ∧
    ∀ key, reservation.heldQty key = soldQty key items

theorem HeldFor.later {id items after} (held : HeldFor id items world)
    (later : ReservationStays world after) : HeldFor id items after := by
  obtain ⟨reservation, found, named, quantities⟩ := held
  obtain ⟨state, now⟩ := later reservation found
  exact ⟨{ reservation with state }, now, named, quantities⟩

theorem confirmReserved_keeps {db actorId warehouseId reservationId} (kept : ReservesWhatItSells world)
    (held : world.db.order.any isOpen = true → HeldFor reservationId world.db.items world)
    (confirmed : confirmReserved orderId world.db actorId warehouseId reservationId = .ok db) :
    ReservesWhatItSells { world with db } := by
  simp only [confirmReserved, eq_ok] at confirmed
  obtain ⟨locked, stored, written⟩ := confirmed
  split at written
  · cases written
    exact kept
  · simp only [confirmWithReservation, assertCanConfirm, eq_ok] at written
    obtain ⟨row, ⟨_, _, _, opened, _, _, rfl⟩, rfl⟩ := written
    rw [stored, any_some] at held
    obtain ⟨reservation, found, named, quantities⟩ := held opened
    intro order same _
    cases same
    exact ⟨reservation, found, congrArg some named.symm, quantities⟩

theorem reserveWarehouseStock_holds {items quantities} (branchId warehouseId : Uuid)
    (collected : qtyBySku items = .ok quantities) (kept : ReservesWhatItSells world) :
    Ready (confirmDiscipline orderId) (fun now id => HeldFor id items now)
      (reserveWarehouseStock (reserveRequest orderId branchId warehouseId quantities)) world := by
  refine Ready.attempt id kept ?_
  intro now choice _ holds _
  have performed : ReservesWhatItSells (performOrder orderId
      (.reserveWarehouseStock (reserveRequest orderId branchId warehouseId quantities)) choice now).1 ∧
      ReservationStays now (performOrder orderId
        (.reserveWarehouseStock (reserveRequest orderId branchId warehouseId quantities)) choice now).1 :=
    performOrder_keeps choice (fun _ _ _ _ same => by cases same) holds
  refine ⟨performed.1, performed.2, ?_⟩
  intro final id moved _ answered
  simp only [confirmDiscipline, performOrder] at answered moved
  cases answer : (performReserve now.reservation choice (reserveRequest orderId branchId warehouseId quantities)).2 with
  | error failure =>
    rw [answer] at answered
    cases answered
  | ok given =>
    rw [answer] at answered
    cases answered
    obtain ⟨reservation, made, named, stored⟩ := performReserve_answered answer
    have held : HeldFor id items { now with reservation := (performReserve now.reservation choice
        (reserveRequest orderId branchId warehouseId quantities)).1 } := by
      refine ⟨reservation, stored, named, fun key => ?_⟩
      rw [reserveUnderKey_ok made, qtyBySku_total collected]
    exact held.later moved

theorem confirmAction_ready {actorId warehouseId reservationId} {read} (kept : ReservesWhatItSells world)
    (held : HeldFor reservationId read.items world) : Ready (confirmDiscipline orderId) (fun _ _ => True)
      (attempt (S := orderSignature) (.confirmReserved read actorId warehouseId reservationId) id : OrderSaga Unit) world := by
  refine Ready.attempt id kept ?_
  intro now choice later holds allowed
  have lines : now.db.order.any isOpen = true → HeldFor reservationId now.db.items now := by
    intro opened
    have same : now.db.items = read.items := by
      cases stored : now.db.order with
      | none =>
        rw [stored] at opened
        cases opened
      | some order =>
        simp only [confirmDiscipline, confirmsLinesRead, stored, any_some, all_some] at allowed opened
        simpa [opened] using allowed
    rw [same]
    exact held.later later
  cases outcome : confirmReserved orderId now.db actorId warehouseId reservationId with
  | error failure =>
    simp only [confirmDiscipline, performOrder, outcome, settleOrder]
    exact ⟨holds, .refl now, fun _ _ _ _ _ => trivial⟩
  | ok db =>
    simp only [confirmDiscipline, performOrder, outcome, settleOrder]
    exact ⟨confirmReserved_keeps holds lines outcome, .refl now, fun _ _ _ _ _ => trivial⟩

theorem confirmRead_steady (actorId : Uuid) (scope : BranchScope) (dto : ConfirmOrderDto) (read : OrderRead) :
    Steady (confirmDiscipline orderId) (confirmRead orderId actorId scope dto read) := by
  refine (steady_checked _ _).bind fun _ => (steady_action fun _ _ _ _ same => by cases same).bind fun warehouseId => ?_
  intro start kept
  cases collected : qtyBySku read.items with
  | error failure => exact Ready.throw kept
  | ok quantities =>
    refine (reserveWarehouseStock_holds read.order.branchId warehouseId collected kept).bind ?_
    intro reservationId middle holds _ held
    refine (confirmAction_ready holds held).bind ?_
    intro _ last keeps _ _
    exact steady_details scope last keeps

theorem orderCall_steady (call : OrderCall) : Steady (confirmDiscipline orderId) (call.saga orderId) := by
  cases call with
  | updateDraftOrder permissions scope dto => exact updateDraftOrder_steady permissions scope dto
  | cancelOrder actorId scope dto => exact cancelOrder_steady actorId scope dto
  | confirmOrder actorId scope dto =>
    refine (steady_read scope).bind fun read => ?_
    exact .ite (fun _ => steady_details scope) fun _ => confirmRead_steady actorId scope dto read

end Calls

def confirmsWhatItRead (pool : OrderPool) : OrderInput → Bool
  | .advance thread _ => (pool.pending thread).all fun action => confirmsLinesRead action pool.shared
  | _ => true

theorem confirmsWhatItRead_obeys (orderId : Uuid) {pool input}
    (reads : confirmsWhatItRead pool input = true) : Obeys (confirmDiscipline orderId) pool input where
  urgent _ _ _ urgent := urgent.elim
  allowed thread choice action same pending := by
    subst same
    have performed : (some action).all (fun action => confirmsLinesRead action pool.shared) = true := by
      rw [← pending]
      exact reads
    exact performed

def ConfirmsSafely (orderId : Uuid) (pool : OrderPool) : Prop :=
  Kept (confirmDiscipline orderId) (fun _ _ result => ∀ details, result = .ok details → True) pool

theorem ConfirmsSafely.start (new : NewOrder) : ConfirmsSafely new.orderId { shared := new.world } := by
  refine .quiet ?_ ?_
  · intro order found confirmed
    cases found
    cases status : new.dto.initialStatus with
    | none => simp [priced, status, InitialStatus.orderStatus] at confirmed
    | some initial => cases initial <;> simp [priced, status, InitialStatus.orderStatus] at confirmed
  · intro thread program running
    cases running

theorem ConfirmsSafely.step {orderId pool input} (safe : ConfirmsSafely orderId pool)
    (reads : confirmsWhatItRead pool input = true) : ConfirmsSafely orderId ((orderMachine orderId).step pool input) := by
  refine Kept.step safe rfl (fun state event => event.elim) ?_ (confirmsWhatItRead_obeys orderId reads)
  intro call _ state holds
  refine ⟨?_, orderCall_steady call state holds⟩
  rintro ⟨action, _, urgent⟩
  exact urgent

/-- In every run in which a confirming transaction on an open order finds the lines its call has read, a confirmed
order refers to a reservation that holds, of every variant, what the lines of the order add up to. -/
theorem confirmed_order_reserves_its_lines (new : NewOrder) (inputs : List OrderInput)
    (reads : Run.Meets (orderMachine new.orderId).step (fun pool input => confirmsWhatItRead pool input = true)
      { shared := new.world } inputs) :
    ReservesWhatItSells (orderAfter new inputs).shared := by
  have safe : ConfirmsSafely new.orderId (orderAfter new inputs) :=
    Run.invariant_of_meets (ConfirmsSafely new.orderId) (fun _ _ met safe => safe.step met) reads (.start new)
  exact Kept.holds safe fun _ => id

def unitsQuote (qty : Int) : OrderQuote where
  lines := [{ variantId := 5, productId := 6, skuCode := "SKU-5", productName := "Goods", qty, baseQty := qty
              unitPrice := 100000, lineGross := 100 * qty, itemDiscountAmount := 0, allocatedOrderDiscount := 0
              lineNet := 100 * qty, taxAmount := 0, lineTotal := 100 * qty, unitCostSnapshot := 60000 }]
  subtotal := 100 * qty
  itemDiscountTotal := 0
  orderDiscountTotal := 0
  promotionDiscountTotal := 0
  shippingFee := 0
  taxTotal := 0
  grandTotal := 100 * qty
  couponCode := none
  orderDiscountType := .none
  orderDiscountValue := 0

def unitOrder : NewOrder where
  orderId := 50
  code := "HD000050"
  dto := { branchId := 1, channelType := "ONLINE" }
  warehouseId := none
  quote := unitsQuote 1000
  coupons := {}

/-- A call takes turns undisturbed; inventory answers, and the pricing of an edit is for two units. -/
def orderTurns (thread count : Nat) : List OrderInput :=
  List.replicate count (.advance thread { newId := 300, saleWarehouse := .ok 3, quote := .ok (unitsQuote 2000) })

def editToTwo : OrderInput := .call (.updateDraftOrder [] none { lines := some [{ variantId := some 5, qty := 2000 }] })

/-- The edit comes first, and the confirmation reads what it wrote. -/
theorem confirmed_order_reserves_its_lines_edited :
    let run := editToTwo :: orderTurns 0 4 ++ .call (.confirmOrder 7 none {}) :: orderTurns 1 5
    (orderAfter unitOrder run).shared.db.order.map (·.orderStatus) = some .confirmed ∧
      ReservesWhatItSells (orderAfter unitOrder run).shared := by
  intro run
  exact ⟨by decide +kernel, confirmed_order_reserves_its_lines unitOrder run (by decide +kernel)⟩

/-- One unit is reserved, the order is edited to two, and the confirmation confirms the two. -/
theorem confirmed_order_sells_more_than_reserved :
    ¬∀ new inputs, ReservesWhatItSells (orderAfter new inputs).shared := by
  intro claimed
  let run := .call (.confirmOrder 7 none {}) :: orderTurns 0 3 ++ editToTwo :: orderTurns 1 4 ++ orderTurns 0 2
  have confirmed : ((orderAfter unitOrder run).shared.db.order.any fun order => order.orderStatus = .confirmed) = true := by
    decide +kernel
  have reserved : (orderAfter unitOrder run).shared.reservation.map (·.heldQty (.ofUuid 5)) = some 1000 := by
    decide +kernel
  have sold : soldQty (.ofUuid 5) (orderAfter unitOrder run).shared.db.items = 2000 := by decide +kernel
  obtain ⟨order, found, status⟩ := (any_eq_true _ _).mp confirmed
  obtain ⟨reservation, held, _, quantities⟩ := claimed unitOrder run order found (of_decide_eq_true status)
  rw [held, map_some, quantities, sold] at reserved
  cases reserved

end Sales
