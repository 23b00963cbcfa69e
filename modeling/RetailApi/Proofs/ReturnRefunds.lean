import RetailApi.Base.Keyed
import RetailApi.Proofs.OrderQuantities
import RetailApi.Sales.Returns

/-! The money a return gives back. Every return takes a rounded share of its line, the one that
brings the last unit back takes what is left, so a line is never refunded beyond its total. -/

namespace Sales

open Transaction ReturnTally Prod List Except

/-- The counters of a line: within what was sold, and paid back in full once all of it is back. -/
structure Balanced (sold total returned refunded : Int) : Prop where
  returned_nonneg : 0 ≤ returned
  returned_le : returned ≤ sold
  refunded_nonneg : 0 ≤ refunded
  refunded_le : refunded ≤ total
  full : returned = sold → refunded = total

variable {sold total returned refunded : Int} {orderItemId : Uuid} {req : ReturnLineRequest} {requests : List ReturnLineRequest}
  {requested : List (Uuid × Int)} {tally next start : ReturnTally} {result : CalculatedReturnResult}

theorem refundShare_balanced {asked share}
    (balanced : Balanced sold total returned refunded) (positive : 0 < asked) (within : returned + asked ≤ sold)
    (shared : refundShare total asked sold (returned + asked) (total - refunded) = .ok share) :
    0 ≤ share ∧ Balanced sold total (returned + asked) (refunded + share) := by
  obtain ⟨returnedNonneg, returnedLe, refundedNonneg, refundedLe, _⟩ := balanced
  unfold refundShare at shared
  split at shared
  · next last =>
    obtain rfl : total - refunded = share := ok.inj shared
    exact ⟨by omega, by omega, within, by omega, by omega, fun _ => by omega⟩
  · next partly =>
    simp only [eq_ok] at shared
    obtain ⟨rounded, divided, rfl⟩ := shared
    have product : 0 ≤ total * asked := Int.mul_nonneg (by omega) positive.le
    obtain ⟨_, _, nonnegative⟩ := roundDivHalfUp_ok product divided
    exact ⟨by omega, by omega, within, by omega, by omega, fun whole => absurd whole partly⟩

theorem Balanced.lowered {qty money} (balanced : Balanced sold total returned refunded)
    (qtyNonneg : 0 ≤ qty) (qtyLe : qty ≤ returned) (moneyNonneg : 0 ≤ money) (moneyLe : money ≤ refunded)
    (paid : qty = 0 → money = 0) : Balanced sold total (returned + -qty) (refunded + -money) := by
  obtain ⟨_, returnedLe, _, refundedLe, full⟩ := balanced
  refine ⟨by omega, by omega, by omega, by omega, fun whole => ?_⟩
  have nothing : qty = 0 := by omega
  rw [paid nothing, full (by omega)]
  omega

structure Shows (item : OrderItemEntity) (orig : OriginalOrderLineSnapshot) : Prop where
  soldQty : orig.soldQty = formatQtyMillis item.qty
  alreadyReturnedQty : orig.alreadyReturnedQty = formatQtyMillis item.returnedQty
  lineTotal : orig.lineTotal = item.lineTotal
  alreadyRefundedAmount : orig.alreadyRefundedAmount = item.refundedAmount

structure OrderItemEntity.Sound (item : OrderItemEntity) : Prop where
  sold : 0 < item.qty
  balanced : Balanced item.qty item.lineTotal item.returnedQty item.refundedAmount

theorem snapshotOf_ok {entry orig} (read : snapshotOf entry = .ok orig) : orig.orderItemId = entry.1 ∧ Shows entry.2 orig := by
  simp only [snapshotOf, toMoney, eq_ok, Option.some.injEq] at read
  obtain ⟨_, ⟨_, rfl, _, _, rfl⟩, _, _, _, _, _, _, _, ⟨_, rfl, _, _, rfl⟩, rfl⟩ := read
  exact ⟨rfl, rfl, rfl, rfl, rfl⟩

variable {item : OrderItemEntity} {orig : OriginalOrderLineSnapshot}

theorem Shows.soldMillis (shows : Shows item orig) (sound : item.Sound) :
    parseQtyMillis orig.soldQty = .ok item.qty := by
  rw [shows.soldQty]
  exact parseQtyMillis_format sound.sold

theorem OrderItemEntity.Sound.returned_read (sound : item.Sound) : (if isPositiveNumber (formatQtyMillis item.returnedQty) then
    parseQtyMillis (formatQtyMillis item.returnedQty) else .ok 0 : Except Failure Int) = .ok item.returnedQty := by
  have nonnegative := sound.balanced.returned_nonneg
  rw [isPositiveNumber_format nonnegative]
  by_cases positive : 0 < item.returnedQty
  · rw [if_pos (decide_eq_true positive)]
    exact parseQtyMillis_format positive
  · rw [if_neg (by simpa using positive)]
    congr 1
    omega

theorem Shows.returnedMillis (shows : Shows item orig) (sound : item.Sound) :
    orig.returnedMillis = .ok item.returnedQty := by
  rw [OriginalOrderLineSnapshot.returnedMillis, shows.alreadyReturnedQty]
  exact sound.returned_read

structure Snapshots (lines : List OriginalOrderLineSnapshot) (rowOf : Uuid → Option OrderItemEntity) : Prop where
  distinct : (lines.map (·.orderItemId)).Nodup
  shown : ∀ orig ∈ lines, ∃ item, rowOf orig.orderItemId = some item ∧ Shows item orig ∧ item.Sound

theorem lineOf_some {lines} (found : lineOf lines orderItemId = some orig) : orig ∈ lines ∧ orig.orderItemId = orderItemId := by
  refine ⟨mem_of_find?_eq_some found, ?_⟩
  simpa using find?_some found

/-- The quantity a request line asks back; a line that does not parse stops the return. -/
def ReturnLineRequest.asked (req : ReturnLineRequest) : Int :=
  match parseQtyMillis req.returnQty with
  | .ok millis => millis
  | .error _ => 0

theorem ReturnLineRequest.asked_eq {millis} (parsed : parseQtyMillis req.returnQty = .ok millis) : req.asked = millis := by
  unfold asked
  rw [parsed]

theorem ReturnLineRequest.asked_nonneg (req : ReturnLineRequest) : 0 ≤ req.asked := by
  unfold asked
  split
  · next parsed => exact (parseQtyMillis_pos parsed).le
  · exact le_rfl

def askedOf (orderItemId : Uuid) (requests : List ReturnLineRequest) : Int :=
  Keyed.total ReturnLineRequest.orderItemId ReturnLineRequest.asked orderItemId requests

theorem requestedMillisByItem_ok {lines} (collected : requestedMillisByItem lines requests = .ok requested) :
    (requested.map fst).Nodup ∧ ∀ orderItemId, Keyed.total fst snd orderItemId requested = askedOf orderItemId requests := by
  refine foldlM_links (fun finished current => (current.map fst).Nodup ∧
    ∀ orderItemId, Keyed.total fst snd orderItemId current = askedOf orderItemId finished)
    ⟨nodup_nil, fun _ => rfl⟩ ?_ collected
  intro finished req rest current next _ linked stepped
  simp only [eq_ok] at stepped
  obtain ⟨_, _, millis, parsed, rfl⟩ := stepped
  have kept : ∀ first second, (addRequested first second).1 = first.1 := fun _ _ => rfl
  refine ⟨Merge.nodup_keys_insert kept _ linked.1, fun orderItemId => ?_⟩
  have added : Keyed.total fst snd orderItemId (Merge.insert fst addRequested (req.orderItemId, millis) current) =
      Keyed.total fst snd orderItemId current + if req.orderItemId = orderItemId then millis else 0 := by
    apply Merge.sum_insert
    intro first second same
    change (if first.1 = orderItemId then first.2 + second.2 else 0) =
      (if first.1 = orderItemId then first.2 else 0) + if second.1 = orderItemId then second.2 else 0
    rw [← same]
    split <;> omega
  rw [added, linked.2 orderItemId, askedOf, askedOf, Keyed.total_append, Keyed.total_cons, Keyed.total_nil, add_zero,
    ReturnLineRequest.asked_eq parsed]

theorem asked_le_left {lines} {rowOf}
    (read : Snapshots lines rowOf) (collected : requestedMillisByItem lines requests = .ok requested) {checked}
    (passed : requested.mapM (assertReturnable lines) = .ok checked)
    (found : rowOf orderItemId = some item) (sound : item.Sound) :
    item.returnedQty + askedOf orderItemId requests ≤ item.qty := by
  obtain ⟨distinct, totals⟩ := requestedMillisByItem_ok collected
  rw [← totals orderItemId]
  by_cases listed : ∃ entry ∈ requested, entry.1 = orderItemId
  · obtain ⟨entry, member, rfl⟩ := listed
    rw [Keyed.total_of_nodup distinct member]
    obtain ⟨_, _, accepted⟩ := mapM_made passed member
    simp only [assertReturnable, lineAt, eq_ok] at accepted
    obtain ⟨orig, line, sold, soldParsed, returned, returnedParsed, within⟩ := accepted
    obtain ⟨inside, same⟩ := lineOf_some line
    obtain ⟨row, rowFound, shows, _⟩ := read.shown orig inside
    obtain rfl : row = item := by
      rw [same, found, Option.some.injEq] at rowFound
      exact rowFound.symm
    obtain rfl : row.qty = sold := ok.inj ((shows.soldMillis sound).symm.trans soldParsed)
    obtain rfl : row.returnedQty = returned := ok.inj ((shows.returnedMillis sound).symm.trans returnedParsed)
    omega
  · have absent : ∀ entry ∈ requested, entry.1 ≠ orderItemId := fun entry member same => listed ⟨entry, member, same⟩
    rw [Keyed.total_of_absent absent]
    have bound := sound.balanced.returned_le
    omega

/-- Both counters of a line after some lines of the return were calculated. -/
def returnedOn (orderItemId : Uuid) (lines : List CalculatedReturnLine) : Int :=
  Keyed.total CalculatedReturnLine.orderItemId CalculatedReturnLine.returnQty orderItemId lines

def refundedOn (orderItemId : Uuid) (lines : List CalculatedReturnLine) : Int :=
  Keyed.total CalculatedReturnLine.orderItemId CalculatedReturnLine.refundAmount orderItemId lines

theorem enter_ok (shows : Shows item orig) (sound : item.Sound)
    (entered : tally.enter orig = .ok next) : next.lines = tally.lines ∧ (∀ orderItemId, next.returnedMillis orderItemId =
        if orderItemId = orig.orderItemId then item.returnedQty else tally.returnedMillis orderItemId) ∧
      ∀ orderItemId, next.refundedVnd orderItemId =
        if orderItemId = orig.orderItemId then item.refundedAmount else tally.refundedVnd orderItemId := by
  simp only [enter, eq_ok, shows.returnedMillis sound, ok.injEq] at entered
  obtain ⟨_, rfl, refunded, parsed, rfl⟩ := entered
  rw [shows.alreadyRefundedAmount] at parsed
  obtain ⟨rfl, _⟩ := parseVndAmount_ok parsed
  refine ⟨rfl, fun orderItemId => ?_, fun orderItemId => ?_⟩
  · simp only [returnedMillis, Table.lookup_insert_if]
    split <;> rfl
  · simp only [refundedVnd, Table.lookup_insert_if]
    split <;> rfl

variable {lines : List OriginalOrderLineSnapshot} {rowOf : Uuid → Option OrderItemEntity}

theorem entered_ok (read : Snapshots lines rowOf) (entered : lines.foldlM enter {} = .ok start) : start.lines = [] ∧
      ∀ orig ∈ lines, ∀ item, Shows item orig → item.Sound →
        start.returnedMillis orig.orderItemId = item.returnedQty ∧ start.refundedVnd orig.orderItemId = item.refundedAmount := by
  refine foldlM_links (fun finished tally => tally.lines = [] ∧ ∀ orig ∈ finished, ∀ item, Shows item orig → item.Sound →
    tally.returnedMillis orig.orderItemId = item.returnedQty ∧ tally.refundedVnd orig.orderItemId = item.refundedAmount)
    ⟨rfl, fun _ member => by cases member⟩ ?_ entered
  intro finished orig rest tally next whole linked stepped
  obtain ⟨row, _, rowShows, rowSound⟩ := read.shown orig (by simp [whole])
  obtain ⟨sameLines, returned, refunded⟩ := enter_ok rowShows rowSound stepped
  have distinct := read.distinct
  rw [whole, map_append, map_cons, nodup_append] at distinct
  refine ⟨sameLines.trans linked.1, fun other member item shows sound => ?_⟩
  rw [returned, refunded]
  rcases mem_append.mp member with earlier | last
  · have different : other.orderItemId ≠ orig.orderItemId :=
      distinct.2.2 other.orderItemId (mem_map_of_mem earlier) orig.orderItemId (.head _)
    rw [if_neg different, if_neg different]
    exact linked.2 other earlier item shows sound
  · obtain rfl := mem_singleton.mp last
    have money := enter_ok shows sound stepped
    have same := money.2.1 other.orderItemId
    have paid := money.2.2 other.orderItemId
    rw [if_pos rfl] at same paid
    rw [← returned, ← refunded]
    exact ⟨same, paid⟩

/-- What holds of the counters while the lines of a request are calculated one by one. -/
structure Tallied (lines : List OriginalOrderLineSnapshot) (finished : List ReturnLineRequest) (tally : ReturnTally) :
    Prop where
  returned : ∀ orig ∈ lines, ∀ item, Shows item orig → item.Sound →
    tally.returnedMillis orig.orderItemId = item.returnedQty + returnedOn orig.orderItemId tally.lines
  refunded : ∀ orig ∈ lines, ∀ item, Shows item orig → item.Sound →
    tally.refundedVnd orig.orderItemId = item.refundedAmount + refundedOn orig.orderItemId tally.lines
  balanced : ∀ orig ∈ lines, ∀ item, Shows item orig → item.Sound →
    Balanced item.qty item.lineTotal (tally.returnedMillis orig.orderItemId) (tally.refundedVnd orig.orderItemId)
  asked : ∀ orderItemId, returnedOn orderItemId tally.lines = askedOf orderItemId finished
  positive : ∀ line ∈ tally.lines, 0 < line.returnQty ∧ 0 ≤ line.refundAmount
  known : ∀ line ∈ tally.lines, line.orderItemId ∈ lines.map (·.orderItemId)

theorem tallied_start (read : Snapshots lines rowOf)
    (entered : lines.foldlM enter {} = .ok start) : Tallied lines [] start := by
  obtain ⟨empty, counters⟩ := entered_ok read entered
  constructor
  · intro orig member item shows sound
    rw [(counters orig member item shows sound).1, empty]
    exact (add_zero _).symm
  · intro orig member item shows sound
    rw [(counters orig member item shows sound).2, empty]
    exact (add_zero _).symm
  · intro orig member item shows sound
    rw [(counters orig member item shows sound).1, (counters orig member item shows sound).2]
    exact sound.balanced
  · intro orderItemId
    rw [empty]
    rfl
  · simp [empty]
  · simp [empty]

/-- One calculated line: what it adds to the counters of its own line, and nothing elsewhere. -/
structure Calculated (tally next : ReturnTally) (req : ReturnLineRequest) (item : OrderItemEntity)
    (line : CalculatedReturnLine) : Prop where
  asked : 0 < req.asked
  share : refundShare item.lineTotal req.asked item.qty (tally.returnedMillis req.orderItemId + req.asked)
    (item.lineTotal - tally.refundedVnd req.orderItemId) = .ok line.refundAmount
  orderItemId : line.orderItemId = req.orderItemId
  returnQty : line.returnQty = req.asked
  lines : next.lines = tally.lines ++ [line]
  returned : ∀ orderItemId, next.returnedMillis orderItemId =
    tally.returnedMillis orderItemId + if req.orderItemId = orderItemId then req.asked else 0
  refunded : ∀ orderItemId, next.refundedVnd orderItemId =
    tally.refundedVnd orderItemId + if req.orderItemId = orderItemId then line.refundAmount else 0

theorem calculateReturnLine_ok (read : Snapshots lines rowOf)
    (calculated : calculateReturnLine lines tally req = .ok next) : ∃ orig ∈ lines, ∃ item line,
      orig.orderItemId = req.orderItemId ∧ Shows item orig ∧ item.Sound ∧ Calculated tally next req item line := by
  simp only [calculateReturnLine, lineAt, eq_ok] at calculated
  obtain ⟨orig, found, sold, soldParsed, asked, askedParsed, total, totalParsed, share, shared, unit, _, unitAmount, _,
    amount, amountParsed, rfl⟩ := calculated
  obtain ⟨member, same⟩ := lineOf_some found
  obtain ⟨item, _, shows, sound⟩ := read.shown orig member
  obtain rfl : item.qty = sold := ok.inj ((shows.soldMillis sound).symm.trans soldParsed)
  rw [shows.lineTotal] at totalParsed
  obtain ⟨rfl, _⟩ := parseVndAmount_ok totalParsed
  obtain rfl := vndNumber_ok amountParsed
  obtain rfl := ReturnLineRequest.asked_eq askedParsed
  refine ⟨orig, member, item, {
    orderItemId := orig.orderItemId, variantId := orig.variantId, skuCode := orig.skuCode
    productName := orig.productName, returnQty := req.asked
    remainingReturnableAfter := item.qty - (tally.returnedMillis req.orderItemId + req.asked)
    unitRefundAmount := unitAmount, refundAmount := amount, disposition := req.disposition, reason := req.reason },
    same, shows, sound, ?_⟩
  constructor
  · exact parseQtyMillis_pos askedParsed
  · exact shared
  · exact same
  · dsimp only
  · dsimp only
  · intro orderItemId
    simp only [returnedMillis, Table.lookup_insert_if]
    by_cases here : orderItemId = req.orderItemId
    · rw [if_pos here, if_pos here.symm, here, Option.getD_some]
    · rw [if_neg here, if_neg (Ne.symm here), add_zero]
  · intro orderItemId
    simp only [refundedVnd, Table.lookup_insert_if]
    by_cases here : orderItemId = req.orderItemId
    · rw [if_pos here, if_pos here.symm, here, Option.getD_some]
    · rw [if_neg here, if_neg (Ne.symm here), add_zero]

theorem Shows.agree {first second} (left : Shows first orig) (leftSound : first.Sound)
    (right : Shows second orig) (rightSound : second.Sound) : first.qty = second.qty ∧
      first.returnedQty = second.returnedQty ∧ first.lineTotal = second.lineTotal ∧
      first.refundedAmount = second.refundedAmount :=
  ⟨ok.inj ((left.soldMillis leftSound).symm.trans (right.soldMillis rightSound)),
    ok.inj ((left.returnedMillis leftSound).symm.trans (right.returnedMillis rightSound)),
    left.lineTotal.symm.trans right.lineTotal, left.alreadyRefundedAmount.symm.trans right.alreadyRefundedAmount⟩

theorem Tallied.step (read : Snapshots lines rowOf) {finished rest}
    (tallied : Tallied lines finished tally) (within : ∀ orig ∈ lines, ∀ item, Shows item orig → item.Sound →
      item.returnedQty + askedOf orig.orderItemId (finished ++ req :: rest) ≤ item.qty)
    (calculated : calculateReturnLine lines tally req = .ok next) : Tallied lines (finished ++ [req]) next := by
  obtain ⟨home, homeIn, row, line, homeId, homeShows, homeSound, done⟩ := calculateReturnLine_ok read calculated
  have returnedStep : ∀ orderItemId, returnedOn orderItemId next.lines =
      returnedOn orderItemId tally.lines + if req.orderItemId = orderItemId then req.asked else 0 := by
    intro orderItemId
    simp [returnedOn, done.lines, done.orderItemId, done.returnQty]
  have refundedStep : ∀ orderItemId, refundedOn orderItemId next.lines =
      refundedOn orderItemId tally.lines + if req.orderItemId = orderItemId then line.refundAmount else 0 := by
    intro orderItemId
    simp [refundedOn, done.lines, done.orderItemId]
  -- only the line the request names moves; there the share is taken from what is left
  have home_balanced : 0 ≤ line.refundAmount ∧ Balanced row.qty row.lineTotal
      (tally.returnedMillis req.orderItemId + req.asked) (tally.refundedVnd req.orderItemId + line.refundAmount) := by
    have before := tallied.balanced home homeIn row homeShows homeSound
    have bound := within home homeIn row homeShows homeSound
    have returned := tallied.returned home homeIn row homeShows homeSound
    have asked := tallied.asked home.orderItemId
    rw [homeId] at before bound returned asked
    have rest_nonneg : 0 ≤ askedOf req.orderItemId rest := Keyed.total_nonneg fun other _ => other.asked_nonneg
    have split : askedOf req.orderItemId (finished ++ req :: rest) =
        askedOf req.orderItemId finished + (req.asked + askedOf req.orderItemId rest) := by
      simp [askedOf]
    exact refundShare_balanced before done.asked (by omega) done.share
  constructor
  · intro orig member item shows sound
    rw [done.returned, returnedStep, tallied.returned orig member item shows sound]
    omega
  · intro orig member item shows sound
    rw [done.refunded, refundedStep, tallied.refunded orig member item shows sound]
    omega
  · intro orig member item shows sound
    rw [done.returned, done.refunded]
    by_cases here : req.orderItemId = orig.orderItemId
    · have same : orig = home := inj_on_of_nodup_map read.distinct member homeIn (here ▸ homeId.symm)
      subst same
      obtain ⟨qty, _, total, _⟩ := shows.agree sound homeShows homeSound
      rw [if_pos here, if_pos here, qty, total, ← here]
      exact home_balanced.2
    · rw [if_neg here, if_neg here, add_zero, add_zero]
      exact tallied.balanced orig member item shows sound
  · intro orderItemId
    rw [returnedStep, tallied.asked]
    simp [askedOf]
  · rw [done.lines]
    exact forall_concat tallied.positive ⟨done.returnQty ▸ done.asked, home_balanced.1⟩
  · rw [done.lines]
    refine forall_concat tallied.known ?_
    rw [done.orderItemId, ← homeId]
    exact mem_map_of_mem homeIn

theorem calculateReturnRefund_tallied (read : Snapshots lines rowOf)
    (calculated : calculateReturnRefund lines requests = .ok result) :
    ∃ tally, Tallied lines requests tally ∧ result.lines = tally.lines := by
  simp only [calculateReturnRefund, eq_ok] at calculated
  obtain ⟨_, _, requested, collected, checked, passed, start, entered, tally, ran, _, _, _, _, rfl⟩ := calculated
  have within : ∀ orig ∈ lines, ∀ item, Shows item orig → item.Sound →
      item.returnedQty + askedOf orig.orderItemId requests ≤ item.qty := by
    intro orig member item shows sound
    obtain ⟨row, found, rowShows, rowSound⟩ := read.shown orig member
    obtain ⟨qty, returned, _⟩ := shows.agree sound rowShows rowSound
    rw [qty, returned]
    exact asked_le_left read collected passed found rowSound
  refine ⟨tally, foldlM_links (Tallied lines) (tallied_start read entered) ?_ ran, rfl⟩
  intro finished req rest middle next whole linked stepped
  exact linked.step read (by rwa [← whole]) stepped

theorem calculateReturnRefund_ok (read : Snapshots lines rowOf) (calculated : calculateReturnRefund lines requests = .ok result) :
    (∀ line ∈ result.lines, 0 < line.returnQty ∧ 0 ≤ line.refundAmount ∧ line.orderItemId ∈ lines.map (·.orderItemId)) ∧
      ∀ orig ∈ lines, ∀ item, Shows item orig → item.Sound → Balanced item.qty item.lineTotal
        (item.returnedQty + returnedOn orig.orderItemId result.lines)
        (item.refundedAmount + refundedOn orig.orderItemId result.lines) := by
  obtain ⟨tally, tallied, same⟩ := calculateReturnRefund_tallied read calculated
  rw [same]
  refine ⟨fun line member => ⟨(tallied.positive line member).1, (tallied.positive line member).2, tallied.known line member⟩,
    fun orig member item shows sound => ?_⟩
  rw [← tallied.returned orig member item shows sound, ← tallied.refunded orig member item shows sound]
  exact tallied.balanced orig member item shows sound

end Sales
