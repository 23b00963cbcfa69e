import RetailApi.Proofs.Tenders
import RetailApi.Sales.Quote

/-! What a quote adds up to: the order's discount over its lines, the lines over the order, and
how far the discount a caller may give reaches. -/

namespace Sales

open Transaction JsString List JsNumber Int

def halfUp (numerator denominator : Int) : Int := (numerator + denominator / 2) / denominator

variable {numerator denominator combined order promotion limit : Int} {line : IntermediateLine}
  {lines allocated : List IntermediateLine}

theorem roundDivHalfUp_of_nonneg (nonneg : 0 ≤ numerator) (positive : 0 < denominator) :
    roundDivHalfUp numerator denominator = .ok (halfUp numerator denominator) := by
  rw [roundDivHalfUp, ensure, if_pos positive, if_pos nonneg]
  rfl

theorem halfUp_nonneg (nonneg : 0 ≤ numerator) (positive : 0 < denominator) : 0 ≤ halfUp numerator denominator := by
  apply ediv_nonneg _ positive.le
  omega

theorem halfUp_le {part whole amount} (nonneg : 0 ≤ amount) (le : part ≤ whole) (positive : 0 < whole) :
    halfUp (part * amount) whole ≤ amount := by
  apply Int.le_of_lt_add_one
  apply Int.ediv_lt_of_lt_mul positive
  have most := mul_le_mul_of_nonneg_right le nonneg
  calc part * amount + whole / 2 < whole * amount + whole := by omega
    _ = (amount + 1) * whole := by ring

theorem basisPoints_bounds {percent} (nonneg : 0 ≤ percent) (most : percent ≤ 100) :
    0 ≤ basisPoints percent ∧ basisPoints percent ≤ 10000 := by
  have small : |percent * 100| < 2 ^ (53 - 0) := by
    rw [abs_of_nonneg (by linarith)]
    norm_num
    linarith
  have low := (nearest_between (Nat.zero_le 52) small 0).1
  have high := (nearest_between (Nat.zero_le 52) small 10000).2
  norm_num at low high
  have least := low nonneg
  have largest := high (by linarith)
  constructor
  · apply floor_nonneg.mpr
    linarith
  · apply le_of_lt_add_one
    apply floor_lt.mpr
    push_cast
    linarith

theorem readPercent_some {number} {percent} (read : readPercent number = some percent) : 0 ≤ percent ∧ percent ≤ 100 := by
  obtain ⟨_, bounds⟩ := Option.filter_eq_some_iff.mp read
  exact of_decide_eq_true bounds

theorem calculateItemDiscount_ok {gross discount type value}
    (nonneg : 0 ≤ gross) (ran : calculateItemDiscount gross type value = .ok discount) :
    0 ≤ discount ∧ discount ≤ gross := by
  unfold calculateItemDiscount at ran
  split at ran
  · obtain rfl := Except.ok.inj ran
    exact ⟨le_rfl, nonneg⟩
  · obtain rfl := Except.ok.inj ran
    exact ⟨le_rfl, nonneg⟩
  · simp only [parseVndNumber, eq_ok, parseVndAmount_eq_ok] at ran
    obtain ⟨_, ⟨_, _, _, least, _, rfl⟩, _, most, rfl⟩ := ran
    exact ⟨least, most⟩
  · simp only [eq_ok] at ran
    obtain ⟨percent, read, divided⟩ := ran
    obtain ⟨low, high⟩ := readPercent_some read
    obtain ⟨least, most⟩ := basisPoints_bounds low high
    rw [mul_comm, roundDivHalfUp_of_nonneg (mul_nonneg least nonneg) (by decide)] at divided
    obtain rfl := Except.ok.inj divided
    exact ⟨halfUp_nonneg (mul_nonneg least nonneg) (by decide), halfUp_le nonneg most (by decide)⟩

/-- What is left of a requested line after its own discount, by quantity, catalog price and that discount. -/
def QuoteLineInput.remaining (catalogMap : Uuid → Option AuthoritativeCatalogVariant) (reqLine : QuoteLineInput) : Int :=
  let price := (catalogMap reqLine.variantId).elim 0 (·.unitPrice)
  let gross := halfUp ((parseQtyMillis reqLine.qty).toOption.getD 0 * price) 1000
  gross - (calculateItemDiscount gross reqLine.discountType reqLine.discountValue).toOption.getD 0

structure IntermediateLine.Priced (line : IntermediateLine) : Prop where
  after : line.lineAfterItemDiscountVnd = line.lineGrossVnd - line.itemDiscountVnd
  discount : 0 ≤ line.itemDiscountVnd
  nonneg : 0 ≤ line.lineAfterItemDiscountVnd
  unallocated : line.allocatedOrderDiscountVnd = 0
  tax : 0 ≤ line.taxRateBps

theorem priceLine_ok {catalogMap} {lineNo reqLine}
    (priced : priceLine catalogMap lineNo reqLine = .ok line) :
    line.Priced ∧ line.lineAfterItemDiscountVnd = reqLine.remaining catalogMap := by
  simp only [priceLine, eq_ok, parseVndAmount_eq_ok] at priced
  obtain ⟨catalog, found, _, _, _, ⟨_, price, _, rfl⟩, _, _, qty, parsed, factor, _, gross, grossed, discount, discounted, rate,
    taxed, rfl⟩ := priced
  have positive : 0 ≤ qty := by
    simp only [parseQtyMillis, eq_ok] at parsed
    obtain ⟨_, _, _, _, rfl⟩ := parsed
    exact natCast_nonneg _
  have product := mul_nonneg positive price
  rw [roundDivHalfUp_of_nonneg product (by decide)] at grossed
  obtain rfl := Except.ok.inj grossed
  have bounds := calculateItemDiscount_ok (halfUp_nonneg product (by decide)) discounted
  have taxBounds : 0 ≤ rate ∧ rate ≤ 100 := by
    unfold readTaxRate at taxed
    split at taxed
    · obtain rfl := Except.ok.inj taxed
      exact ⟨le_rfl, by decide +kernel⟩
    · exact readPercent_some (required_eq_ok.mp taxed)
  refine ⟨⟨rfl, bounds.1, sub_nonneg_of_le bounds.2, rfl, (basisPoints_bounds taxBounds.1 taxBounds.2).1⟩, ?_⟩
  simp only [QuoteLineInput.remaining, found, parsed, Option.elim, Except.toOption, Option.getD_some, discounted]

def share (combined net amount : Int) : Int := if 0 < amount then halfUp (combined * amount) net else 0

theorem share_bounds {combined net amount} (nonneg : 0 ≤ combined) (most : combined ≤ net) (positive : 0 < net) :
    0 ≤ share combined net amount ∧ (0 ≤ amount → share combined net amount ≤ amount) := by
  unfold share
  split
  · next some => exact ⟨halfUp_nonneg (mul_nonneg nonneg some.le) positive, fun _ => halfUp_le some.le most positive⟩
  · exact ⟨le_rfl, id⟩

def IntermediateLine.allocate (line : IntermediateLine) (amount : Int) : IntermediateLine :=
  { line with allocatedOrderDiscountVnd := amount }

theorem proRate_ok {net shared} (nonneg : 0 ≤ combined) (positive : 0 < net)
    (priced : line.Priced) (ran : proRate combined net line = .ok shared) :
    shared = line.allocate (share combined net line.lineAfterItemDiscountVnd) := by
  unfold proRate at ran
  unfold share
  split at ran
  · next some =>
    rw [roundDivHalfUp_of_nonneg (mul_nonneg nonneg some.le) positive] at ran
    rw [if_pos some]
    exact (Except.ok.inj ran).symm
  · next none =>
    rw [if_neg none, ← priced.unallocated]
    exact (Except.ok.inj ran).symm

theorem addResidual_split (some : ∃ line ∈ lines, 0 < line.lineAfterItemDiscountVnd) (residual : Int) :
    ∃ before last rest, lines = before ++ last :: rest ∧ 0 < last.lineAfterItemDiscountVnd ∧
      (∀ line ∈ rest, ¬0 < line.lineAfterItemDiscountVnd) ∧
      addResidual residual lines = before ++ last.allocate (last.allocatedOrderDiscountVnd + residual) :: rest := by
  induction lines with
  | nil => obtain ⟨_, member, _⟩ := some; cases member
  | cons line lines inner =>
    by_cases later : ∃ other ∈ lines, 0 < other.lineAfterItemDiscountVnd
    · obtain ⟨before, last, rest, rfl, positive, nothing, added⟩ := inner later
      refine ⟨line :: before, last, rest, rfl, positive, nothing, ?_⟩
      rw [addResidual, if_pos (any_eq_true.mpr (by simpa only [decide_eq_true_eq] using later)), added]
      rfl
    · have nothing : ∀ other ∈ lines, ¬0 < other.lineAfterItemDiscountVnd := by simpa using later
      obtain ⟨found, member, positive⟩ := some
      rcases mem_cons.mp member with rfl | inside
      · refine ⟨[], found, lines, rfl, positive, nothing, ?_⟩
        rw [addResidual, if_neg (by simpa using later), if_pos positive]
        rfl
      · exact absurd positive (nothing found inside)

theorem allocateOrderDiscount_ok (priced : ∀ line ∈ lines, line.Priced) (nonneg : 0 < combined)
    (most : combined ≤ (lines.map (·.lineAfterItemDiscountVnd)).sum)
    (ran : allocateOrderDiscount combined (lines.map (·.lineAfterItemDiscountVnd)).sum lines = .ok allocated) :
    ∃ before last rest, lines = before ++ last :: rest ∧ 0 < last.lineAfterItemDiscountVnd ∧
      (∀ line ∈ rest, line.lineAfterItemDiscountVnd = 0) ∧ allocated = before.map (fun line => line.allocate
          (share combined (lines.map (·.lineAfterItemDiscountVnd)).sum line.lineAfterItemDiscountVnd)) ++
        last.allocate (combined - (before.map fun line =>
          share combined (lines.map (·.lineAfterItemDiscountVnd)).sum line.lineAfterItemDiscountVnd).sum) :: rest := by
  generalize total : (lines.map (·.lineAfterItemDiscountVnd)).sum = net at most ran ⊢
  have positive : 0 < net := by omega
  rw [allocateOrderDiscount, if_pos ⟨nonneg, positive⟩] at ran
  simp only [eq_ok] at ran
  obtain ⟨shared, mapped, rfl⟩ := ran
  have same : shared = lines.map fun line => line.allocate (share combined net line.lineAfterItemDiscountVnd) := by
    have each := mapM_eq_ok.mp mapped
    clear mapped total
    induction each with
    | nil => rfl
    | cons first _ inner =>
      rw [proRate_ok nonneg.le positive (priced _ (.head _)) first, inner fun other member => priced other (.tail _ member)]
      rfl
  have some : ∃ line ∈ shared, 0 < line.lineAfterItemDiscountVnd := by
    by_contra none
    have zero : (lines.map (·.lineAfterItemDiscountVnd)).sum = 0 := by
      refine sum_eq_zero (forall_mem_map.mpr fun line member => ?_)
      apply le_antisymm _ (priced line member).nonneg
      exact not_lt.mp fun some => none ⟨line.allocate (share combined net line.lineAfterItemDiscountVnd),
        same ▸ mem_map.mpr ⟨line, member, rfl⟩, some⟩
    omega
  obtain ⟨before, last, rest, split, left, nothing, added⟩ := addResidual_split some
    (combined - (shared.map (·.allocatedOrderDiscountVnd)).sum)
  obtain ⟨first, tail, rfl, rfl, others⟩ := map_eq_append_iff.mp (same.symm.trans split)
  obtain ⟨own, after, rfl, rfl, rfl⟩ := map_eq_cons_iff.mp others
  have zero : ∀ line ∈ after, line.lineAfterItemDiscountVnd = 0 := by
    intro line member
    have least := (priced line (by simp [member])).nonneg
    have none := nothing (line.allocate _) (mem_map.mpr ⟨line, member, rfl⟩)
    exact le_antisymm (not_lt.mp none) least
  have still : after.map (fun line => line.allocate (share combined net line.lineAfterItemDiscountVnd)) = after := by
    rw [map_congr_left (g := id), map_id]
    intro line member
    have unallocated := (priced line (by simp [member])).unallocated
    rw [share, if_neg (by rw [zero line member]; exact lt_irrefl 0), ← unallocated]
    rfl
  refine ⟨first, own, after, rfl, left, zero, ?_⟩
  have zeros : (after.map (·.allocatedOrderDiscountVnd)).sum = 0 := by
    refine sum_eq_zero (forall_mem_map.mpr fun line member => ?_)
    exact (priced line (by simp [member])).unallocated
  have sum : (shared.map (·.allocatedOrderDiscountVnd)).sum =
      (first.map fun line => share combined net line.lineAfterItemDiscountVnd).sum +
        share combined net own.lineAfterItemDiscountVnd := by
    rw [split, still, map_append, map_map, map_cons, sum_append, sum_cons, zeros, add_zero]
    rfl
  rw [added, still, sum]
  congr 2
  apply congrArg own.allocate
  change share combined net own.lineAfterItemDiscountVnd + _ = _
  omega

theorem calculateLine_ok {quoted} (ran : calculateLine line = .ok quoted) :
    quoted.lineGross = line.lineGrossVnd ∧ quoted.itemDiscountAmount = line.itemDiscountVnd ∧
      quoted.lineAfterItemDiscount = line.lineAfterItemDiscountVnd ∧
      quoted.allocatedOrderDiscount = line.allocatedOrderDiscountVnd ∧
      quoted.lineNet = line.lineAfterItemDiscountVnd - line.allocatedOrderDiscountVnd ∧
      roundDivHalfUp (quoted.lineNet * line.taxRateBps) 10000 = .ok quoted.taxAmount ∧
      quoted.lineTotal = quoted.lineNet + quoted.taxAmount ∧ quoted.unitPrice = line.unitPriceVnd := by
  simp only [calculateLine, eq_ok, vndNumber_eq_ok] at ran
  obtain ⟨tax, rounded, _, ⟨_, rfl⟩, _, ⟨_, rfl⟩, _, ⟨_, rfl⟩, _, ⟨_, rfl⟩, _, ⟨_, rfl⟩, _, ⟨_, rfl⟩, _, ⟨_, rfl⟩, _, ⟨_, rfl⟩,
    _, _, _, _, rfl⟩ := ran
  exact ⟨rfl, rfl, rfl, rfl, rfl, rounded, rfl, rfl⟩

structure QuotedOrder.MadeOf (quote : QuotedOrder) (input : QuoteOrderInput)
    (catalogMap : Uuid → Option AuthoritativeCatalogVariant) (lines allocated : List IntermediateLine) (order promotion : Int) :
    Prop where
  made : input.lines.zipIdx.mapM (fun (reqLine, i) => priceLine catalogMap (i + 1) reqLine) = .ok lines
  priced : ∀ line ∈ lines, line.Priced
  amounts : lines.map (·.lineAfterItemDiscountVnd) = input.lines.map (·.remaining catalogMap)
  ordered : calculateItemDiscount (lines.map (·.lineAfterItemDiscountVnd)).sum input.orderDiscountType
    input.orderDiscountValue = .ok order
  promoted : promotion = input.promotionDiscountAmount.getD 0 ∧ 0 ≤ promotion
  most : order + promotion ≤ (lines.map (·.lineAfterItemDiscountVnd)).sum
  shared : allocateOrderDiscount (order + promotion) (lines.map (·.lineAfterItemDiscountVnd)).sum lines = .ok allocated
  quoted : allocated.mapM calculateLine = .ok quote.lines
  subtotal : quote.subtotal = (lines.map (·.lineGrossVnd)).sum
  itemDiscount : quote.itemDiscountTotal = (lines.map (·.itemDiscountVnd)).sum
  orderDiscount : quote.orderDiscountTotal = order ∧ quote.promotionDiscountTotal = promotion
  total : quote.totalDiscount = quote.itemDiscountTotal + (order + promotion)
  percent : quote.effectiveDiscountPercent = Sales.effectiveDiscountPercent quote.totalDiscount quote.subtotal
  tax : quote.taxTotal = (quote.lines.map (·.taxAmount)).sum
  grand : quote.grandTotal = quote.subtotal - quote.totalDiscount + quote.taxTotal + quote.shippingFee

variable {input : QuoteOrderInput} {catalogMap : Uuid → Option AuthoritativeCatalogVariant} {quote : QuotedOrder}

theorem net_sum {lines : List IntermediateLine} (priced : ∀ line ∈ lines, line.Priced) :
    (lines.map (·.lineAfterItemDiscountVnd)).sum = (lines.map (·.lineGrossVnd)).sum - (lines.map (·.itemDiscountVnd)).sum := by
  rw [← sum_map_sub]
  exact congrArg sum (map_congr_left fun line member => (priced line member).after)

theorem calculateOrderQuote_ok (accepted : calculateOrderQuote input catalogMap = .ok quote) :
    ∃ lines allocated order promotion, quote.MadeOf input catalogMap lines allocated order promotion := by
  simp only [calculateOrderQuote, eq_ok, vndNumber_eq_ok, parseVndAmount_eq_ok] at accepted
  obtain ⟨_, _, lines, mapped, order, ordered, _, ⟨_, promotion, _, rfl⟩, _, most, allocated, shared, quoted, calculated, _,
    ⟨_, _, _, rfl⟩, _, ⟨_, rfl⟩, _, ⟨_, rfl⟩, _, ⟨_, rfl⟩, _, ⟨_, rfl⟩, _, ⟨_, rfl⟩, _, ⟨_, rfl⟩, _, ⟨_, rfl⟩, _, ⟨_, rfl⟩, rfl⟩ :=
    accepted
  have priced : ∀ line ∈ lines, line.Priced := by
    intro line member
    obtain ⟨_, _, made⟩ := mapM_mem mapped member
    exact (priceLine_ok made).1
  rw [← net_sum priced] at ordered most shared
  have amounts : lines.map (·.lineAfterItemDiscountVnd) = input.lines.zipIdx.map fun entry => entry.1.remaining catalogMap :=
    mapM_map_eq (fun _ _ made => (priceLine_ok made).2) mapped
  rw [← Function.comp_def (fun reqLine : QuoteLineInput => reqLine.remaining catalogMap) Prod.fst, ← map_map,
    zipIdx_map_fst] at amounts
  exact ⟨lines, allocated, _, _, mapped, priced, amounts, ordered, ⟨rfl, promotion⟩, most, shared, calculated, rfl, rfl, ⟨rfl, rfl⟩,
    rfl, rfl, rfl, rfl⟩

namespace QuotedOrder.MadeOf

variable {lines allocated : List IntermediateLine} {order promotion : Int}
  (made : quote.MadeOf input catalogMap lines allocated order promotion)
include made

theorem net_nonneg : 0 ≤ (lines.map (·.lineAfterItemDiscountVnd)).sum := by
  refine sum_nonneg (forall_mem_map.mpr fun line member => ?_)
  exact (made.priced line member).nonneg

theorem discount_nonneg : 0 ≤ order + promotion :=
  add_nonneg (calculateItemDiscount_ok made.net_nonneg made.ordered).1 made.promoted.2

theorem allocation : (allocated.map (·.allocatedOrderDiscountVnd)).sum = order + promotion ∧
    allocated.map (·.allocate 0) = lines := by
  have unmoved : ∀ rest : List IntermediateLine, (∀ line ∈ rest, line.Priced) → rest.map (·.allocate 0) = rest := by
    intro rest priced
    rw [map_congr_left (g := id), map_id]
    intro line member
    rw [← (priced line member).unallocated]
    rfl
  have zeros : ∀ rest : List IntermediateLine, (∀ line ∈ rest, line.Priced) → (rest.map (·.allocatedOrderDiscountVnd)).sum = 0 := by
    intro rest priced
    refine sum_eq_zero (forall_mem_map.mpr fun line member => ?_)
    exact (priced line member).unallocated
  rcases made.discount_nonneg.eq_or_lt with none | some
  · have same := made.shared
    rw [allocateOrderDiscount, if_neg (by omega)] at same
    obtain rfl := Except.ok.inj same
    exact ⟨(zeros _ made.priced).trans none, unmoved _ made.priced⟩
  · obtain ⟨before, last, rest, rfl, _, _, rfl⟩ := allocateOrderDiscount_ok made.priced some made.most made.shared
    have later : ∀ line ∈ rest, line.Priced := fun line member => made.priced line (by simp [member])
    constructor
    · simp only [map_append, map_map, map_cons, sum_append, sum_cons, zeros rest later,
        IntermediateLine.allocate, Function.comp_def]
      omega
    · rw [map_append, map_map, map_cons, unmoved rest later]
      exact congrArg₂ (· ++ ·) (unmoved before fun line member => made.priced line (by simp [member]))
        (congrArg (· :: rest) (singleton_inj.mp (unmoved [last] fun line member =>
          made.priced line (by simp [mem_singleton.mp member]))))

theorem kept {read} {shown : QuotedOrderLine → Int} (same : ∀ line, read (line.allocate 0) = read line)
    (shows : ∀ line quoted, calculateLine line = .ok quoted → shown quoted = read line) :
    quote.lines.map shown = lines.map read := by
  rw [mapM_map_eq shows made.quoted, ← made.allocation.2, map_map]
  exact map_congr_left fun line _ => (same line).symm

end QuotedOrder.MadeOf

/-- The order's discount is shared exactly, and lines and order come to the same. -/
theorem quote_adds_up (accepted : calculateOrderQuote input catalogMap = .ok quote) :
    (quote.lines.map (·.allocatedOrderDiscount)).sum = quote.orderDiscountTotal + quote.promotionDiscountTotal ∧
    (quote.lines.map (·.lineTotal)).sum + quote.shippingFee = quote.grandTotal ∧
    quote.subtotal - quote.totalDiscount + quote.taxTotal + quote.shippingFee = quote.grandTotal ∧
    quote.subtotal = (quote.lines.map (·.lineGross)).sum ∧
    quote.itemDiscountTotal = (quote.lines.map (·.itemDiscountAmount)).sum ∧
    quote.totalDiscount = (quote.lines.map (·.itemDiscountAmount)).sum + (quote.lines.map (·.allocatedOrderDiscount)).sum ∧
    quote.taxTotal = (quote.lines.map (·.taxAmount)).sum := by
  obtain ⟨lines, allocated, order, promotion, made⟩ := calculateOrderQuote_ok accepted
  have gross := made.kept (fun _ => rfl) fun _ _ calculated => (calculateLine_ok calculated).1
  have discount := made.kept (fun _ => rfl) fun _ _ calculated => (calculateLine_ok calculated).2.1
  have after := made.kept (fun _ => rfl) fun _ _ calculated => (calculateLine_ok calculated).2.2.1
  have shares := congrArg sum
    (mapM_map_eq (fun _ _ calculated => (calculateLine_ok calculated).2.2.2.1) made.quoted)
  rw [made.allocation.1] at shares
  have lineTotals : (quote.lines.map (·.lineTotal)).sum = (quote.lines.map (·.lineAfterItemDiscount)).sum -
      (quote.lines.map (·.allocatedOrderDiscount)).sum + (quote.lines.map (·.taxAmount)).sum := by
    rw [← sum_map_sub, ← sum_map_add]
    apply congrArg sum
    apply map_congr_left
    intro quoted member
    obtain ⟨line, _, calculated⟩ := mapM_mem made.quoted member
    obtain ⟨_, _, left, share, net, _, total, _⟩ := calculateLine_ok calculated
    rw [total, net, left, share]
  have net := net_sum made.priced
  have subtotal := made.subtotal
  have itemDiscount := made.itemDiscount
  obtain ⟨ordered, promoted⟩ := made.orderDiscount
  have total := made.total
  have tax := made.tax
  have grand := made.grand
  rw [after, net, ← gross, ← discount] at lineTotals
  rw [← gross] at subtotal
  rw [← discount] at itemDiscount
  exact ⟨by omega, by omega, by omega, subtotal, itemDiscount, by omega, tax⟩

private def shirt : AuthoritativeCatalogVariant where
  variantId := 1
  productId := 1
  skuCode := "SHIRT"
  productName := "Shirt"
  variantName := "M"
  unitCode := "PCS"
  conversionFactor := "1.0000"
  unitPrice := 1000
  status := .active

private def shirts (lines : List String) (discount : Int) : QuoteOrderInput where
  lines := lines.map fun qty => { variantId := 1, qty }
  orderDiscountType := .fixed
  orderDiscountValue := some ⟨some discount, toString discount⟩

theorem shirts_add_up :
    ∃ quote, calculateOrderQuote (shirts ["1", "2.5"] 100) (fun _ => some shirt) = .ok quote ∧
      quote.subtotal - quote.totalDiscount + quote.taxTotal + quote.shippingFee = quote.grandTotal := by
  obtain ⟨quote, accepted, _⟩ := evaluates (calculateOrderQuote (shirts ["1", "2.5"] 100) fun _ => some shirt)
    (·.subtotal = 3500) (by decide +kernel)
  exact ⟨quote, accepted, (quote_adds_up accepted).2.2.1⟩

/-- What is taken off a request's order: its own discount and the promotion. -/
def QuoteOrderInput.discount (input : QuoteOrderInput) (catalogMap : Uuid → Option AuthoritativeCatalogVariant) : Int :=
  (calculateItemDiscount (input.lines.map (·.remaining catalogMap)).sum input.orderDiscountType
    input.orderDiscountValue).toOption.getD 0 + input.promotionDiscountAmount.getD 0

/-- The rounded shares of all amounts but the last leave the last one a share of its own size at most. -/
def SharesFit (discount : Int) (amounts : List Int) : Prop :=
  ∀ others last, amounts.filter (0 < ·) = others ++ [last] →
    discount - last ≤ (others.map fun amount => halfUp (discount * amount) amounts.sum).sum ∧
      (others.map fun amount => halfUp (discount * amount) amounts.sum).sum ≤ discount

theorem sum_shares (combined net : Int) (amounts : List Int) :
    ((amounts.filter (0 < ·)).map fun amount => halfUp (combined * amount) net).sum =
      (amounts.map (share combined net)).sum := by
  induction amounts with
  | nil => rfl
  | cons amount amounts inner =>
    rw [filter_cons, map_cons, sum_cons, ← inner, share]
    simp only [decide_eq_true_eq]
    split
    · rw [map_cons, sum_cons]
    · rw [zero_add]

theorem sharesFit_nothing {amounts} (nonneg : ∀ amount ∈ amounts, 0 ≤ amount) : SharesFit 0 amounts := by
  intro others last split
  have total := sum_nonneg nonneg
  have zero : (others.map fun amount => halfUp (0 * amount) amounts.sum).sum = 0 := by
    refine sum_eq_zero (forall_mem_map.mpr fun amount _ => ?_)
    rw [halfUp, zero_mul, zero_add]
    rcases total.eq_or_lt with none | some
    · rw [← none]
      rfl
    · exact ediv_eq_zero_of_lt (by omega) (by omega)
  have member : last ∈ amounts.filter (0 < ·) := split ▸ mem_append_right others (.head _)
  have left : 0 < last := of_decide_eq_true (mem_filter.mp member).2
  omega

theorem QuotedOrder.MadeOf.discount_eq
    (made : quote.MadeOf input catalogMap lines allocated order promotion) : input.discount catalogMap = order + promotion := by
  rw [QuoteOrderInput.discount, ← made.amounts, made.ordered, made.promoted.1]
  rfl

theorem QuotedOrder.MadeOf.within_iff (made : quote.MadeOf input catalogMap lines allocated order promotion) :
    (∀ line ∈ quote.lines, 0 ≤ line.allocatedOrderDiscount ∧ line.allocatedOrderDiscount ≤ line.lineAfterItemDiscount ∧
      0 ≤ line.lineNet ∧ 0 ≤ line.taxAmount ∧ 0 ≤ line.lineTotal) ↔
    ∀ line ∈ allocated, 0 ≤ line.allocatedOrderDiscountVnd ∧ line.allocatedOrderDiscountVnd ≤ line.lineAfterItemDiscountVnd := by
  constructor
  · intro within line member
    obtain ⟨quoted, listed, calculated⟩ := mapM_made made.quoted member
    obtain ⟨_, _, left, taken, _⟩ := calculateLine_ok calculated
    obtain ⟨least, most, _⟩ := within quoted listed
    rw [taken] at least most
    rw [left] at most
    exact ⟨least, most⟩
  · intro within quoted listed
    obtain ⟨line, member, calculated⟩ := mapM_mem made.quoted listed
    obtain ⟨_, _, left, taken, net, tax, total⟩ := calculateLine_ok calculated
    obtain ⟨least, most⟩ := within line member
    have priced : (line.allocate 0).Priced := made.priced _ (made.allocation.2 ▸ mem_map_of_mem member)
    have netNonneg : 0 ≤ quoted.lineNet := by omega
    have product := mul_nonneg netNonneg priced.tax
    rw [show (line.allocate 0).taxRateBps = line.taxRateBps from rfl] at product
    rw [roundDivHalfUp_of_nonneg product (by decide)] at tax
    have taxNonneg := Except.ok.inj tax ▸ halfUp_nonneg product (by decide)
    exact ⟨by omega, by omega, netNonneg, taxNonneg, by omega⟩

/-- Shares stay within their lines exactly when rounding leaves the last line a share that fits it. -/
theorem shares_within_lines_iff (accepted : calculateOrderQuote input catalogMap = .ok quote) :
    (∀ line ∈ quote.lines, 0 ≤ line.allocatedOrderDiscount ∧ line.allocatedOrderDiscount ≤ line.lineAfterItemDiscount ∧
      0 ≤ line.lineNet ∧ 0 ≤ line.taxAmount ∧ 0 ≤ line.lineTotal) ↔
    SharesFit (input.discount catalogMap) (input.lines.map (·.remaining catalogMap)) := by
  obtain ⟨lines, allocated, order, promotion, made⟩ := calculateOrderQuote_ok accepted
  rw [made.within_iff, made.discount_eq, ← made.amounts]
  rcases made.discount_nonneg.eq_or_lt with none | some
  · have same := made.shared
    rw [allocateOrderDiscount, if_neg (by omega)] at same
    obtain rfl := Except.ok.inj same
    rw [← none]
    constructor
    · intro _
      refine sharesFit_nothing (forall_mem_map.mpr fun line member => ?_)
      exact (made.priced line member).nonneg
    · intro _ line member
      have priced := made.priced line member
      rw [priced.unallocated]
      exact ⟨le_rfl, priced.nonneg⟩
  · obtain ⟨before, last, rest, split, left, nothing, shared⟩ := allocateOrderDiscount_ok made.priced some made.most made.shared
    have most := made.most
    generalize total : (lines.map (·.lineAfterItemDiscountVnd)).sum = net at most shared
    have filtered : (lines.map (·.lineAfterItemDiscountVnd)).filter (0 < ·) =
        (before.map (·.lineAfterItemDiscountVnd)).filter (0 < ·) ++ [last.lineAfterItemDiscountVnd] := by
      have none : (rest.map (·.lineAfterItemDiscountVnd)).filter (0 < ·) = [] := by
        refine filter_eq_nil_iff.mpr (forall_mem_map.mpr fun line member => ?_)
        simp [nothing line member]
      rw [split, map_append, map_cons, filter_append, filter_cons_of_pos (by simpa using left), none]
    have sum := sum_shares (order + promotion) net (before.map (·.lineAfterItemDiscountVnd))
    rw [map_map] at sum
    have fits : SharesFit (order + promotion) (lines.map (·.lineAfterItemDiscountVnd)) ↔
        0 ≤ order + promotion - (before.map fun line => share (order + promotion) net line.lineAfterItemDiscountVnd).sum ∧
        order + promotion - (before.map fun line => share (order + promotion) net line.lineAfterItemDiscountVnd).sum ≤
          last.lineAfterItemDiscountVnd := by
      unfold SharesFit
      rw [filtered, total]
      constructor
      · intro fit
        have bounds := fit _ _ rfl
        rw [sum] at bounds
        simp only [Function.comp_def] at bounds
        omega
      · intro bounds others amount same
        obtain ⟨rfl, alike⟩ := append_inj' same.symm rfl
        obtain rfl := singleton_inj.mp alike
        rw [sum]
        simp only [Function.comp_def]
        omega
    rw [fits, shared]
    constructor
    · intro within
      exact within _ (mem_append_right _ (.head _))
    · intro bounds line member
      rcases mem_append.mp member with early | late
      · obtain ⟨own, inside, rfl⟩ := mem_map.mp early
        have nonneg := (made.priced own (split ▸ mem_append_left _ inside)).nonneg
        have share := @share_bounds _ _ own.lineAfterItemDiscountVnd some.le most (some.trans_le most)
        exact ⟨share.1, share.2 nonneg⟩
      · rcases mem_cons.mp late with rfl | later
        · exact bounds
        · have priced := made.priced line (split ▸ mem_append_right _ (.tail _ later))
          rw [priced.unallocated]
          exact ⟨le_rfl, priced.nonneg⟩

theorem shirts_fit :
    ∃ quote, calculateOrderQuote (shirts ["1", "2.5"] 100) (fun _ => some shirt) = .ok quote ∧
      ((∀ line ∈ quote.lines, 0 ≤ line.allocatedOrderDiscount ∧ line.allocatedOrderDiscount ≤ line.lineAfterItemDiscount ∧
        0 ≤ line.lineNet ∧ 0 ≤ line.taxAmount ∧ 0 ≤ line.lineTotal) ↔
      SharesFit ((shirts ["1", "2.5"] 100).discount fun _ => some shirt)
        ((shirts ["1", "2.5"] 100).lines.map (·.remaining fun _ => some shirt))) := by
  obtain ⟨quote, accepted, _⟩ := evaluates (calculateOrderQuote (shirts ["1", "2.5"] 100) fun _ => some shirt)
    (·.subtotal = 3500) (by decide +kernel)
  exact ⟨quote, accepted, shares_within_lines_iff accepted⟩

/-- Four shirts share a discount of 2: each of the first three is charged with half a VND rounded up, the last is given one. -/
theorem last_share_negative : ¬∀ (input : QuoteOrderInput) (catalogMap : Uuid → Option AuthoritativeCatalogVariant)
    (quote : QuotedOrder), calculateOrderQuote input catalogMap = .ok quote →
      ∀ line ∈ quote.lines, 0 ≤ line.allocatedOrderDiscount ∧ line.allocatedOrderDiscount ≤ line.lineAfterItemDiscount := by
  intro within
  obtain ⟨quote, accepted, negative⟩ := evaluates
    (calculateOrderQuote (shirts ["1", "1", "1", "1"] 2) fun _ => some shirt) (·.lines.any (·.allocatedOrderDiscount < 0))
    (by decide +kernel)
  obtain ⟨line, member, less⟩ := any_eq_true.mp negative
  have least := (within _ _ quote accepted line member).1
  exact absurd (of_decide_eq_true less) (not_lt.mpr least)

theorem lt_percent_iff {hundredths : Int} (least : 0 ≤ hundredths) (most : hundredths ≤ 10000) :
    (limit : ℚ) < nearest (hundredths / 100) ↔ 100 * limit < hundredths := by
  have small : |(hundredths : ℚ) / 100| < 2 ^ 46 := by
    have high : (hundredths : ℚ) ≤ 10000 := by exact_mod_cast most
    rw [abs_of_nonneg (by positivity)]
    norm_num
    linarith
  constructor
  · intro above
    by_contra within
    have le : (hundredths : ℚ) ≤ 100 * limit := by exact_mod_cast not_lt.mp within
    have rounded := (nearest_between (Nat.zero_le 52) (small.trans (by norm_num)) limit).2
    rw [pow_zero, div_one] at rounded
    exact absurd (rounded (by linarith)) (not_le.mpr above)
  · intro above
    have le : (100 : ℚ) * limit + 1 ≤ hundredths := by exact_mod_cast above
    have rounded := (nearest_between (show 7 ≤ 52 by decide) small (128 * limit + 1)).1
    push_cast at rounded
    norm_num at rounded
    have above := rounded (by linarith)
    linarith

theorem QuotedOrder.MadeOf.totalDiscount_bounds (made : quote.MadeOf input catalogMap lines allocated order promotion) :
    0 ≤ quote.totalDiscount ∧ quote.totalDiscount ≤ quote.subtotal := by
  have item : 0 ≤ (lines.map (·.itemDiscountVnd)).sum := by
    refine sum_nonneg (forall_mem_map.mpr fun line member => ?_)
    exact (made.priced line member).discount
  have net := net_sum made.priced
  have sign := made.discount_nonneg
  have most := made.most
  rw [made.total, made.itemDiscount, made.subtotal]
  omega

theorem lt_effectiveDiscountPercent_iff (accepted : calculateOrderQuote input catalogMap = .ok quote) (sign : 0 ≤ limit) :
    (limit : ℚ) < quote.effectiveDiscountPercent ↔ 100 * limit < quote.totalDiscount * 10000 / quote.subtotal := by
  obtain ⟨lines, allocated, order, promotion, made⟩ := calculateOrderQuote_ok accepted
  obtain ⟨least, most⟩ := made.totalDiscount_bounds
  rw [made.percent, Sales.effectiveDiscountPercent]
  split
  · next positive =>
    have product : 0 ≤ quote.totalDiscount * 10000 := by omega
    have low : 0 ≤ quote.totalDiscount * 10000 / quote.subtotal := Int.ediv_nonneg product positive.le
    have high : quote.totalDiscount * 10000 / quote.subtotal ≤ 10000 := by
      apply Int.ediv_le_of_le_mul positive
      omega
    rw [Int.tdiv_eq_ediv_of_nonneg product, JsNumber.round_of_safe ⟨by unfold JsNumber.maxSafeInteger; omega,
      by unfold JsNumber.maxSafeInteger; omega⟩]
    exact lt_percent_iff low high
  · next none =>
    have zero : quote.subtotal = 0 := by omega
    rw [zero, Int.ediv_zero]
    exact_mod_cast iff_of_false (not_lt.mpr sign) (by omega)

theorem roleMaxDiscountPercent_nonneg {role} (limited : roleMaxDiscountPercent role = some limit) : 0 ≤ limit := by
  unfold roleMaxDiscountPercent at limited
  split at limited <;> cases limited <;> decide

/-- An order is refused for its discount exactly when the percentage, cut to two decimals, is over the limit. -/
theorem refused_iff_truncated_over (accepted : calculateOrderQuote input catalogMap = .ok quote) {role : Option String}
    {permissions : List String} {limit : Int}
    (plain : ¬("*" ∈ permissions ∨ "sales.pos.discount.override" ∈ permissions))
    (limited : roleMaxDiscountPercent (toLowerCase (role.getD "sales_staff")) = some limit) :
    (∃ message, assertDiscountAuthority quote.effectiveDiscountPercent role permissions =
      .error (.domain .discountApprovalRequired message 403)) ↔
    100 * limit < quote.totalDiscount * 10000 / quote.subtotal := by
  have sign := roleMaxDiscountPercent_nonneg limited
  rw [← lt_effectiveDiscountPercent_iff accepted sign, assertDiscountAuthority, if_neg plain]
  simp only [limited]
  split
  · next none => exact iff_of_false (by rintro ⟨_, ⟨⟩⟩) (not_lt.mpr (none.trans (by exact_mod_cast sign)))
  · simp only [ensure_eq_error, not_le]
    constructor
    · rintro ⟨_, above, _⟩
      exact above
    · exact fun above => ⟨_, above, rfl⟩

theorem cashier_shirts_refused :
    ∃ quote, calculateOrderQuote (shirts ["1000"] 100100) (fun _ => some shirt) = .ok quote ∧
      ∃ message, assertDiscountAuthority quote.effectiveDiscountPercent (some "cashier") [] =
        .error (.domain .discountApprovalRequired message 403) := by
  obtain ⟨quote, accepted, totals⟩ := evaluates (calculateOrderQuote (shirts ["1000"] 100100) fun _ => some shirt)
    (fun quote => quote.subtotal = 1000000 ∧ quote.totalDiscount = 100100) (by decide +kernel)
  obtain ⟨subtotal, discount⟩ := of_decide_eq_true totals
  refine ⟨quote, accepted, (refused_iff_truncated_over accepted (by decide) (show roleMaxDiscountPercent _ = some 10 by decide +kernel)).mpr ?_⟩
  rw [subtotal, discount]
  decide

/-- A cashier may give 100 001 VND off 1 000 000: 10.0001 per cent counts as 10. -/
theorem over_limit_accepted : ¬∀ (input : QuoteOrderInput) (catalogMap : Uuid → Option AuthoritativeCatalogVariant)
    (quote : QuotedOrder) (role : Option String) (permissions : List String) (limit : Int),
    calculateOrderQuote input catalogMap = .ok quote →
    ¬("*" ∈ permissions ∨ "sales.pos.discount.override" ∈ permissions) →
    roleMaxDiscountPercent (toLowerCase (role.getD "sales_staff")) = some limit →
    ((∃ message, assertDiscountAuthority quote.effectiveDiscountPercent role permissions =
      .error (.domain .discountApprovalRequired message 403)) ↔ limit * quote.subtotal < quote.totalDiscount * 100) := by
  intro exact_
  obtain ⟨quote, accepted, totals⟩ := evaluates (calculateOrderQuote (shirts ["1000"] 100001) fun _ => some shirt)
    (fun quote => quote.subtotal = 1000000 ∧ quote.totalDiscount = 100001 ∧
      (assertDiscountAuthority quote.effectiveDiscountPercent (some "cashier") []).toOption = some ()) (by decide +kernel)
  obtain ⟨subtotal, discount, passed⟩ := of_decide_eq_true totals
  obtain ⟨message, refused⟩ := (exact_ _ _ quote (some "cashier") [] 10 accepted (by decide) (by decide +kernel)).mpr
    (by rw [subtotal, discount]; decide)
  rw [refused] at passed
  cases passed

end Sales
