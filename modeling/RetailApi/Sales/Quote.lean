import RetailApi.Sales.OrderRows

/-! What an order costs: line prices, item discounts, the order's discount shared over the
lines, taxes, and the discount a caller may give. -/

namespace Sales

open Transaction JsString JsNumber

inductive CatalogStatus where
  | active | inactive | archived | draft
deriving DecidableEq

instance : ToString CatalogStatus where
  toString
    | .active => "ACTIVE" | .inactive => "INACTIVE" | .archived => "ARCHIVED" | .draft => "DRAFT"

structure AuthoritativeCatalogVariant where
  variantId : Uuid
  productId : Uuid
  skuCode : String
  productName : String
  variantName : String
  unitCode : String
  conversionFactor : String
  unitPrice : Int
  status : CatalogStatus
  unitCostSnapshot : Option Int := none

structure QuoteLineInput where
  variantId : Uuid
  qty : String
  expectedUnitPrice : Option Int := none
  discountType : DiscountType := .none
  discountValue : Option Number := none
  /-- As `Number` reads it. -/
  taxRatePercent : Option Number := none

structure QuoteOrderInput where
  lines : List QuoteLineInput
  orderDiscountType : DiscountType := .none
  orderDiscountValue : Option Number := none
  promotionDiscountAmount : Option Int := none
  shippingFee : Option Int := none

/-- `/^\d+(\.\d{1,4})?$/`, in ten-thousandths. -/
def readFactor (letters : List Char) : Option Nat := do
  let (whole, rest) := letters.span (· ≠ '.')
  guard (whole ≠ [] ∧ whole.all Char.isDigit = true)
  let fraction ← Inventory.readFraction 4 rest
  return Inventory.digitsValue whole * 10000 + fraction

def parseConversionFactor (value : String) : Except Failure Int :=
  if value = "" then .ok 10000
  else do
    let raw := trimmed value
    let factor ← required (readFactor raw.toList) (.domain .validationError s!"Invalid conversion factor: {raw}" 422)
    ensure (0 < factor) (.domain .validationError s!"Conversion factor must be > 0: {raw}" 422)
    return factor

def computeBaseQtyMillis (qtyMillis factorTenThousands : Int) : Int :=
  (qtyMillis * factorTenThousands + 5000) / 10000

/-- `parseVndAmount` of a number that may have a fraction. -/
def parseVndNumber (number : Number) : Except Failure Int := do
  let value ← required (number.value.filter (·.den = 1)) (.domain .validationError
    s!"Invalid VND monetary amount (a whole number is required): {number.text}" 422)
  parseVndAmount value.num

/-- `BigInt(Math.round(percent * 100))` -/
def basisPoints (percent : ℚ) : Int := mathRound (nearest (percent * 100))

def readPercent (number : Number) : Option ℚ := number.value.filter fun value => 0 ≤ value ∧ value ≤ 100

def calculateItemDiscount (lineGross : Int) (discountType : DiscountType) (discountValue : Option Number) :
    Except Failure Int :=
  match discountType, discountValue with
  | .none, _ | _, none => .ok 0
  | .fixed, some number => do
    let fixed ← parseVndNumber number
    ensure (fixed ≤ lineGross) (.domain .invalidDiscount
      s!"Item fixed discount ({fixed}) cannot exceed line gross ({lineGross})" 422)
    return fixed
  | .percent, some number => do
    let percent ← required (readPercent number) (.domain .invalidDiscount
      s!"Item percentage discount must be between 0 and 100, got {number.text}" 422)
    roundDivHalfUp (lineGross * basisPoints percent) 10000

/-- A priced line before the order's discount is shared; quantities in thousandths. -/
structure IntermediateLine where
  lineNo : Nat
  catalog : AuthoritativeCatalogVariant
  qtyMillis : Int
  baseQtyMillis : Int
  unitPriceVnd : Int
  lineGrossVnd : Int
  itemDiscountType : DiscountType
  itemDiscountValue : Number
  itemDiscountVnd : Int
  lineAfterItemDiscountVnd : Int
  allocatedOrderDiscountVnd : Int
  taxRateBps : Int
  taxRateStr : String

def checkExpectedPrice (catalog : AuthoritativeCatalogVariant) (unitPriceVnd : Int) : Option Int → Except Failure Unit
  | none => .ok ()
  | some expected => do
    let expectedVnd ← parseVndAmount expected false
    ensure (expectedVnd = unitPriceVnd) (.domain .priceChanged
      s!"Catalog price for {catalog.skuCode} changed from {expectedVnd} to {unitPriceVnd}" 409)

def readTaxRate : Option Number → Except Failure ℚ
  | none => .ok 0
  | some number => required (readPercent number) (.domain .validationError s!"Invalid tax rate percentage: {number.text}" 422)

def priceLine (catalogMap : Uuid → Option AuthoritativeCatalogVariant) (lineNo : Nat) (reqLine : QuoteLineInput) :
    Except Failure IntermediateLine := do
  let catalog ← required (catalogMap reqLine.variantId) (.domain .priceNotConfigured
    s!"Variant {reqLine.variantId} not found in Catalog" 404)
  ensure (catalog.status = .active) (.domain .productNotSellable
    s!"Variant {catalog.skuCode} ({catalog.variantId}) has status {catalog.status} and is not sellable" 409)
  let unitPriceVnd ← parseVndAmount catalog.unitPrice false
  checkExpectedPrice catalog unitPriceVnd reqLine.expectedUnitPrice
  let qtyMillis ← parseQtyMillis reqLine.qty
  let factor ← parseConversionFactor catalog.conversionFactor
  let lineGrossVnd ← roundDivHalfUp (qtyMillis * unitPriceVnd) 1000
  let itemDiscountVnd ← calculateItemDiscount lineGrossVnd reqLine.discountType reqLine.discountValue
  let taxRateNum ← readTaxRate reqLine.taxRatePercent
  return {
    lineNo, catalog, qtyMillis, baseQtyMillis := computeBaseQtyMillis qtyMillis factor, unitPriceVnd, lineGrossVnd
    itemDiscountType := reqLine.discountType, itemDiscountValue := reqLine.discountValue.getD ⟨some 0, "0"⟩, itemDiscountVnd
    lineAfterItemDiscountVnd := lineGrossVnd - itemDiscountVnd, allocatedOrderDiscountVnd := 0
    taxRateBps := basisPoints taxRateNum, taxRateStr := toFixed2 taxRateNum }

/-- A line's own share of the order's discount, when there is something left of the line. -/
def proRate (combined net : Int) (line : IntermediateLine) : Except Failure IntermediateLine :=
  if 0 < line.lineAfterItemDiscountVnd then do
    let share ← roundDivHalfUp (combined * line.lineAfterItemDiscountVnd) net
    return { line with allocatedOrderDiscountVnd := share }
  else .ok line

/-- The line at `lastPositiveIdx` takes what the shares leave over. -/
def addResidual (residual : Int) : List IntermediateLine → List IntermediateLine
  | [] => []
  | line :: rest =>
    if rest.any (0 < ·.lineAfterItemDiscountVnd) then line :: addResidual residual rest
    else if 0 < line.lineAfterItemDiscountVnd then
      { line with allocatedOrderDiscountVnd := line.allocatedOrderDiscountVnd + residual } :: rest
    else line :: rest

def allocateOrderDiscount (combined net : Int) (lines : List IntermediateLine) : Except Failure (List IntermediateLine) :=
  if 0 < combined ∧ 0 < net then do
    let shared ← lines.mapM (proRate combined net)
    return addResidual (combined - (shared.map (·.allocatedOrderDiscountVnd)).sum) shared
  else .ok lines

/-- `CalculatedOrderLine` with what only the quote shows. -/
structure QuotedOrderLine extends CalculatedOrderLine where
  lineNo : Nat
  variantLabel : String
  unitCode : String
  conversionFactor : String
  itemDiscountType : DiscountType
  itemDiscountValue : Number
  lineAfterItemDiscount : Int
  taxRate : String

def calculateLine (line : IntermediateLine) : Except Failure QuotedOrderLine := do
  let lineNetVnd := line.lineAfterItemDiscountVnd - line.allocatedOrderDiscountVnd
  let taxAmountVnd ← roundDivHalfUp (lineNetVnd * line.taxRateBps) 10000
  let unitPrice ← vndNumber line.unitPriceVnd
  let lineGross ← vndNumber line.lineGrossVnd
  let itemDiscountAmount ← vndNumber line.itemDiscountVnd
  let lineAfterItemDiscount ← vndNumber line.lineAfterItemDiscountVnd
  let allocatedOrderDiscount ← vndNumber line.allocatedOrderDiscountVnd
  let lineNet ← vndNumber lineNetVnd
  let taxAmount ← vndNumber taxAmountVnd
  let lineTotal ← vndNumber (lineNetVnd + taxAmountVnd)
  let unitCost ← parseVndAmount (line.catalog.unitCostSnapshot.getD 0)
  let unitCostSnapshot ← vndNumber unitCost
  return {
    lineNo := line.lineNo, variantId := line.catalog.variantId, productId := line.catalog.productId
    skuCode := line.catalog.skuCode, productName := line.catalog.productName, variantLabel := line.catalog.variantName
    unitCode := if line.catalog.unitCode = "" then "PCS" else line.catalog.unitCode
    conversionFactor := if line.catalog.conversionFactor = "" then "1.0000" else line.catalog.conversionFactor
    qty := line.qtyMillis, baseQty := line.baseQtyMillis, unitPrice, lineGross, itemDiscountType := line.itemDiscountType
    itemDiscountValue := line.itemDiscountValue, itemDiscountAmount, lineAfterItemDiscount, allocatedOrderDiscount, lineNet
    taxRate := line.taxRateStr, taxAmount, lineTotal, unitCostSnapshot }

/-- `CalculatedOrderQuote` as it is first made. -/
structure QuotedOrder where
  lines : List QuotedOrderLine
  subtotal : Int
  itemDiscountTotal : Int
  orderDiscountType : DiscountType
  orderDiscountValue : Number
  orderDiscountTotal : Int
  promotionDiscountTotal : Int
  totalDiscount : Int
  effectiveDiscountPercent : ℚ
  shippingFee : Int
  taxTotal : Int
  grandTotal : Int
  totalBaseQty : Int

/-- `Number(totalDiscount * 10000n / subtotal) / 100` -/
def effectiveDiscountPercent (totalDiscount subtotal : Int) : ℚ :=
  if 0 < subtotal then JsNumber.nearest (JsNumber.round ((totalDiscount * 10000).tdiv subtotal) / 100) else 0

def calculateOrderQuote (input : QuoteOrderInput) (catalogMap : Uuid → Option AuthoritativeCatalogVariant) :
    Except Failure QuotedOrder := do
  ensure (input.lines ≠ []) (.domain .validationError "Order must contain at least one line item" 422)
  let interLines ← input.lines.zipIdx.mapM fun (reqLine, i) => priceLine catalogMap (i + 1) reqLine
  let subtotalVnd := (interLines.map (·.lineGrossVnd)).sum
  let itemDiscountTotalVnd := (interLines.map (·.itemDiscountVnd)).sum
  let netAfterItemDiscounts := subtotalVnd - itemDiscountTotalVnd
  let rawOrderDiscountVnd ← calculateItemDiscount netAfterItemDiscounts input.orderDiscountType input.orderDiscountValue
  let promoDiscountVnd ← parseVndAmount (input.promotionDiscountAmount.getD 0)
  let combinedOrderDiscountVnd := rawOrderDiscountVnd + promoDiscountVnd
  ensure (combinedOrderDiscountVnd ≤ netAfterItemDiscounts) (.domain .invalidDiscount
    s!"Order and promotion discount ({combinedOrderDiscountVnd}) cannot exceed net subtotal after item discounts ({netAfterItemDiscounts})" 422)
  let allocated ← allocateOrderDiscount combinedOrderDiscountVnd netAfterItemDiscounts interLines
  let lines ← allocated.mapM calculateLine
  let taxTotalVnd := (lines.map (·.taxAmount)).sum
  let shippingFeeVnd ← parseVndAmount (input.shippingFee.getD 0)
  let totalDiscountVnd := itemDiscountTotalVnd + combinedOrderDiscountVnd
  return {
    lines, subtotal := ← vndNumber subtotalVnd, itemDiscountTotal := ← vndNumber itemDiscountTotalVnd
    orderDiscountType := input.orderDiscountType, orderDiscountValue := input.orderDiscountValue.getD ⟨some 0, "0"⟩
    orderDiscountTotal := ← vndNumber rawOrderDiscountVnd, promotionDiscountTotal := ← vndNumber promoDiscountVnd
    totalDiscount := ← vndNumber totalDiscountVnd
    effectiveDiscountPercent := effectiveDiscountPercent totalDiscountVnd subtotalVnd
    shippingFee := ← vndNumber shippingFeeVnd, taxTotal := ← vndNumber taxTotalVnd
    grandTotal := ← vndNumber (subtotalVnd - totalDiscountVnd + taxTotalVnd + shippingFeeVnd)
    totalBaseQty := (interLines.map (·.baseQtyMillis)).sum }

/-- `ROLE_MAX_DISCOUNT_PERCENT[roleKey] ?? 10`; the two words every object answers to give no number. -/
def roleMaxDiscountPercent : String → Option Int
  | "owner" => some 100
  | "branch_manager" | "manager" => some 30
  | "sales_staff" | "cashier" => some 10
  | "constructor" | "__proto__" => none
  | _ => some 10

def assertDiscountAuthority (effectiveDiscountPercent : ℚ) (role : Option String) (permissions : List String) :
    Except Failure Unit :=
  if effectiveDiscountPercent ≤ 0 then .ok ()
  else if "*" ∈ permissions ∨ "sales.pos.discount.override" ∈ permissions then .ok ()
  else
    let roleKey := toLowerCase (role.getD "sales_staff")
    match roleMaxDiscountPercent roleKey with
    -- a comparison with what is no number is false
    | none => .ok ()
    | some maxAllowed => ensure (effectiveDiscountPercent ≤ maxAllowed) (.domain .discountApprovalRequired
        s!"Effective discount {toFixed2 effectiveDiscountPercent}% exceeds role '{roleKey}' limit of {maxAllowed}%" 403)

end Sales
