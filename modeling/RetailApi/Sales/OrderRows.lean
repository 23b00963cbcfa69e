import RetailApi.Inventory.Domain
import RetailApi.Sales.Workflow

/-! Orders and their lines as the sales service stores them, the quantities written on
them, and the states an order goes through. -/

namespace Sales

open Transaction JsString

/-- `/^\d+(\.\d{1,3})?$/`, in thousandths. -/
def readQty (letters : List Char) : Option Nat := do
  let (whole, rest) := letters.span (· ≠ '.')
  guard (whole ≠ [] ∧ whole.all Char.isDigit = true)
  let fraction ← Inventory.readFraction 3 rest
  return Inventory.digitsValue whole * 1000 + fraction

def parseQtyMillis (value : String) : Except Failure Int := do
  let raw := trimmed value
  let millis ← required (readQty raw.toList) (.domain .validationError s!"Invalid quantity format: {raw}" 422)
  ensure (0 < millis) (.domain .validationError s!"Quantity must be strictly positive: {raw}" 422)
  return millis

def formatQtyMillis (millis : Int) : String :=
  let fraction := toString (millis.natAbs % 1000)
  (if millis < 0 then "-" else "") ++ toString (millis.natAbs / 1000) ++ "."
    ++ String.ofList (List.replicate (3 - fraction.length) '0') ++ fraction

/-- `Number(text) > 0` for the text of a `numeric` column. -/
def isPositiveNumber (text : String) : Bool :=
  match text.toList with
  | '-' :: _ => false
  | letters => letters.any fun letter => letter.isDigit && letter ≠ '0'

def roundDivHalfUp (numerator denominator : Int) : Except Failure Int := do
  ensure (0 < denominator) (.thrown "Denominator must be positive")
  return if 0 ≤ numerator then (numerator + denominator / 2) / denominator
    else -((-numerator + denominator / 2) / denominator)

inductive CommercialOrderStatus where
  | draft | pending | confirmed | cancelled | completed
deriving DecidableEq

instance : ToString CommercialOrderStatus where
  toString
    | .draft => "DRAFT" | .pending => "PENDING" | .confirmed => "CONFIRMED" | .cancelled => "CANCELLED"
    | .completed => "COMPLETED"

inductive OrderFulfillmentStatus where
  | unfulfilled | reserved | partiallyFulfilled | fulfilled | returned
deriving DecidableEq

instance : ToString OrderFulfillmentStatus where
  toString
    | .unfulfilled => "UNFULFILLED" | .reserved => "RESERVED" | .partiallyFulfilled => "PARTIALLY_FULFILLED"
    | .fulfilled => "FULFILLED" | .returned => "RETURNED"

inductive FulfillmentStage where
  | packing | shipping
deriving DecidableEq

/-- The columns of `orders` that its later life reads or moves. -/
structure OrderEntity where
  code : String
  branchId : Uuid
  warehouseId : Option Uuid := none
  customerId : Option Uuid := none
  customerName : Option String := none
  shiftId : Option Uuid := none
  channelType : String := "POS"
  orderStatus : CommercialOrderStatus
  paymentStatus : OrderPaymentStatus
  fulfillmentStatus : OrderFulfillmentStatus
  fulfillmentStage : Option FulfillmentStage := none
  subtotal : Int := 0
  itemDiscountTotal : Int := 0
  orderDiscountType : DiscountType := .none
  orderDiscountValue : Int := 0
  orderDiscountTotal : Int := 0
  promotionDiscountTotal : Int := 0
  couponCode : Option String := none
  shippingFee : Int := 0
  taxTotal : Int := 0
  grandTotal : Int := 0
  totalAmount : Int := 0
  paidAmount : Int := 0
  refundedAmount : Int := 0
  itemCount : Int := 0
  reservationId : Option Uuid := none
  note : Option String := none
  cancelReason : Option String := none
  version : Nat := 1

/-- A row of `order_items`; its `numeric(18,3)` columns are held in thousandths. -/
structure OrderItemEntity where
  orderId : Uuid
  variantId : Option Uuid
  sku : String
  name : String
  qty : Int
  baseQty : Int
  unitPrice : Int
  lineNet : Int
  taxAmount : Int
  lineTotal : Int
  unitCostSnapshot : Int
  returnedQty : Int := 0
  refundedAmount : Int := 0
deriving DecidableEq

structure OrderStatusHistoryEntity where
  orderId : Uuid
  fromOrderStatus : CommercialOrderStatus
  toOrderStatus : CommercialOrderStatus
  fromPaymentStatus : OrderPaymentStatus
  toPaymentStatus : OrderPaymentStatus
  fromFulfillmentStatus : OrderFulfillmentStatus
  toFulfillmentStatus : OrderFulfillmentStatus
  reason : String
  actorId : Uuid

end Sales
