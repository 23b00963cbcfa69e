import RetailApi.Sales.Checkout

/-! The payloads in which a finalized checkout tells of its payment. A key that is not in the
message of its producer is `none`. -/

namespace Events

/-- The columns of `OrderCompletedPayload` that say how the order was paid. -/
structure OrderCompletedPayload where
  orderId : Nat
  branchId : Option Nat
  paymentMethod : Option String
  grandTotal : Option Int := none
  totalAmount : Option Int := none

structure TenderRecordedPayload where
  tenderId : Option Nat := none
  orderId : Nat
  branchId : Option Nat := none
  shiftId : Option Nat := none
  paymentMethod : Option String := none
  provider : Option String := none
  externalReference : Option String := none
  amount : Option Int := none

structure PaymentConfirmedPayload where
  paymentId : Option Nat := none
  orderId : Nat
  branchId : Option Nat := none
  paymentMethod : Option String := none
  provider : Option String := none
  externalTxId : Option String := none
  amount : Option Int := none

end Events

namespace Sales

/-- A checkout that was finalized: what was asked of it, and its tenders as they were validated. -/
structure CompletedCheckout where
  orderId : Uuid
  branchId : Uuid
  shiftId : Option Uuid := none
  tenders : List PosTenderDto := []
  paymentMethod : Option TenderMethod := none
  tenderedCash : Option Int := none
  grandTotal : Int
  tenderSummary : ValidatedTenderSummary
  validated : validateOrderTenders grandTotal (normalizeTenderInputs tenders paymentMethod tenderedCash grandTotal) =
    .ok tenderSummary

namespace CompletedCheckout

def orderCompleted (checkout : CompletedCheckout) : Events.OrderCompletedPayload where
  orderId := checkout.orderId
  branchId := some checkout.branchId
  paymentMethod := some (resolvePrimaryPaymentMethod checkout.tenderSummary)
  grandTotal := some checkout.grandTotal
  totalAmount := some checkout.grandTotal

def tenderRecorded (checkout : CompletedCheckout) : Events.TenderRecordedPayload where
  orderId := checkout.orderId
  shiftId := checkout.shiftId

def paymentConfirmed (checkout : CompletedCheckout) : Events.PaymentConfirmedPayload where
  orderId := checkout.orderId
  amount := some checkout.tenderSummary.totalConfirmed

end CompletedCheckout

end Sales
