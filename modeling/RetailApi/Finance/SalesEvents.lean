import RetailApi.Events.SalesPayments
import RetailApi.Finance.Settlements

/-! What the finance service does with the sales events that tell of payments. -/

namespace Finance

open Transaction JsString Events

/-- A method that finance settles; every other is settled as cash. -/
def settledMethod (method : String) : SettlementMethod :=
  match method with
  | "BANK_TRANSFER" => .bankTransfer
  | "CARD" => .card
  | "EWALLET" => .eWallet
  | _ => .cash

/-- `paymentMethod` of a payment, taken as it is. -/
def namedMethod (method : String) : SettlementMethod :=
  match method with
  | "CASH" => .cash
  | "BANK_TRANSFER" => .bankTransfer
  | "CARD" => .card
  | "EWALLET" => .eWallet
  | "COD" => .cod
  | "ON_ACCOUNT" => .onAccount
  | other => .other other

def confirmTold (db : FinanceDb) (draws : Draws) (key : String) (dto : ConfirmSettlementDto) : Except Failure FinanceDb := do
  let (db, _) ← confirmSettlementInTx db draws (some key) { dto with idempotencyKey := some key }
  return db

/-- The key and the tender under which a completed order is settled. -/
def orderKey (orderId : Uuid) : String := s!"evt:stl:order:{orderId}"

def orderTender (payload : OrderCompletedPayload) (method : String) (cents : Int) : ConfirmSettlementDto where
  orderId := payload.orderId
  branchId := payload.branchId
  tenderRef := some s!"order:{payload.orderId}"
  paymentMethod := settledMethod method
  provider := some "INTERNAL_POS"
  requestedAmount := cents
  confirmedAmount := some cents
  settledAmount := some cents

def onSalesOrderCompleted (db : FinanceDb) (draws : Draws) (payload : OrderCompletedPayload) : Except Failure FinanceDb :=
  let method := toUpperCase (payload.paymentMethod.getD "CASH")
  if method = "ON_ACCOUNT" ∨ method = "COD" then .ok db
  else do
    let rawAmount := (payload.grandTotal <|> payload.totalAmount).getD 0
    let cents ← parseVnd rawAmount { allowZero := true, field := "totalAmount" }
    if cents ≤ 0 then return db
    else confirmTold db draws (orderKey payload.orderId) (orderTender payload method cents)

def onSalesTenderRecorded (db : FinanceDb) (draws : Draws) (payload : TenderRecordedPayload) : Except Failure FinanceDb :=
  match payload.tenderId with
  | none => .ok db
  | some tenderId =>
    let method := toUpperCase (payload.paymentMethod.getD "CASH")
    if method = "ON_ACCOUNT" ∨ method = "COD" then .ok db
    else do
      let cents ← parseVnd payload.amount { allowZero := true, field := "amount" }
      if cents ≤ 0 then return db
      else confirmTold db draws s!"evt:stl:tender:{tenderId}" {
        orderId := payload.orderId, branchId := payload.branchId, shiftId := payload.shiftId
        tenderRef := some (toString tenderId), paymentMethod := settledMethod method
        provider := some (payload.provider.getD "INTERNAL_POS"), externalTxId := payload.externalReference
        requestedAmount := cents, confirmedAmount := some cents, settledAmount := some cents }

def onSalesPaymentConfirmed (db : FinanceDb) (draws : Draws) (payload : PaymentConfirmedPayload) : Except Failure FinanceDb :=
  match payload.paymentId with
  | none => .ok db
  | some paymentId => do
    let cents ← parseVnd payload.amount { allowZero := true, field := "amount" }
    if cents ≤ 0 then return db
    else confirmTold db draws s!"evt:stl:pay:{paymentId}" {
      orderId := payload.orderId, branchId := payload.branchId, tenderRef := some (toString paymentId)
      paymentMethod := namedMethod (payload.paymentMethod.getD "EWALLET")
      provider := some (payload.provider.getD "GATEWAY"), externalTxId := payload.externalTxId
      requestedAmount := cents, confirmedAmount := some cents, settledAmount := some cents }

end Finance
