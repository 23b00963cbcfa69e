import RetailApi.Sales.Domain

/-! How an order is paid: tender lines, what of them is confirmed, and what enters the drawer. -/

namespace Sales

open Transaction JsString

inductive TenderMethod where
  | cash | bankTransfer | card | eWallet | cod | onAccount
deriving DecidableEq

instance : ToString TenderMethod where
  toString
    | .cash => "CASH" | .bankTransfer => "BANK_TRANSFER" | .card => "CARD" | .eWallet => "E_WALLET" | .cod => "COD"
    | .onAccount => "ON_ACCOUNT"

inductive TenderStatus where
  | confirmed | pending
deriving DecidableEq

inductive OrderPaymentStatus where
  | unpaid | partiallyPaid | paid | refundPending | partiallyRefunded | refunded
deriving DecidableEq

structure TenderInputLine where
  method : TenderMethod
  amount : Int
  tenderedCash : Option Int := none
  externalRef : Option String := none
  verified : Bool := false

structure ValidatedTenderLine where
  method : TenderMethod
  amount : Int
  tenderedCash : Int
  changeDue : Int
  status : TenderStatus
  externalRef : Option String
deriving DecidableEq

structure ValidatedTenderSummary where
  tenders : List ValidatedTenderLine
  totalAllocated : Int
  totalConfirmed : Int
  totalCashSales : Int
  totalChangeDue : Int
  allConfirmed : Bool
  paymentStatus : OrderPaymentStatus
deriving DecidableEq

def validateTender (allowZero : Bool) (tender : TenderInputLine) : Except Failure ValidatedTenderLine := do
  let amount ← parseVndAmount tender.amount allowZero
  match tender.method with
  | .cash =>
    let tendered ← match tender.tenderedCash with
      | some given => parseVndAmount given
      | none => .ok amount
    ensure (amount ≤ tendered) (.domain .paymentAmountMismatch
      s!"Cash tendered ({tendered}) is less than cash allocation ({amount})" 422)
    let tenderedCash ← vndNumber tendered
    let changeDue ← vndNumber (tendered - amount)
    return { method := .cash, amount := ← vndNumber amount, tenderedCash, changeDue, status := .confirmed
             externalRef := tender.externalRef }
  | .cod =>
    return { method := .cod, amount := ← vndNumber amount, tenderedCash := 0, changeDue := 0, status := .pending
             externalRef := tender.externalRef }
  | method =>
    let isConfirmed := tender.verified && tender.externalRef.any (· ≠ "")
    return { method, amount := ← vndNumber amount, tenderedCash := 0, changeDue := 0
             status := if isConfirmed then .confirmed else .pending, externalRef := tender.externalRef }

def validateOrderTenders (grandTotalVnd : Int) (tendersInput : List TenderInputLine) :
    Except Failure ValidatedTenderSummary := do
  let grandTotal ← parseVndAmount grandTotalVnd
  ensure (tendersInput ≠ []) (.domain .paymentAmountMismatch "At least one tender line is required" 422)
  let tenders ← tendersInput.mapM (validateTender (grandTotal = 0))
  let allocated := (tenders.map (·.amount)).sum
  let confirmed := ((tenders.filter (·.status = .confirmed)).map (·.amount)).sum
  let cash := tenders.filter (·.method = .cash)
  ensure (allocated = grandTotal) (.domain .paymentAmountMismatch
    s!"Allocated tender sum ({allocated}) does not equal order grand total ({grandTotal})" 422)
  let allConfirmed : Bool := confirmed = grandTotal
  return {
    tenders, totalAllocated := ← vndNumber allocated, totalConfirmed := ← vndNumber confirmed
    totalCashSales := ← vndNumber (cash.map (·.amount)).sum
    totalChangeDue := ← vndNumber (cash.map (·.changeDue)).sum, allConfirmed
    paymentStatus := if allConfirmed then .paid else if 0 < confirmed then .partiallyPaid else .unpaid }

/-- What a cash payment puts in the drawer: tendered minus change. -/
def cashSaleDrawerAmount (tenders : List ValidatedTenderLine) : Except Failure Int := do
  let total ← tenders.foldlM (fun total tender =>
    if tender.method = .cash then do
      let amount ← parseVndAmount tender.amount
      return total + amount
    else .ok total) 0
  vndNumber total

structure PosTenderDto where
  method : TenderMethod
  amount : Int
  tenderedCash : Option Int := none
  status : Option TenderStatus := none
  verified : Option Bool := none
  externalRef : Option String := none

/-- The tender lines of a request; without any, one line over the whole total. -/
def normalizeTenderInputs (tenders : List PosTenderDto) (paymentMethod : Option TenderMethod)
    (tenderedCash : Option Int) (grandTotalVnd : Int) : List TenderInputLine :=
  match tenders with
  | [] =>
    let method := paymentMethod.getD .cash
    [{ method, amount := grandTotalVnd, tenderedCash := some (tenderedCash.getD grandTotalVnd), verified := method ≠ .cod
       externalRef := if method ≠ .cash then some s!"POS-{method}" else none }]
  | tenders => tenders.map fun tender =>
    let isConfirmedElectronic := tender.method ≠ .cash ∧ tender.method ≠ .cod ∧
      (tender.verified = some true ∨ tender.status = some .confirmed ∨ tender.method = .onAccount)
    { method := tender.method, amount := tender.amount, tenderedCash := tender.tenderedCash
      verified := decide isConfirmedElectronic || tender.verified.getD false
      externalRef := tender.externalRef <|> if isConfirmedElectronic then some s!"POS-{tender.method}" else none }

end Sales
