import RetailApi.Base.Decimal
import RetailApi.Insight.Domain
import RetailApi.Inventory.Domain

/-! The average cost and the value of stock as the reports compute them, in ten-thousandths. -/

namespace Insight

open JsString

/-- `replace(/[^0-9]/g, '')` -/
def onlyDigits (letters : List Char) : List Char := letters.filter Char.isDigit

/-- A number without its sign: whole digits, four places, and the fifth rounds. -/
def readMagnitude (normalized : List Char) : Nat :=
  let (intPart, rest) := normalized.span (· ≠ '.')
  let cleanFrac := onlyDigits (rest.tail.takeWhile (· ≠ '.'))
  let paddedFrac := (cleanFrac ++ List.replicate 5 '0').take 5
  let scaled := Inventory.digitsValue (onlyDigits intPart) * 10000 + Inventory.digitsValue (paddedFrac.take 4)
  if 5 ≤ Inventory.digitsValue (paddedFrac.drop 4) then scaled + 1 else scaled

def parseScaledDecimal (value : String) : Scaled :=
  let raw := trim value.toList
  if raw = [] ∨ raw = ['N', 'a', 'N'] then 0
  else
    match raw with
    | '-' :: rest => -readMagnitude (trim rest)
    | '+' :: rest => readMagnitude (trim rest)
    | _ => readMagnitude raw

/-- To whole VND. -/
def formatScaledDecimal (scaled : Scaled) : String := toString (wholeMoney scaled)

namespace Decimals

/-- With up to four `decimals`, which the source takes as a second argument. -/
def formatScaledDecimal (scaled : Scaled) (decimals : Nat) : String :=
  let negative : Bool := scaled < 0
  let abs := scaled.natAbs
  if decimals = 0 then
    let rounded := (abs + 10000 / 2) / 10000
    (if negative ∧ 0 < rounded then "-" else "") ++ toString rounded
  else
    let factor := 10 ^ (4 - decimals)
    let rounded := (abs + factor / 2) / factor
    let targetScale := 10 ^ decimals
    let intPart := rounded / targetScale
    let fracPart := rounded % targetScale
    let sign := if negative ∧ (0 < intPart ∨ 0 < fracPart) then "-" else ""
    sign ++ toString intPart ++ "." ++ String.ofList (Decimal.padded decimals fracPart)

def addDecimals (a b : String) (decimals : Nat) : String :=
  formatScaledDecimal (parseScaledDecimal a + parseScaledDecimal b) decimals

def subDecimals (a b : String) (decimals : Nat) : String :=
  formatScaledDecimal (parseScaledDecimal a - parseScaledDecimal b) decimals

def mulDecimals (a b : String) (decimals : Nat) : String :=
  formatScaledDecimal (mulScaled (parseScaledDecimal a) (parseScaledDecimal b)) decimals

end Decimals

def computeInventoryValuation (qty avgUnitCost : String) : String :=
  if parseScaledDecimal qty ≤ 0 then formatScaledDecimal 0
  else formatScaledDecimal (mulScaled (parseScaledDecimal qty) (parseScaledDecimal avgUnitCost))

def computeWeightedAverageCost (currentOnHandQty currentAvgCost receivedQty receivedUnitCost : String) : String :=
  let curQty := parseScaledDecimal currentOnHandQty
  let curCost := parseScaledDecimal currentAvgCost
  let recQty := parseScaledDecimal receivedQty
  let recCost := parseScaledDecimal receivedUnitCost
  if recQty ≤ 0 then formatScaledDecimal curCost
  else if curQty ≤ 0 then formatScaledDecimal recCost
  else
    let totalQty := curQty + recQty
    let totalVal := curQty * curCost + recQty * recCost
    formatScaledDecimal ((totalVal + totalQty.tdiv 2).tdiv totalQty)

end Insight
