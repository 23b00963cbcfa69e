import RetailApi.Base.JsString

/-! The check digit of a numeric barcode, and products as a CSV file. -/

namespace Catalog

/-- `Number(digit)` -/
def digitNumber (digit : Char) : Nat := digit.toNat - '0'.toNat

/-- From right to left, weights alternate 3, 1, 3, 1. -/
def weight (posFromRight : Nat) : Nat := if posFromRight % 2 = 1 then 3 else 1

/-- The loop of the checksum over the digits that are left, the rightmost first. -/
def weightedSum (sum posFromRight : Nat) : List Char → Nat
  | [] => sum
  | digit :: rest => weightedSum (sum + digitNumber digit * weight posFromRight) (posFromRight + 1) rest

def verifyGs1Checksum (digits : String) : Bool :=
  if !digits.toList.all Char.isDigit || digits.toList.length < 8 then false
  else
    match digits.toList.reverse with
    | [] => false
    | expectedCheck :: rest =>
      let sum := weightedSum 0 1 rest
      (10 - sum % 10) % 10 == digitNumber expectedCheck

/-- What a cell is made of; `String(value)` of anything but a string is printed as it is. -/
inductive CsvValue where
  | missing
  | text (letters : String)
  | other (printed : String)

/-- `/^[=+\-@\t\r]/` -/
def startsFormula (letters : List Char) : Bool := letters.head?.any (· ∈ ['=', '+', '-', '@', '\t', '\r'])

def guardFormula (letters : List Char) : List Char := if startsFormula letters then "'".toList ++ letters else letters

/-- `replace(/"/g, '""')` -/
def doubleQuotes (letters : List Char) : List Char := letters.flatMap fun letter => if letter = '"' then ['"', '"'] else [letter]

def quoteCell (letters : List Char) : List Char :=
  if letters.any (· ∈ ['"', ',', '\r', '\n']) then '"' :: doubleQuotes letters ++ ['"'] else letters

def csvCell : CsvValue → List Char
  | .missing => []
  | .text letters => quoteCell (guardFormula letters.toList)
  | .other printed => quoteCell printed.toList

def csvRow (values : List CsvValue) : List Char := [','].intercalate (values.map csvCell)

/-- Where the loop of the parser stands. -/
structure CsvReader where
  rows : List (List String) := []
  row : List String := []
  cell : List Char := []

namespace CsvReader

def put (reader : CsvReader) (letter : Char) : CsvReader := { reader with cell := reader.cell ++ [letter] }

def endCell (reader : CsvReader) : CsvReader := { reader with row := reader.row ++ [String.ofList reader.cell], cell := [] }

def endRow (reader : CsvReader) : CsvReader := { rows := reader.rows ++ [reader.endCell.row] }

/-- The loop over the letters that are left, inside quotes or outside. -/
def read (reader : CsvReader) (quoted : Bool) : List Char → CsvReader
  | [] => reader
  | letter :: rest =>
    if quoted then
      if letter = '"' then
        if rest.head? = some '"' then (reader.put '"').read true rest.tail else reader.read false rest
      else (reader.put letter).read true rest
    else if letter = '"' then reader.read true rest
    else if letter = ',' then reader.endCell.read false rest
    else if letter = '\n' ∨ letter = '\r' then
      reader.endRow.read false (if letter = '\r' ∧ rest.head? = some '\n' then rest.tail else rest)
    else (reader.put letter).read false rest
termination_by letters => letters.length
decreasing_by all_goals grind

def finish (reader : CsvReader) : List (List String) :=
  if reader.cell ≠ [] ∨ reader.row ≠ [] then reader.endRow.rows else reader.rows

end CsvReader

def parseCsv (input : String) : List (List String) :=
  let text := if input.toList.head? = some (Char.ofNat 0xFEFF) then input.toList.tail else input.toList
  (({} : CsvReader).read false text).finish.filter fun row => row.any fun cell => JsString.trimmed cell ≠ ""

end Catalog
