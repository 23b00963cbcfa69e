/-! JavaScript's string functions, on the letters of a string. -/

namespace JsString

open Char

/-- What `String.prototype.trim` strips. -/
def isSpace (letter : Char) : Bool :=
  letter.isWhitespace || letter.toNat ∈ [0x0B, 0x0C, 0xA0, 0x1680, 0x2028, 0x2029, 0x202F, 0x205F, 0x3000, 0xFEFF]
    || (0x2000 ≤ letter.toNat && letter.toNat ≤ 0x200A)

def trim (letters : List Char) : List Char :=
  ((letters.dropWhile isSpace).reverse.dropWhile isSpace).reverse

/-- `text.trim()` -/
def trimmed (text : String) : String := String.ofList (trim text.toList)

/-- `toUpperCase` of one letter, as far as ASCII comes out of it. Every other letter stands for its
upper-case form: neither is ASCII. -/
def upperLetter (letter : Char) : List Char :=
  if 'a' ≤ letter ∧ letter ≤ 'z' then [letter.toUpper]
  else match letter.toNat with
  | 0xDF => ['S', 'S']
  | 0x131 => ['I']
  | 0x149 => [ofNat 0x2BC, 'N']
  | 0x17F => ['S']
  | 0x1F0 => ['J', ofNat 0x30C]
  | 0x1E96 => ['H', ofNat 0x331]
  | 0x1E97 => ['T', ofNat 0x308]
  | 0x1E98 => ['W', ofNat 0x30A]
  | 0x1E99 => ['Y', ofNat 0x30A]
  | 0x1E9A => ['A', ofNat 0x2BE]
  | 0xFB00 => ['F', 'F']
  | 0xFB01 => ['F', 'I']
  | 0xFB02 => ['F', 'L']
  | 0xFB03 => ['F', 'F', 'I']
  | 0xFB04 => ['F', 'F', 'L']
  | 0xFB05 | 0xFB06 => ['S', 'T']
  | _ => [letter]

/-- `toLowerCase` of one letter, as far as ASCII comes out of it; every other letter stands for its lower-case form. -/
def lowerLetter (letter : Char) : List Char :=
  if 'A' ≤ letter ∧ letter ≤ 'Z' then [letter.toLower]
  else match letter.toNat with
  | 0x130 => ['i', ofNat 0x307]
  | 0x212A => ['k']
  | _ => [letter]

/-- `text.toUpperCase()` -/
def toUpperCase (text : String) : String := String.ofList (text.toList.flatMap upperLetter)

/-- `text.trim().toUpperCase()` -/
def upperTrimmed (text : String) : String := toUpperCase (trimmed text)

/-- `text.toLowerCase()` -/
def toLowerCase (text : String) : String := String.ofList (text.toList.flatMap lowerLetter)

/-- `replace(/\s+/g, '-')`; `inSpace` says that the letter before was a space. -/
def dashSpaces (inSpace : Bool) : List Char → List Char
  | [] => []
  | letter :: rest =>
    if isSpace letter then if inSpace then dashSpaces true rest else '-' :: dashSpaces true rest
    else letter :: dashSpaces false rest

end JsString
