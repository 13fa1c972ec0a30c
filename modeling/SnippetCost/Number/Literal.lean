import SnippetCost.Number.Binary64
import SnippetCost.Text.Blank
import SnippetCost.Text.DecimalDigit

/-!
# Numbers written as text

Two grammars.  White space may stand around a numeral, one underscore may stand between two digits,
and a digit may be of any script.

* An *integer* is an optional sign and digits, at most 4300 of them.
* A *decimal* is an optional sign and either one of the words `inf`, `infinity` and `nan` in any case,
  or digits with at most one point among or beside them and an optional exponent.  It stands for the
  number of the 64-bit format nearest to it.
-/

namespace SnippetCost.Number

open SnippetCost.Text

/-- The greatest number of digits an integer may be written with. -/
def maxIntegerDigits : Nat := 4300

/-- The number an optional sign leaves behind: was it a minus, and what follows it. -/
def takeSign : List Char → Bool × List Char
  | '-' :: cs => (true, cs)
  | '+' :: cs => (false, cs)
  | cs => (false, cs)

/-- Every underscore of the text stands between two digits; `afterDigit` says whether a digit stands
before the text. -/
def underscoresSeparate (afterDigit : Bool) : List Char → Bool
  | [] => true
  | '_' :: c :: cs => afterDigit && isDigit c && underscoresSeparate true cs
  | ['_'] => false
  | c :: cs => underscoresSeparate (isDigit c) cs

/-- The text without white space around it and without the underscores that separate digits, if all of
them do. -/
def numeralText? (cs : List Char) : Option (List Char) :=
  let cs := trimWhere isWhiteSpace cs
  if underscoresSeparate false cs then some (cs.filter (· != '_')) else none

/-! ## Integers -/

/-- The integer a non-empty run of digits writes, unless there are too many of them. -/
def natOfDigits? (cs : List Char) : Option Nat :=
  if cs.isEmpty || !cs.all isDigit || cs.length > maxIntegerDigits then none
  else some (digitsValue cs)

/-- Reads an integer. -/
def readInt? (s : String) : Option Int := do
  let cs ← numeralText? s.toList
  let (negative, digits) := takeSign cs
  let n ← natOfDigits? digits
  return if negative then -(n : Int) else n

/-! ## Decimals -/

/-- The number `digits * 10 ^ exponent`, where `digits` has `count` digits.  Far outside the range of
the format the answer is known without writing the number out. -/
def ofScientific (negative : Bool) (digits count : Nat) (exponent : Int) : Binary64 :=
  if digits = 0 ∨ exponent + count < -400 then .finite negative 0
  else if 400 < exponent then .infinite negative
  else
    .ofQuotient negative (digits * tenTo exponent.toNat * Binary64.unitsPerOne)
      (tenTo (-exponent).toNat)

/-- The exponent part of a decimal, which may be missing. -/
def readExponent? : List Char → Option Int
  | [] => some 0
  | c :: cs =>
    if c = 'e' ∨ c = 'E' then
      let (negative, digits) := takeSign cs
      if digits.isEmpty || !digits.all isDigit then none
      else some (if negative then -(digitsValue digits : Int) else digitsValue digits)
    else none

/-- Reads digits, an optional point with digits, and an optional exponent. -/
def readMagnitude? (negative : Bool) (cs : List Char) : Option Binary64 := do
  let whole := cs.takeWhile isDigit
  let rest := cs.dropWhile isDigit
  let (fraction, rest) := match rest with
    | '.' :: rest => (rest.takeWhile isDigit, rest.dropWhile isDigit)
    | rest => ([], rest)
  let digits := whole ++ fraction
  if digits.isEmpty then none
  else
    let exponent ← readExponent? rest
    return ofScientific negative (digitsValue digits) digits.length (exponent - fraction.length)

/-- Reads a decimal. -/
def readDecimal? (s : String) : Option Binary64 := do
  let cs ← numeralText? s.toList
  let (negative, cs) := takeSign cs
  let word := String.ofList (cs.map Char.toLower)
  if word == "nan" then return .nan
  else if word == "inf" || word == "infinity" then return .infinite negative
  else readMagnitude? negative cs

end SnippetCost.Number
