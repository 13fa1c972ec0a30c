import SnippetCost.Number.Binary64

/-!
# The shortest decimal that reads back

A number of the 64-bit format is written with the fewest digits that identify it: among the decimals
that round to the number, one with the fewest digits, and of those the nearest.

The decimals that round to a number form an interval, from halfway to the neighbour below to halfway to
the neighbour above; its ends belong to it if the number is an even count of steps.  For `n = 1, 2, …`
digits the search tries the two decimals of `n` digits on either side of the number; the first `n` with
one of them in the interval wins.  `decimalNotation` then lays the digits out.
-/

namespace SnippetCost.Number

namespace Binary64

/-- The interval of a positive number, in half units: its ends, and whether they belong to it.  Below a
power of two the neighbour is only half as far. -/
def halfUnitInterval (units : Nat) : Nat × Nat × Bool :=
  let step := gridStep units
  let below := if units = twoTo units.log2 ∧ 1 < step then step / 2 else step
  (2 * units - below, 2 * units + step, (units / step) % 2 == 0)

/-- `digits * 10 ^ exponent` ones, against `halves` half units: the two products whose order is the
order of the two. -/
def crossProducts (digits : Nat) (exponent : Int) (halves : Nat) : Nat × Nat :=
  (digits * tenTo exponent.toNat * (2 * unitsPerOne), halves * tenTo (-exponent).toNat)

/-- Does the decimal `digits * 10 ^ exponent` round to this positive number? -/
def readsBack (units digits : Nat) (exponent : Int) : Bool :=
  let (low, high, closed) := halfUnitInterval units
  let (a, l) := crossProducts digits exponent low
  let (b, h) := crossProducts digits exponent high
  (l < a || (closed && l == a)) && (b < h || (closed && b == h))

/-- How often the number has to be multiplied by ten to reach one, at most `fuel` times. -/
def leadingZeros : Nat → Nat → Nat
  | 0, _ => 0
  | fuel + 1, units => if unitsPerOne ≤ units then 0 else leadingZeros fuel (units * 10) + 1

/-- The place of the decimal point behind the first digit's: the least `k` such that the number is
below `10 ^ k`. -/
def pointPlace (units : Nat) : Int :=
  if unitsPerOne ≤ units then (Nat.toDigits 10 (units / unitsPerOne)).length
  else 1 - (leadingZeros 400 units : Int)

/-- The decimal of `count` digits that identifies the number, if there is one: the nearer of the two
around the number, a tie to the even one. -/
def candidate? (units : Nat) (place : Int) (count : Nat) : Option (Nat × Int) :=
  let exponent := place - count
  let scaled := units * tenTo (-exponent).toNat
  let grid := unitsPerOne * tenTo exponent.toNat
  let lower := scaled / grid
  let rest := 2 * (scaled % grid)
  let nearer := if rest < grid ∨ (rest = grid ∧ lower % 2 = 0) then lower else lower + 1
  let farther := if nearer = lower then lower + 1 else lower
  if readsBack units nearer exponent then some (nearer, exponent)
  else if readsBack units farther exponent then some (farther, exponent)
  else none

/-- The digits and the exponent of the shortest decimal of a positive number.  Seventeen digits always
suffice; should none of them do, the number is written out in full. -/
def shortest (units : Nat) : Nat × Int :=
  let place := pointPlace units
  ((List.range 17).findSome? fun n => candidate? units place (n + 1)).getD
    (units * Nat.pow 5 1074, -1074)

end Binary64

/-! ## Layout -/

/-- The exponent behind the mark: its sign and at least two digits. -/
def exponentText (e : Int) : List Char :=
  let digits := Nat.toDigits 10 e.natAbs
  (if e < 0 then '-' else '+') :: (if digits.length < 2 then '0' :: digits else digits)

/-- Lays out digits with the decimal point `place` digits behind the first one's left edge.  First digits
from the fourth place behind the point to the sixteenth before it are written positionally, with at
least one digit on either side of the point; all others with an exponent. -/
def layOut (digits : List Char) (place : Int) : List Char :=
  if place ≤ -4 ∨ 16 < place then
    match digits with
    | [] => []
    | [d] => d :: 'e' :: exponentText (place - 1)
    | d :: ds => d :: '.' :: ds ++ 'e' :: exponentText (place - 1)
  else if place ≤ 0 then
    '0' :: '.' :: List.replicate (-place).toNat '0' ++ digits
  else if place.toNat < digits.length then
    digits.take place.toNat ++ '.' :: digits.drop place.toNat
  else
    digits ++ List.replicate (place.toNat - digits.length) '0' ++ ['.', '0']

/-- Digits without the zeros at their end. -/
def stripZeros (digits : List Char) : List Char :=
  (digits.reverse.dropWhile (· == '0')).reverse

/-- The text of a finite number without its sign. -/
def magnitudeText (units : Nat) : List Char :=
  if units = 0 then ['0', '.', '0']
  else
    let (digits, exponent) := Binary64.shortest units
    let ds := Nat.toDigits 10 digits
    layOut (stripZeros ds) (ds.length + exponent)

/-- The text of a number: the shortest decimal that reads back, and words for what is not finite. -/
def Binary64.text : Binary64 → String
  | .nan => "nan"
  | .infinite negative => if negative then "-inf" else "inf"
  | .finite negative units =>
    String.ofList ((if negative then ['-'] else []) ++ magnitudeText units)

end SnippetCost.Number
