/-!
# Binary floating point numbers of 64 bits, exactly

A finite number is a sign and a whole number of *units*, a unit being the least positive number of
the format, `2 ^ (-1074)`.  Every finite number of the format is such a multiple, so comparison is
comparison of natural numbers, and an operation is the exact result in units, rounded once:

* numbers below `2 ^ 53` units are all in the format;
* above that the format keeps 53 binary places, so the numbers with leading place `2 ^ k` stand
  `2 ^ (k - 52)` units apart (`gridStep`), and a result goes to the nearest of them, a tie to the one
  with an even count of steps (`roundUnits`);
* a result that rounds to `2 ^ 2098` units or more is infinite.
-/

namespace SnippetCost.Number

/-- The powers of two. -/
def twoTo (n : Nat) : Nat :=
  Nat.pow 2 n

/-- The powers of ten. -/
def tenTo (n : Nat) : Nat :=
  Nat.pow 10 n

/-- The quotient rounded to the nearest natural number, a half to the even neighbour. -/
def roundHalfEven (num den : Nat) : Nat :=
  let whole := num / den
  let rest := 2 * (num % den)
  if rest < den ∨ (rest = den ∧ whole % 2 = 0) then whole else whole + 1

/-- A number of the format. -/
inductive Binary64 where
  | nan
  | infinite (negative : Bool)
  | finite (negative : Bool) (units : Nat)
  deriving DecidableEq, Repr

namespace Binary64

/-- The number of units in one. -/
def unitsPerOne : Nat := twoTo 1074

/-- The least number of units that is out of range. -/
def unitsLimit : Nat := twoTo 2098

/-- The distance in units between neighbouring numbers of the size of `units`. -/
def gridStep (units : Nat) : Nat :=
  twoTo (units.log2 - 52)

/-- The quotient of `num` and `den`, in units, rounded to a number of the format. -/
def roundUnits (num den : Nat) : Nat :=
  let step := gridStep (num / den)
  roundHalfEven num (den * step) * step

/-- So many units of the format, or infinity if that is out of range. -/
def ofUnits (negative : Bool) (units : Nat) : Binary64 :=
  if units < unitsLimit then .finite negative units else .infinite negative

/-- The number nearest to `num / den` units. -/
def ofQuotient (negative : Bool) (num den : Nat) : Binary64 :=
  ofUnits negative (roundUnits num den)

/-- Zero, with its positive sign. -/
def zero : Binary64 := .finite false 0

/-- The number nearest to an integer. -/
def ofInt (n : Int) : Binary64 :=
  ofQuotient (n < 0) (n.natAbs * unitsPerOne) 1

/-- Is this number neither infinite nor undefined? -/
def isFinite : Binary64 → Bool
  | .finite _ _ => true
  | _ => false

/-! ## Comparison -/

/-- The signed number of units of a finite number. -/
def signedUnits (negative : Bool) (units : Nat) : Int :=
  if negative then -(units : Int) else units

/-- Less than.  An undefined number is in no order with anything; the two zeros are equal. -/
def lt : Binary64 → Binary64 → Bool
  | .nan, _ => false
  | _, .nan => false
  | .infinite s, .infinite t => s && !t
  | .infinite s, .finite _ _ => s
  | .finite _ _, .infinite t => !t
  | .finite s m, .finite t n => signedUnits s m < signedUnits t n

/-- Is the number above zero? -/
def isPositive (x : Binary64) : Bool :=
  zero.lt x

/-- The greatest of some numbers, the first of them among equals; `start` if there are none.  An
undefined number stays if it comes first and is passed over elsewhere. -/
def maximum (start : Binary64) : List Binary64 → Binary64
  | [] => start
  | x :: xs => xs.foldl (fun best y => if best.lt y then y else best) x

/-! ## Arithmetic -/

/-- The quotient.  A finite number over zero is infinite; zero over zero and infinity over infinity
are undefined. -/
def div : Binary64 → Binary64 → Binary64
  | .nan, _ => .nan
  | _, .nan => .nan
  | .infinite _, .infinite _ => .nan
  | .infinite s, .finite t _ => .infinite (s != t)
  | .finite s _, .infinite t => .finite (s != t) 0
  | .finite s m, .finite t n =>
    if n = 0 then (if m = 0 then .nan else .infinite (s != t))
    else ofQuotient (s != t) (m * unitsPerOne) n

/-- The product.  Zero times infinity is undefined. -/
def mul : Binary64 → Binary64 → Binary64
  | .nan, _ => .nan
  | _, .nan => .nan
  | .infinite s, .infinite t => .infinite (s != t)
  | .infinite s, .finite t n => if n = 0 then .nan else .infinite (s != t)
  | .finite s m, .infinite t => if m = 0 then .nan else .infinite (s != t)
  | .finite s m, .finite t n => ofQuotient (s != t) (m * n) unitsPerOne

/-! ## To integers -/

/-- Why a number has no nearest integer. -/
inductive NoInteger where
  | undefined
  | infinite
  deriving DecidableEq, Repr

/-- The message about a number without a nearest integer. -/
def NoInteger.message : NoInteger → String
  | .undefined => "cannot convert float NaN to integer"
  | .infinite => "cannot convert float infinity to integer"

/-- The nearest integer, a half to the even neighbour. -/
def round : Binary64 → Except NoInteger Int
  | .nan => .error .undefined
  | .infinite _ => .error .infinite
  | .finite s m => .ok (signedUnits s (roundHalfEven m unitsPerOne))

end Binary64

end SnippetCost.Number
