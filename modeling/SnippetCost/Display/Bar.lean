import SnippetCost.Result.Sorting

/-!
# Bars

A bar shows a number beside the greatest of its column: so many full blocks, and blanks up to the width.
-/

namespace SnippetCost

open Number

/-- The longest text there can be. -/
def textLimit : Nat := 9223372036854775807

/-- A character so many times; none for a negative number. -/
def repeated (c : Char) (count : Int) : Except ValueFault (List Char) :=
  if (textLimit : Int) < count ∨ count < -(textLimit : Int) - 1 then .error .tooLong
  else .ok (List.replicate count.toNat c)

/-- The part of the peak that a value is; zero for a peak that is not positive and for a text that is no
number. -/
def fractionOf (value : String) (peak : Binary64) : Binary64 :=
  if peak.isPositive then ((readDecimal? value).map (·.div peak)).getD .zero else .zero

/-- The number of full blocks of a bar. -/
def fullBlocks (value : String) (peak : Binary64) (width : Int) : Except ValueFault Int := do
  let columns ← numberOfInt width
  ((fractionOf value peak).mul columns).round.mapError ValueFault.noInteger

/-- The bar of a value. -/
def bar (value : String) (peak : Binary64) (width : Int) : Except ValueFault String := do
  let full ← fullBlocks value peak width
  let blocks ← repeated '█' full
  let blanks ← repeated ' ' (width - full)
  return String.ofList (blocks ++ blanks)

/-- The width of the bars in tables. -/
def barWidth : Int := 12

end SnippetCost
