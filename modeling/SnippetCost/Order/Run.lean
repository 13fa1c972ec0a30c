/-!
# Runs

A run is a stretch of a list that is in order already.  `leadingRun` takes the longest one a list starts
with, turning round one that is in strictly opposite order, and `nextRun` brings a short one to a least
length by inserting the elements that follow it.  The relation "before" can be any; for one that is no
order the steps taken here are what the result is defined by.
-/

namespace SnippetCost

variable {α : Type}

/-! ## Insertion -/

/-- The place for `x` among the elements of `xs` from `low` up to `high`: halve, and go left of the
middle element if `x` is before it, right of it otherwise. -/
def insertionPlace (before : α → α → Bool) (x : α) (xs : List α) (low high : Nat) : Nat :=
  if low < high then
    let middle := low + (high - low) / 2
    match xs[middle]? with
    | some y =>
      if before x y then insertionPlace before x xs low middle
      else insertionPlace before x xs (middle + 1) high
    | none => low
  else low
termination_by high - low

/-- Puts `x` into its place in a run. -/
def insertSorted (before : α → α → Bool) (xs : List α) (x : α) : List α :=
  let place := insertionPlace before x xs 0 xs.length
  xs.take place ++ x :: xs.drop place

/-! ## Runs of a list -/

/-- The longest beginning of the list each element of which stands in the relation `follows` to the
element in front of it, the first one to `last`; and the rest. -/
def spanRun (follows : α → α → Bool) (last : α) : List α → List α × List α
  | [] => ([], [])
  | x :: xs =>
    if follows last x then
      let (run, rest) := spanRun follows x xs
      (x :: run, rest)
    else ([], x :: xs)

/-- The leading run of a list, in order, and what follows it.  A run in strictly opposite order is
turned round. -/
def leadingRun (before : α → α → Bool) : List α → List α × List α
  | [] => ([], [])
  | [x] => ([x], [])
  | x :: y :: ys =>
    if before y x then
      let (run, rest) := spanRun (fun a b => before b a) y ys
      ((x :: y :: run).reverse, rest)
    else
      let (run, rest) := spanRun (fun a b => !before b a) y ys
      (x :: y :: run, rest)

/-- The leading run, brought to the length `least` by insertion if that many elements are there; and the
rest. -/
def nextRun (before : α → α → Bool) (least : Nat) (xs : List α) : List α × List α :=
  let (run, rest) := leadingRun before xs
  let missing := least - run.length
  ((rest.take missing).foldl (insertSorted before) run, rest.drop missing)

/-- The list cut into runs, with at most `count` of them. -/
def runsUpTo (before : α → α → Bool) (least : Nat) : Nat → List α → List (List α)
  | 0, _ => []
  | _ + 1, [] => []
  | count + 1, x :: xs =>
    let (run, rest) := nextRun before least (x :: xs)
    run :: runsUpTo before least count rest

/-- The list cut into runs of a least length. -/
def runs (before : α → α → Bool) (least : Nat) (xs : List α) : List (List α) :=
  runsUpTo before least xs.length xs

/-! ## The least length -/

/-- The lists that are sorted by insertion alone are shorter than this. -/
def insertionLimit : Nat := 64

/-- `n` halved until it is below the limit, plus one if anything was lost on the way. -/
def leastRunFrom (lost n : Nat) : Nat :=
  if n < insertionLimit then n + lost
  else leastRunFrom (max lost (n % 2)) (n / 2)
termination_by n
decreasing_by
  simp only [insertionLimit] at *
  omega

/-- The least length of the runs of a list of `n` elements: such that the number of runs is a power of two
or little below one. -/
def leastRun (n : Nat) : Nat :=
  leastRunFrom 0 n

end SnippetCost
