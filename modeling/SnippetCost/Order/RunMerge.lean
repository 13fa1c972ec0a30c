import SnippetCost.Order.Merge
import SnippetCost.Order.Run

/-!
# Sorting by merging runs

`sortByRuns before xs` cuts a list into runs and merges neighbours, in an order that keeps the merges
balanced.  It is defined for every relation "before": for an order it is stable sorting, and for a relation
that is none (numbers with an undefined one among them) it says what "sorted" means.

Which neighbours are merged first is decided by the *power* of the boundary between two runs: the first
binary place at which the middles of the two runs differ, as fractions of the whole list.  Runs wait on a
stack, and a boundary of a greater power than the new one is closed first.
-/

namespace SnippetCost

variable {α : Type}

/-- A run that waits for being merged. -/
structure PendingRun (α : Type) where
  /-- Where it starts in the whole list. -/
  start : Nat
  elements : List α
  /-- The power of the boundary to the run behind it. -/
  power : Nat

/-- The runs that wait, the last one first, and the patience for the next merge. -/
structure PendingRuns (α : Type) where
  stack : List (PendingRun α)
  patience : Nat

/-- The power of the boundary between two runs of these lengths, the first of which begins at `start`, in a
list of length `total`. -/
def boundaryPower (start left right total : Nat) : Nat :=
  ((List.range total).find? fun place =>
      (2 * start + left) <<< place / total !=
        (2 * start + 2 * left + right) <<< place / total).getD total

namespace PendingRuns

/-- Merges the last two runs as long as the boundary between them has a greater power. -/
def close (before : α → α → Bool) (power : Nat) : Nat → PendingRuns α → PendingRuns α
  | 0, s => s
  | fuel + 1, s =>
    match s.stack with
    | last :: previous :: rest =>
      if power < previous.power then
        let merged := mergeRuns before previous.elements last.elements s.patience
        close before power fuel
          ⟨{ previous with elements := merged.elements } :: rest, merged.patience⟩
      else s
    | _ => s

/-- Puts a run on the stack. -/
def push (before : α → α → Bool) (total : Nat) (s : PendingRuns α) (run : List α) : PendingRuns α :=
  match s.stack with
  | [] => { s with stack := [⟨0, run, 0⟩] }
  | last :: _ =>
    let power := boundaryPower last.start last.elements.length run.length total
    let s := s.close before power s.stack.length
    match s.stack with
    | [] => { s with stack := [⟨0, run, 0⟩] }
    | last :: rest =>
      { s with
        stack := ⟨last.start + last.elements.length, run, 0⟩ :: { last with power := power } :: rest }

/-- Merges all runs: the last two, or the two in front of the last one if the first of them is shorter than
the last. -/
def collapse (before : α → α → Bool) : Nat → PendingRuns α → List α
  | 0, s => (s.stack.reverse.map PendingRun.elements).flatten
  | fuel + 1, s =>
    match s.stack with
    | [] => []
    | [run] => run.elements
    | [last, previous] => (mergeRuns before previous.elements last.elements s.patience).elements
    | last :: previous :: third :: rest =>
      if third.elements.length < last.elements.length then
        let merged := mergeRuns before third.elements previous.elements s.patience
        collapse before fuel
          ⟨last :: { third with elements := merged.elements } :: rest, merged.patience⟩
      else
        let merged := mergeRuns before previous.elements last.elements s.patience
        collapse before fuel
          ⟨{ previous with elements := merged.elements } :: third :: rest, merged.patience⟩

end PendingRuns

/-- The patience at the start. -/
def initialPatience : Nat := 7

/-- The list sorted by merging its runs. -/
def sortByRuns (before : α → α → Bool) (xs : List α) : List α :=
  let pending := (runs before (leastRun xs.length) xs).foldl (PendingRuns.push before xs.length)
    ⟨[], initialPatience⟩
  pending.collapse before pending.stack.length

/-- The list sorted the other way: that of the list turned round, turned round again. -/
def sortDescendingByRuns (before : α → α → Bool) (xs : List α) : List α :=
  (sortByRuns before xs.reverse).reverse

end SnippetCost
