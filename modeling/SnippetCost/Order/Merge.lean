/-!
# Merging two runs

Two neighbouring runs become one.  What stands at the far ends in its place already is left alone, and the
rest is merged from the front or from the back, from the side where the shorter run is set aside.  Merging
compares element by element until one run has won often enough in a row; then it gallops: whole stretches
are found by strides that double, followed by halving.  How often is enough is the *patience*, which one
merge hands on to the next, because galloping that pays makes it smaller and galloping that does not makes
it larger.

For an order the result is the merge of the two runs in which the first one goes ahead on a tie; for a
relation that is none these steps are what it is defined by.
-/

namespace SnippetCost

variable {α : Type}

/-! ## Searching -/

/-- Does the element with this number have a property? -/
def holdsAt (p : α → Bool) (xs : List α) (i : Nat) : Bool :=
  (xs[i]?.map p).getD false

/-- Strides of 1, 3, 7, … as long as the property holds where they end, and below `limit`: the last end at
which it holds, and the first at which it does not. -/
def strides (p : Nat → Bool) (limit last next : Nat) : Nat × Nat :=
  if next < limit then
    if p next then strides p limit next (2 * next + 1) else (last, next)
  else (last, limit)
termination_by limit - next

/-- Halves the stretch from `low` up to `high` until it is known where the property ends.  Of two
middle elements the first is asked if `early` is set, the second otherwise. -/
def halve (early : Bool) (p : Nat → Bool) (low high : Nat) : Nat :=
  if low < high then
    let middle := low + (high - low - early.toNat) / 2
    if p middle then halve early p (middle + 1) high else halve early p low middle
  else high
termination_by high - low
decreasing_by
  all_goals cases early <;> simp <;> omega

/-- The number of elements at the start of a list that have a property, if those that have it are all in
front. -/
def leadCount (early : Bool) (p : α → Bool) (xs : List α) : Nat :=
  if holdsAt p xs 0 then
    let (last, next) := strides (holdsAt p xs) xs.length 0 1
    halve early (holdsAt p xs) (last + 1) next
  else 0

/-! ## The state of a merge -/

/-- The end at which a merge starts. -/
inductive MergeSide where
  | front
  | back
  deriving DecidableEq, Repr

/-- How a merge is done.  Lists are seen from the side at which it starts. -/
structure MergeRules (α : Type) where
  side : MergeSide
  /-- Does an element of the second run come out ahead of one of the first? -/
  overtakes : α → α → Bool

/-- A merge on its way: what is left of both runs, what has come out, last one first, and the
patience. -/
structure MergeState (α : Type) where
  first : List α
  second : List α
  merged : List α
  patience : Nat

/-- What a merge gives: the elements as they come out, and the patience for the next merge. -/
structure Merged (α : Type) where
  elements : List α
  patience : Nat

namespace MergeState

/-- The end of the merge, the rest coming out as it is given. -/
def finish (s : MergeState α) (rest : List α) : Merged α :=
  ⟨s.merged.reverse ++ rest, s.patience⟩

/-- Elements of the first run come out. -/
def takeFirst (count : Nat) (s : MergeState α) : MergeState α :=
  { s with first := s.first.drop count, merged := (s.first.take count).reverse ++ s.merged }

/-- Elements of the second run come out. -/
def takeSecond (count : Nat) (s : MergeState α) : MergeState α :=
  { s with second := s.second.drop count, merged := (s.second.take count).reverse ++ s.merged }

end MergeState

/-- What comes out last, if the merge is decided: one of the runs is used up, or the one set aside is down
to one element, which is known to come out last. -/
def decided? (aside other : List α) : Option (List α) :=
  match other, aside with
  | [], aside => some aside
  | other, [] => some other
  | other, [x] => some (other ++ [x])
  | _, _ => none

namespace MergeRules

/-- Goes on, unless the merge is decided. -/
def settle (r : MergeRules α) (s : MergeState α) : Except (Merged α) (MergeState α) :=
  let rest? := match r.side with
    | .front => decided? s.first s.second
    | .back => decided? s.second s.first
  match rest? with
  | some rest => .error (s.finish rest)
  | none => .ok s

/-- The first element to come out, which is of the run that is not set aside. -/
def start (r : MergeRules α) (s : MergeState α) : Except (Merged α) (MergeState α) :=
  r.settle (match r.side with
    | .front => s.takeSecond 1
    | .back => s.takeFirst 1)

/-- One comparison: the element that comes out, and whether it is of the second run. -/
def compareOnce (r : MergeRules α) (s : MergeState α) : Except (Merged α) (MergeState α × Bool) :=
  match s.first, s.second with
  | x :: _, y :: _ => do
    let won := r.overtakes y x
    let s ← r.settle (if won then s.takeSecond 1 else s.takeFirst 1)
    return (s, won)
  | _, _ => .error (s.finish (s.first ++ s.second))

/-- The number of elements that come out of the first run ahead of the second one. -/
def firstStretch (r : MergeRules α) (s : MergeState α) : Nat :=
  match s.second with
  | [] => 0
  | y :: _ => leadCount (r.side == .back) (fun x => !r.overtakes y x) s.first

/-- The number of elements that come out of the second run ahead of the first one. -/
def secondStretch (r : MergeRules α) (s : MergeState α) : Nat :=
  match s.first with
  | [] => 0
  | x :: _ => leadCount (r.side == .back) (fun y => r.overtakes y x) s.second

/-- The least length of a stretch for which galloping pays. -/
def worthwhile : Nat := 7

/-- A round of galloping: a stretch of the first run, an element of the second, a stretch of the second, an
element of the first.  The answer says whether it paid. -/
def gallop (r : MergeRules α) (s : MergeState α) : Except (Merged α) (MergeState α × Bool) := do
  let ahead := r.firstStretch s
  let s ← r.settle (s.takeFirst ahead)
  let s ← r.settle (s.takeSecond 1)
  let behind := r.secondStretch s
  let s ← r.settle (s.takeSecond behind)
  let s ← r.settle (s.takeFirst 1)
  return (s, decide (worthwhile ≤ ahead) || decide (worthwhile ≤ behind))

end MergeRules

/-! ## The merge -/

/-- How a merge goes on. -/
inductive MergeMode where
  /-- Element by element, each run having won so many times in a row. -/
  | comparing (firstWins secondWins : Nat)
  | galloping
  deriving DecidableEq, Repr

/-- The merge from a state on, in at most so many steps. -/
def MergeRules.proceed (r : MergeRules α) : Nat → MergeMode → MergeState α → Merged α
  | 0, _, s => s.finish (s.first ++ s.second)
  | fuel + 1, .comparing firstWins secondWins, s =>
    match r.compareOnce s with
    | .error merged => merged
    | .ok (s, true) =>
      if s.patience ≤ secondWins + 1 then
        r.proceed fuel .galloping { s with patience := s.patience + 1 }
      else r.proceed fuel (.comparing 0 (secondWins + 1)) s
    | .ok (s, false) =>
      if s.patience ≤ firstWins + 1 then
        r.proceed fuel .galloping { s with patience := s.patience + 1 }
      else r.proceed fuel (.comparing (firstWins + 1) 0) s
  | fuel + 1, .galloping, s =>
    match r.gallop { s with patience := max 1 (s.patience - 1) } with
    | .error merged => merged
    | .ok (s, true) => r.proceed fuel .galloping s
    | .ok (s, false) => r.proceed fuel (.comparing 0 0) { s with patience := s.patience + 1 }

/-- The merge of two runs, as seen from the side at which it starts. -/
def MergeRules.merge (r : MergeRules α) (first second : List α) (patience : Nat) : Merged α :=
  match r.start ⟨first, second, [], patience⟩ with
  | .error merged => merged
  | .ok s => r.proceed (first.length + second.length) (.comparing 0 0) s

/-- The merge of two runs neither of which is empty after what is in its place already has been put
aside. -/
def mergeInner (before : α → α → Bool) (left right : List α) (patience : Nat) : Merged α :=
  if left.length ≤ right.length then
    MergeRules.merge ⟨.front, before⟩ left right patience
  else
    let merged := MergeRules.merge ⟨.back, fun y x => !before y x⟩ left.reverse right.reverse patience
    { merged with elements := merged.elements.reverse }

/-- The merge of two neighbouring runs. -/
def mergeRuns (before : α → α → Bool) (left right : List α) (patience : Nat) : Merged α :=
  match right with
  | [] => ⟨left, patience⟩
  | y :: _ =>
    let settledLeft := leadCount false (fun x => !before y x) left
    match (left.drop settledLeft).getLast? with
    | none => ⟨left ++ right, patience⟩
    | some x =>
      let settledRight := leadCount true (fun z => !before z x) right.reverse
      match right.take (right.length - settledRight) with
      | [] => ⟨left ++ right, patience⟩
      | y :: ys =>
        let merged := mergeInner before (left.drop settledLeft) (y :: ys) patience
        { merged with
          elements := left.take settledLeft ++ merged.elements ++
            right.drop (right.length - settledRight) }

end SnippetCost
