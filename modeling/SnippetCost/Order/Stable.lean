/-!
# Stable sorting

Sorting by an order that is given as "before": elements of which neither is before the other keep the
places they have to each other, in ascending and in descending order.  For an order in which "neither
before the other" is an equivalence there is one such arrangement; `Order.RunMerge` is for relations that
are not of this kind.
-/

namespace SnippetCost

variable {α : Type}

/-- The list in order, elements of which neither is before the other as they came. -/
def sortBy (before : α → α → Bool) (xs : List α) : List α :=
  xs.mergeSort fun a b => !before b a

/-- The list in the opposite order, elements of which neither is before the other still as they
came. -/
def sortDescendingBy (before : α → α → Bool) (xs : List α) : List α :=
  xs.mergeSort fun a b => !before a b

end SnippetCost
