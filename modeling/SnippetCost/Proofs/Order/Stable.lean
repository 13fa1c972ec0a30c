import Mathlib.Data.List.Sort
import Mathlib.Order.OrderDual
import SnippetCost.Order.Stable

/-!
# Sorting by a rank

A relation "before" for which "neither is before the other" is an equivalence is that of a *rank* in a linear order.
A list that is sorted by it has its ranks in order, and the elements of one rank as they came
(`filter_mergeSort`): so what is true of any two elements of one rank, the first in front of the second, stays true
when the list is sorted, in ascending and in descending order.  These two traits leave one list only
(`eq_of_filter_rank_eq`).

* **`pairwise_sortBy`** and **`pairwise_sortDescendingBy`** say what sorting keeps, for a relation that goes by the rank
  on the elements of the list; elsewhere it can be any.
* **`sortBy_filter`** and **`sortBy_sortBy`**: sorting commutes with a choice among the elements, and is done once.
-/

namespace SnippetCost

variable {α κ : Type} [LinearOrder κ]

/-- The comparison of ranks. -/
def rankLe (rank : α → κ) (a b : α) : Bool :=
  decide (rank a ≤ rank b)

theorem rankLe_trans (rank : α → κ) (a b c : α) (hab : rankLe rank a b = true) (hbc : rankLe rank b c = true) :
    rankLe rank a c = true :=
  decide_eq_true ((of_decide_eq_true hab).trans (of_decide_eq_true hbc))

theorem rankLe_total (rank : α → κ) (a b : α) : (rankLe rank a b || rankLe rank b a) = true := by
  simp only [rankLe, Bool.or_eq_true, decide_eq_true_eq]
  exact le_total _ _

/-- **Sorting is stable**: the elements of a rank are the same, and in the same order. -/
theorem filter_mergeSort (rank : α → κ) (xs : List α) (k : κ) :
    (xs.mergeSort (rankLe rank)).filter (fun a => decide (rank a = k)) =
      xs.filter fun a => decide (rank a = k) := by
  have hsame : (xs.filter fun a => decide (rank a = k)).Pairwise fun a b => rankLe rank a b = true := by
    refine List.pairwise_of_forall_mem_list fun a ha b hb => ?_
    have hrankA : rank a = k := of_decide_eq_true (List.mem_filter.mp ha).2
    have hrankB : rank b = k := of_decide_eq_true (List.mem_filter.mp hb).2
    exact decide_eq_true (hrankA.trans hrankB.symm).le
  have hsublist := (List.sublist_mergeSort (rankLe_trans rank) (rankLe_total rank) hsame
    List.filter_sublist).filter fun a => decide (rank a = k)
  simp only [List.filter_filter, Bool.and_self] at hsublist
  exact (hsublist.eq_of_length ((List.mergeSort_perm xs _).filter _).length_eq.symm).symm

/-- The ranks of a sorted list do not fall. -/
theorem pairwise_rank_mergeSort (rank : α → κ) (xs : List α) :
    (xs.mergeSort (rankLe rank)).Pairwise fun a b => rank a ≤ rank b :=
  (List.pairwise_mergeSort (rankLe_trans rank) (rankLe_total rank) xs).imp of_decide_eq_true

/-! ## Lists with their ranks in order -/

section Classes

variable {rank : α → κ} {xs ys : List α}

/-- Lists with the same elements of each rank have the same elements. -/
theorem mem_iff_of_filter_rank_eq
    (h : ∀ k, xs.filter (fun a => decide (rank a = k)) = ys.filter fun a => decide (rank a = k)) (a : α) :
    a ∈ xs ↔ a ∈ ys := by
  have hclass : a ∈ xs.filter (fun b => decide (rank b = rank a)) ↔
      a ∈ ys.filter fun b => decide (rank b = rank a) := by
    rw [h]
  simpa using hclass

/-- The first element has the least rank. -/
theorem rank_head_le {x y : α} (h : (x :: xs).Pairwise fun a b => rank a ≤ rank b) (hy : y ∈ x :: xs) :
    rank x ≤ rank y := by
  rcases List.mem_cons.mp hy with rfl | hy
  · exact le_rfl
  · exact List.rel_of_pairwise_cons h hy

/-- **A list with its ranks in order is determined by the elements of each rank.** -/
theorem eq_of_filter_rank_eq (hxs : xs.Pairwise fun a b => rank a ≤ rank b)
    (hys : ys.Pairwise fun a b => rank a ≤ rank b)
    (h : ∀ k, xs.filter (fun a => decide (rank a = k)) = ys.filter fun a => decide (rank a = k)) : xs = ys := by
  induction xs generalizing ys with
  | nil =>
      symm
      rw [List.eq_nil_iff_forall_not_mem]
      intro a ha
      exact List.not_mem_nil ((mem_iff_of_filter_rank_eq h a).mpr ha)
  | cons x xs ih =>
      cases ys with
      | nil => exact absurd ((mem_iff_of_filter_rank_eq h x).mp List.mem_cons_self) List.not_mem_nil
      | cons y ys =>
          -- Both heads have the least rank there is, so they are the first elements of one rank.
          have hrank : rank x = rank y := by
            apply le_antisymm
            · exact rank_head_le hxs ((mem_iff_of_filter_rank_eq h y).mpr List.mem_cons_self)
            · exact rank_head_le hys ((mem_iff_of_filter_rank_eq h x).mp List.mem_cons_self)
          have hheads := h (rank y)
          simp only [List.filter_cons, hrank, decide_true, if_true] at hheads
          obtain rfl : x = y := (List.cons.inj hheads).1
          have htails : ∀ k, xs.filter (fun a => decide (rank a = k)) = ys.filter fun a => decide (rank a = k) := by
            intro k
            have hk := h k
            by_cases hx : rank x = k
            · simpa [List.filter_cons, hx] using hk
            · simpa [List.filter_cons, hx] using hk
          rw [ih hxs.of_cons hys.of_cons htails]

/-- **Sorting commutes with a choice among the elements.** -/
theorem mergeSort_filter (rank : α → κ) (p : α → Bool) (xs : List α) :
    (xs.filter p).mergeSort (rankLe rank) = (xs.mergeSort (rankLe rank)).filter p := by
  apply eq_of_filter_rank_eq (pairwise_rank_mergeSort rank _) ((pairwise_rank_mergeSort rank _).filter p)
  intro k
  rw [filter_mergeSort, List.filter_comm, ← filter_mergeSort rank xs, List.filter_comm]

end Classes

/-! ## Relations that go by a rank -/

section Relation

variable {R : α → α → Prop} {xs : List α}

/-- Sorted by rank, and elements of equal rank related as they were before. -/
theorem pairwise_mergeSort_rank (rank : α → κ) (h : xs.Pairwise R) :
    (xs.mergeSort (rankLe rank)).Pairwise fun a b => rank a ≤ rank b ∧ (rank a = rank b → R a b) := by
  refine (pairwise_rank_mergeSort rank xs).and ?_
  rw [List.pairwise_iff_forall_sublist]
  intro a b hpair hrank
  -- Two elements of one rank stand in the sublist of that rank, which is that of the list before.
  have hclass := hpair.filter fun c => decide (rank c = rank b)
  rw [filter_mergeSort] at hclass
  have hboth : [a, b].filter (fun c => decide (rank c = rank b)) = [a, b] := by
    simp [hrank]
  rw [hboth] at hclass
  exact List.pairwise_iff_forall_sublist.mp h (hclass.trans List.filter_sublist)

/-- Sorting compares no elements but those of the list. -/
theorem mergeSort_congr {le le' : α → α → Bool} (h : ∀ a ∈ xs, ∀ b ∈ xs, le a b = le' a b) :
    xs.mergeSort le = xs.mergeSort le' := by
  have hmap := List.map_mergeSort (f := id) h
  rwa [List.map_id, List.map_id] at hmap

variable {rank : α → κ} {before : α → α → Bool}

/-- Sorting by the relation is sorting by the rank. -/
theorem sortBy_eq_mergeSort (agree : ∀ a ∈ xs, ∀ b ∈ xs, before a b = decide (rank a < rank b)) :
    sortBy before xs = xs.mergeSort (rankLe rank) := by
  refine mergeSort_congr fun a ha b hb => ?_
  rw [agree b hb a ha, rankLe, ← decide_not, decide_eq_decide, not_lt]

/-- **Ascending order**: the ranks do not fall, and elements of equal rank are related as they were. -/
theorem pairwise_sortBy (agree : ∀ a ∈ xs, ∀ b ∈ xs, before a b = decide (rank a < rank b)) (h : xs.Pairwise R) :
    (sortBy before xs).Pairwise fun a b => rank a ≤ rank b ∧ (rank a = rank b → R a b) := by
  rw [sortBy_eq_mergeSort agree]
  exact pairwise_mergeSort_rank rank h

/-- **Descending order**: the ranks do not rise, and elements of equal rank are still related as they were. -/
theorem pairwise_sortDescendingBy (agree : ∀ a ∈ xs, ∀ b ∈ xs, before a b = decide (rank a < rank b))
    (h : xs.Pairwise R) :
    (sortDescendingBy before xs).Pairwise fun a b => rank b ≤ rank a ∧ (rank a = rank b → R a b) := by
  have hsort : sortDescendingBy before xs = xs.mergeSort (rankLe fun a => OrderDual.toDual (rank a)) := by
    refine mergeSort_congr fun a ha b hb => ?_
    rw [agree a ha b hb, rankLe, ← decide_not, decide_eq_decide, not_lt]
    exact Iff.rfl
  rw [hsort]
  exact pairwise_mergeSort_rank (fun a => OrderDual.toDual (rank a)) h

/-- Elements of one rank stay as they came. -/
theorem filter_sortBy (agree : ∀ a ∈ xs, ∀ b ∈ xs, before a b = decide (rank a < rank b)) (k : κ) :
    (sortBy before xs).filter (fun a => decide (rank a = k)) = xs.filter fun a => decide (rank a = k) := by
  rw [sortBy_eq_mergeSort agree, filter_mergeSort]

/-- It is the same to choose before sorting or after it. -/
theorem sortBy_filter (agree : ∀ a ∈ xs, ∀ b ∈ xs, before a b = decide (rank a < rank b)) (p : α → Bool) :
    sortBy before (xs.filter p) = (sortBy before xs).filter p := by
  have agree' : ∀ a ∈ xs.filter p, ∀ b ∈ xs.filter p, before a b = decide (rank a < rank b) := fun a ha b hb =>
    agree a (List.mem_of_mem_filter ha) b (List.mem_of_mem_filter hb)
  rw [sortBy_eq_mergeSort agree, sortBy_eq_mergeSort agree', mergeSort_filter]

/-- A list that is sorted stays as it is. -/
theorem sortBy_sortBy (agree : ∀ a ∈ xs, ∀ b ∈ xs, before a b = decide (rank a < rank b)) :
    sortBy before (sortBy before xs) = sortBy before xs := by
  have agree' : ∀ a ∈ sortBy before xs, ∀ b ∈ sortBy before xs, before a b = decide (rank a < rank b) :=
    fun a ha b hb => agree a (List.mem_mergeSort.mp ha) b (List.mem_mergeSort.mp hb)
  rw [sortBy_eq_mergeSort agree', sortBy_eq_mergeSort agree]
  exact List.mergeSort_of_pairwise
    ((pairwise_rank_mergeSort rank xs).imp fun {_ _} hle => decide_eq_true hle)

end Relation

end SnippetCost
