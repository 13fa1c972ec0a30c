import Mathlib
import SnippetCost.Proofs.Number.Rounding

/-!
# The order of numbers

Numbers that are defined are in a linear order: those of equal rank are the two zeros, or the same number
(`Binary64.lt_eq_rank`).  So the greatest of some defined numbers is one of them, and none of them is above it
(`Binary64.maximum_lt_eq_false`).  A whole number of up to 53 binary places is a number of the format as it stands
(`Binary64.ofInt_eq`), so such numbers are in the order they are in as integers (`Binary64.ofInt_lt_ofInt`).
-/

namespace SnippetCost.Number.Binary64

/-! ## Ranks -/

/-- The place of a number among all of them: below and above all others if it is infinite, and by its units
otherwise.  An undefined number has no place, and the one it is given here counts for nothing. -/
def rank : Binary64 → WithBot (WithTop ℤ)
  | .nan => ⊥
  | .infinite true => ⊥
  | .infinite false => ((⊤ : WithTop ℤ) : WithBot (WithTop ℤ))
  | .finite negative units => ((signedUnits negative units : WithTop ℤ) : WithBot (WithTop ℤ))

/-- **Comparison goes by rank**, where both numbers are defined. -/
theorem lt_eq_rank {x y : Binary64} (hx : x ≠ .nan) (hy : y ≠ .nan) : x.lt y = decide (x.rank < y.rank) := by
  cases x with
  | nan => exact absurd rfl hx
  | infinite s =>
      cases y with
      | nan => exact absurd rfl hy
      | infinite t => cases s <;> cases t <;> simp [lt, rank]
      | finite t n => cases s <;> simp [lt, rank]
  | finite s m =>
      cases y with
      | nan => exact absurd rfl hy
      | infinite t =>
          cases t with
          | true => simp [lt, rank]
          | false => exact (decide_eq_true (WithBot.coe_lt_coe.mpr (WithTop.coe_lt_top _))).symm
      | finite t n => simp [lt, rank]

/-! ## Signs and ends -/

/-- A finite number is defined. -/
theorem finite_ne_nan (s : Bool) (m : Nat) : finite s m ≠ .nan := by
  simp

/-- So is an infinite one. -/
theorem infinite_ne_nan (s : Bool) : infinite s ≠ .nan := by
  simp

/-- A finite number is below the one end and above the other. -/
theorem lt_infinite (s t : Bool) (m : Nat) : (finite s m).lt (.infinite t) = !t := rfl

/-- The same from the end. -/
theorem infinite_lt (s t : Bool) (n : Nat) : (infinite s).lt (.finite t n) = s := rfl

/-- Without signs the units are compared. -/
theorem lt_finite (m n : Nat) : (finite false m).lt (.finite false n) = decide (m < n) := by
  simp [lt, signedUnits]

/-- No number without a sign is below one with a sign. -/
theorem lt_negative (m n : Nat) : (finite false m).lt (.finite true n) = false := by
  simp [lt, signedUnits]

/-- A number with a sign is below one without, unless both are zero. -/
theorem negative_lt (m n : Nat) : (finite true m).lt (.finite false n) = decide (0 < m + n) := by
  simp only [lt, signedUnits, if_true, Bool.false_eq_true, if_false, decide_eq_decide]
  omega

/-! ## The greatest -/

/-- The better of two numbers, the first of them among equals. -/
def better (best y : Binary64) : Binary64 :=
  if best.lt y then y else best

theorem maximum_cons (start x : Binary64) (xs : List Binary64) : maximum start (x :: xs) = xs.foldl better x := rfl

/-- The better of two defined numbers is below neither. -/
theorem rank_le_better {best y : Binary64} (hbest : best ≠ .nan) (hy : y ≠ .nan) :
    best.rank ≤ (better best y).rank ∧ y.rank ≤ (better best y).rank := by
  unfold better
  rw [lt_eq_rank hbest hy]
  split
  · rename_i hlt
    exact ⟨(of_decide_eq_true hlt).le, le_rfl⟩
  · rename_i hge
    exact ⟨le_rfl, not_lt.mp fun hlt => hge (decide_eq_true hlt)⟩

theorem better_mem (best y : Binary64) : better best y = best ∨ better best y = y := by
  unfold better
  split
  · exact .inr rfl
  · exact .inl rfl

/-- The best of some numbers, where `best` stands before them, is one of them. -/
theorem foldl_better_mem (best : Binary64) (xs : List Binary64) : xs.foldl better best ∈ best :: xs := by
  induction xs generalizing best with
  | nil => exact List.mem_singleton_self best
  | cons y xs ih =>
      rw [List.foldl_cons]
      rcases List.mem_cons.mp (ih (better best y)) with hbetter | hmem
      · rw [hbetter]
        rcases better_mem best y with h | h
        · rw [h]
          exact List.mem_cons_self
        · rw [h]
          exact List.mem_cons_of_mem _ List.mem_cons_self
      · exact List.mem_cons_of_mem _ (List.mem_cons_of_mem _ hmem)

/-- None of these numbers, if all are defined, is above the best of them. -/
theorem rank_le_foldl_better {best : Binary64} {xs : List Binary64} (defined : ∀ x ∈ best :: xs, x ≠ .nan) :
    ∀ x ∈ best :: xs, x.rank ≤ (xs.foldl better best).rank := by
  induction xs generalizing best with
  | nil => exact List.forall_mem_singleton.mpr le_rfl
  | cons y xs ih =>
      rw [List.forall_mem_cons, List.forall_mem_cons] at defined
      obtain ⟨hbest, hy, hxs⟩ := defined
      obtain ⟨best_le, y_le⟩ := rank_le_better hbest hy
      have hbetter : better best y ≠ .nan := by
        rcases better_mem best y with h | h <;> rwa [h]
      obtain ⟨hnext, hrest⟩ := List.forall_mem_cons.mp (ih (List.forall_mem_cons.mpr ⟨hbetter, hxs⟩))
      rw [List.forall_mem_cons, List.forall_mem_cons, List.foldl_cons]
      exact ⟨best_le.trans hnext, y_le.trans hnext, hrest⟩

/-- The greatest of some numbers is one of them. -/
theorem maximum_mem (start : Binary64) {xs : List Binary64} (h : xs ≠ []) : maximum start xs ∈ xs := by
  cases xs with
  | nil => exact absurd rfl h
  | cons x xs =>
      rw [maximum_cons]
      exact foldl_better_mem x xs

/-- What holds of all numbers, and of what stands for the greatest of none, holds of the greatest. -/
theorem maximum_of_forall {P : Binary64 → Prop} {start : Binary64} (hstart : P start) {xs : List Binary64}
    (h : ∀ x ∈ xs, P x) : P (maximum start xs) := by
  cases xs with
  | nil => exact hstart
  | cons x xs => exact h _ (maximum_mem start (List.cons_ne_nil x xs))

/-- **No defined number is above the greatest of them.** -/
theorem maximum_lt_eq_false (start : Binary64) {xs : List Binary64} (defined : ∀ x ∈ xs, x ≠ .nan) {x : Binary64}
    (h : x ∈ xs) : (maximum start xs).lt x = false := by
  have hmem := maximum_mem start (List.ne_nil_of_mem h)
  rw [lt_eq_rank (defined _ hmem) (defined x h), decide_eq_false_iff_not, not_lt]
  cases xs with
  | nil => cases h
  | cons y xs =>
      rw [maximum_cons]
      exact rank_le_foldl_better defined x h

/-! ## Whole numbers -/

/-- A count of units that stands on its own grid is not rounded. -/
theorem roundUnits_one {units : Nat} (h : gridStep units ∣ units) : roundUnits units 1 = units := by
  have hround := roundUnits_mul Nat.one_pos h
  rwa [Nat.mul_one] at hround

theorem log2_twoTo (n : Nat) : (twoTo n).log2 = n :=
  Nat.log2_two_pow

/-- A whole number of up to 53 binary places stands on its own grid. -/
theorem gridStep_dvd_ones {n : Nat} (h : n ≤ twoTo 53) : gridStep (n * unitsPerOne) ∣ n * unitsPerOne := by
  rcases Nat.lt_or_eq_of_le h with hlt | rfl
  · have hunits : n * unitsPerOne < twoTo 53 * unitsPerOne := Nat.mul_lt_mul_of_pos_right hlt unitsPerOne_pos
    exact (gridStep_dvd_unitsPerOne le_rfl hunits).mul_left n
  · rw [unitsPerOne, ← twoTo_add, gridStep, log2_twoTo]
    exact twoTo_dvd (Nat.sub_le _ _)

/-- **A whole number of up to 53 binary places** is a number of the format as it stands. -/
theorem ofInt_eq {n : Int} (h : n.natAbs ≤ twoTo 53) :
    ofInt n = .finite (n < 0) (n.natAbs * unitsPerOne) := by
  have hlimit : n.natAbs * unitsPerOne < unitsLimit := by
    calc n.natAbs * unitsPerOne ≤ twoTo 53 * unitsPerOne := Nat.mul_le_mul_right _ h
      _ = twoTo (53 + 1074) := by rw [twoTo_add, unitsPerOne]
      _ < unitsLimit := twoTo_lt (by decide)
  rw [ofInt, ofQuotient, roundUnits_one (gridStep_dvd_ones h), ofUnits, if_pos hlimit]

/-- Without a sign in front, its units are as many ones. -/
theorem ofInt_natCast {n : Nat} (h : n ≤ twoTo 53) : ofInt (n : Int) = .finite false (n * unitsPerOne) := by
  rw [ofInt_eq (n := n) h, Int.natAbs_natCast, decide_eq_false (Int.not_lt.mpr (Int.natCast_nonneg n))]

theorem signedUnits_ones (n : Int) :
    signedUnits (n < 0) (n.natAbs * unitsPerOne) = n * unitsPerOne := by
  unfold signedUnits
  rw [Nat.cast_mul]
  rcases lt_or_ge n 0 with hneg | hpos
  · rw [if_pos (decide_eq_true hneg), ← neg_mul, Int.ofNat_natAbs_of_nonpos hneg.le, neg_neg]
  · rw [if_neg (by simpa using hpos), Int.natAbs_of_nonneg hpos]

/-- **Whole numbers keep their order.** -/
theorem ofInt_lt_ofInt {m n : Int} (hm : m.natAbs ≤ twoTo 53) (hn : n.natAbs ≤ twoTo 53) :
    (ofInt m).lt (ofInt n) = decide (m < n) := by
  have hpos : (0 : ℤ) < unitsPerOne := Int.natCast_pos.mpr unitsPerOne_pos
  rw [ofInt_eq hm, ofInt_eq hn, lt, signedUnits_ones, signedUnits_ones, decide_eq_decide]
  exact Int.mul_lt_mul_right hpos

end SnippetCost.Number.Binary64
