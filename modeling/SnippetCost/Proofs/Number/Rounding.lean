import Mathlib.Tactic.Ring
import SnippetCost.Number.Literal

/-!
# Rounding within bounds

An exact result that does not pass a whole number does not pass it when it is rounded either
(`Binary64.roundUnits_le`), because whole numbers of moderate size stand on every grid below them.  So the
quotient of a number and a greater one is at most one, and twelve times that is at most twelve.

Rounding to integers keeps the order (`roundHalfEven_mono`), and a result that is a number of the format is not rounded
(`Binary64.roundUnits_mul`).
-/

namespace SnippetCost.Number

/-- The nearest integer does not pass an integer that the quotient does not pass. -/
theorem roundHalfEven_le {num den bound : Nat} (hden : 0 < den) (h : num ≤ bound * den) :
    roundHalfEven num den ≤ bound := by
  have hwhole : num / den ≤ bound := Nat.div_le_of_le_mul (by rwa [Nat.mul_comm])
  unfold roundHalfEven
  dsimp only
  split
  · exact hwhole
  · rename_i hup
    -- Rounding up means that there is a rest, so the quotient is below the bound.
    have hrest : 0 < num % den := by
      by_contra hzero
      exact hup (.inl (by omega))
    have hlt : num / den < bound := by
      by_contra hge
      have hsplit := Nat.div_add_mod num den
      have hmul := Nat.mul_le_mul_left den (Nat.le_of_not_lt hge)
      rw [Nat.mul_comm bound] at h
      omega
    exact hlt

/-- Rounding does not lose a whole part. -/
theorem div_le_roundHalfEven (num den : Nat) : num / den ≤ roundHalfEven num den := by
  unfold roundHalfEven
  dsimp only
  split <;> omega

/-- Rounding passes the whole part by one at most. -/
theorem roundHalfEven_le_succ (num den : Nat) : roundHalfEven num den ≤ num / den + 1 := by
  unfold roundHalfEven
  dsimp only
  split <;> omega

/-- **The nearest integer keeps the order.** -/
theorem roundHalfEven_mono {m n : Nat} (den : Nat) (h : m ≤ n) : roundHalfEven m den ≤ roundHalfEven n den := by
  have hwhole : m / den ≤ n / den := Nat.div_le_div_right h
  rcases Nat.lt_or_eq_of_le hwhole with hlt | heq
  · calc roundHalfEven m den ≤ m / den + 1 := roundHalfEven_le_succ m den
      _ ≤ n / den := hlt
      _ ≤ roundHalfEven n den := div_le_roundHalfEven n den
  · -- The whole parts are the same, so the rests are in order, and the greater one is not rounded down alone.
    have hrest : m % den ≤ n % den := by
      have hm := Nat.div_add_mod m den
      have hn := Nat.div_add_mod n den
      rw [heq] at hm
      omega
    unfold roundHalfEven
    dsimp only
    rw [heq]
    split <;> split <;> omega

/-- A whole number is its own nearest integer. -/
theorem roundHalfEven_mul (count : Nat) {den : Nat} (hden : 0 < den) : roundHalfEven (count * den) den = count := by
  unfold roundHalfEven
  rw [Nat.mul_mod_left, Nat.mul_div_cancel count hden]
  exact if_pos (.inl hden)

/-! ## Powers of two -/

theorem twoTo_pos (n : Nat) : 0 < twoTo n :=
  Nat.two_pow_pos n

/-- Powers of two are multiplied by adding their exponents. -/
theorem twoTo_add (m n : Nat) : twoTo (m + n) = twoTo m * twoTo n :=
  Nat.pow_add 2 m n

/-- The smaller of two powers divides the larger. -/
theorem twoTo_dvd {m n : Nat} (h : m ≤ n) : twoTo m ∣ twoTo n :=
  Nat.pow_dvd_pow 2 h

theorem twoTo_lt {m n : Nat} (h : m < n) : twoTo m < twoTo n :=
  Nat.pow_lt_pow_right Nat.one_lt_two h

/-- A number below a power of two has a smaller exponent. -/
theorem log2_lt_of_lt_twoTo {m n : Nat} (h : m < twoTo n) (hn : 0 < n) : m.log2 < n := by
  rcases Nat.eq_zero_or_pos m with rfl | hm
  · rwa [Nat.log2_zero]
  · exact (Nat.log2_lt hm.ne').mpr h

namespace Binary64

/-! ## Rounding in units -/

/-- One has some units. -/
theorem unitsPerOne_pos : 0 < unitsPerOne :=
  twoTo_pos 1074

/-- One stands on the grid of every number of moderate size. -/
theorem gridStep_dvd_unitsPerOne {units bound : Nat} (moderate : bound ≤ twoTo 53)
    (h : units < bound * unitsPerOne) : gridStep units ∣ unitsPerOne := by
  have hunits : units < twoTo 53 * unitsPerOne := h.trans_le (Nat.mul_le_mul_right _ moderate)
  rw [unitsPerOne, ← twoTo_add] at hunits
  have hlog := log2_lt_of_lt_twoTo hunits (by decide)
  exact twoTo_dvd (by omega)

/-- A rounded result does not pass a whole number that the exact one does not pass. -/
theorem roundUnits_le {num den bound : Nat} (moderate : bound < twoTo 53) (hden : 0 < den)
    (h : num ≤ bound * unitsPerOne * den) : roundUnits num den ≤ bound * unitsPerOne := by
  have hquotient : num / den ≤ bound * unitsPerOne := Nat.div_le_of_le_mul (by rwa [Nat.mul_comm])
  have hlt : num / den < (bound + 1) * unitsPerOne := by
    have := unitsPerOne_pos
    rw [Nat.add_mul]
    omega
  obtain ⟨count, hcount⟩ := gridStep_dvd_unitsPerOne (Nat.succ_le_of_lt moderate) hlt
  have hstep : 0 < gridStep (num / den) := twoTo_pos _
  have hsteps : roundHalfEven num (den * gridStep (num / den)) ≤ bound * count := by
    refine roundHalfEven_le (Nat.mul_pos hden hstep) ?_
    calc num ≤ bound * unitsPerOne * den := h
      _ = bound * (gridStep (num / den) * count) * den := by rw [← hcount]
      _ = bound * count * (den * gridStep (num / den)) := by ring
  calc roundUnits num den = roundHalfEven num (den * gridStep (num / den)) * gridStep (num / den) := rfl
    _ ≤ bound * count * gridStep (num / den) := Nat.mul_le_mul_right _ hsteps
    _ = bound * (gridStep (num / den) * count) := by ring
    _ = bound * unitsPerOne := by rw [← hcount]

/-- A count of units that stands on its own grid is the quotient it is. -/
theorem roundUnits_mul {units den : Nat} (hden : 0 < den) (h : gridStep units ∣ units) :
    roundUnits (units * den) den = units := by
  obtain ⟨count, hcount⟩ := h
  have hstep : 0 < gridStep units := twoTo_pos _
  have hsteps : units * den = count * (den * gridStep units) := by
    calc units * den = gridStep units * count * den := by rw [← hcount]
      _ = count * (den * gridStep units) := by ring
  unfold roundUnits
  dsimp only
  rw [Nat.mul_div_cancel units hden, hsteps, roundHalfEven_mul count (Nat.mul_pos hden hstep), Nat.mul_comm,
    ← hcount]

/-- A quotient of moderate size is not rounded out of range. -/
theorem roundUnits_lt_unitsLimit {num den bound : Nat} (moderate : bound < twoTo 53) (hden : 0 < den)
    (h : num ≤ bound * unitsPerOne * den) : roundUnits num den < unitsLimit := by
  calc roundUnits num den ≤ bound * unitsPerOne := roundUnits_le moderate hden h
    _ ≤ twoTo 53 * unitsPerOne := Nat.mul_le_mul_right _ moderate.le
    _ = twoTo (53 + 1074) := by rw [twoTo_add, unitsPerOne]
    _ < unitsLimit := twoTo_lt (by decide)

/-- A quotient that is not rounded out of range is a number of the format. -/
theorem ofQuotient_eq {num den : Nat} (negative : Bool) (h : roundUnits num den < unitsLimit) :
    ofQuotient negative num den = .finite negative (roundUnits num den) := by
  unfold ofQuotient ofUnits
  rw [if_pos h]

end Binary64

end SnippetCost.Number
