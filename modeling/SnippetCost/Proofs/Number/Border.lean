import Mathlib.Algebra.Order.Field.Basic
import SnippetCost.Proofs.Number.Literal
import SnippetCost.Proofs.Number.Range

/-!
# Between zero and infinity

Which decimals stand for a positive finite number.  One without a minus sign is rounded to zero up to half the least
positive number of the format (`halfUnit`), that itself being a tie which goes to zero, and to infinity from the end of
the range on (`rangeEnd`); between the two it stands for a positive finite number.

* **`Decimal.isFinite_and_isPositive_nearest_iff`**: all decimals, with their signs and the words for unusual numbers.

Far outside the range the reader does not write a number out; there the size of the digits and of the power of ten
decides (`ofScientific_cases`).
-/

namespace SnippetCost.Number

open SnippetCost.Text

/-- Half the least positive number of the format. -/
def halfUnit : ℚ :=
  1 / (2 * Binary64.unitsPerOne)

/-! ## Units above zero -/

namespace Binary64

/-- The step of the grid at a number does not pass the number. -/
theorem gridStep_le {units : Nat} (h : units ≠ 0) : gridStep units ≤ units :=
  (twoTo_le (Nat.sub_le _ _)).trans (Nat.log2_self_le h)

/-- **The border in units**: half of one is rounded to none, and more than that is not. -/
theorem roundUnits_pos_iff {num den : Nat} (hden : 0 < den) : 0 < roundUnits num den ↔ den < 2 * num := by
  have hstep : 0 < gridStep (num / den) := twoTo_pos _
  rcases Nat.eq_zero_or_pos (num / den) with hzero | hpos
  · have hlt : num < den := by
      rcases Nat.div_eq_zero_iff.mp hzero with h | h
      · omega
      · exact h
    have hgrid : gridStep 0 = 1 := rfl
    unfold roundUnits roundHalfEven
    rw [hzero, hgrid]
    dsimp only
    rw [Nat.mul_one, Nat.mul_one, hzero, Nat.mod_eq_of_lt hlt]
    split <;> omega
  · have hle : den ≤ num := by
      by_contra hlt
      exact hpos.ne' (Nat.div_eq_of_lt (Nat.lt_of_not_le hlt))
    have hwhole : 0 < num / (den * gridStep (num / den)) := by
      rw [← Nat.div_div_eq_div_mul]
      exact Nat.div_pos (gridStep_le hpos.ne') hstep
    have hround : 0 < roundHalfEven num (den * gridStep (num / den)) := hwhole.trans_le (div_le_roundHalfEven _ _)
    exact iff_of_true (Nat.mul_pos hround hstep) (by omega)

/-- A number without a sign is positive if it has any units. -/
theorem isPositive_ofUnits (units : Nat) : (ofUnits false units).isPositive = decide (0 < units) := by
  have hlimit : 0 < unitsLimit := twoTo_pos 2098
  unfold ofUnits
  split
  · simp [isPositive, zero, lt, signedUnits]
  · have hpos : 0 < units := by omega
    simp [isPositive, zero, lt, hpos]

/-- A number with a minus sign is not positive. -/
theorem isPositive_ofUnits_true (units : Nat) : (ofUnits true units).isPositive = false := by
  unfold ofUnits
  split
  · simp [isPositive, zero, lt, signedUnits]
  · rfl

/-- A quotient of whole numbers is rounded to a positive number exactly if it passes half a unit. -/
theorem isPositive_ofQuotient_ones_iff {n den : Nat} (hden : 0 < den) :
    (ofQuotient false (n * unitsPerOne) den).isPositive = true ↔ halfUnit < n / den := by
  have hden' : (0 : ℚ) < den := Nat.cast_pos.mpr hden
  have hunit : (0 : ℚ) < 2 * unitsPerOne := mul_pos two_pos (Nat.cast_pos.mpr unitsPerOne_pos)
  rw [ofQuotient, isPositive_ofUnits, decide_eq_true_iff, roundUnits_pos_iff hden, halfUnit,
    div_lt_div_iff₀ hunit hden', one_mul]
  have hcomm : 2 * (n * unitsPerOne) = n * (2 * unitsPerOne) := by ring
  rw [hcomm]
  exact_mod_cast Iff.rfl

/-- It is rounded to a finite number exactly if it stays below the end of the range. -/
theorem isFinite_ofQuotient_ones_iff {n den : Nat} (hden : 0 < den) :
    (ofQuotient false (n * unitsPerOne) den).isFinite = true ↔ (n : ℚ) / den < rangeEnd := by
  have hborder : ofQuotient false (n * unitsPerOne) den = .infinite false ↔ (rangeEnd : ℚ) ≤ n / den := by
    rw [ofQuotient_ones_eq_infinite_iff hden, le_div_iff₀ (Nat.cast_pos.mpr hden)]
    exact_mod_cast Iff.rfl
  rw [← not_le, ← hborder]
  rcases ofQuotient_finite_or_infinite (n * unitsPerOne) den with ⟨units, heq⟩ | heq
  · rw [heq]
    exact iff_of_true rfl nofun
  · rw [heq]
    exact iff_of_false nofun fun h => h rfl

end Binary64

/-! ## Digits and a power of ten -/

/-- A digit counts less than ten. -/
theorem digitValue?_getD_lt (c : Char) : (digitValue? c).getD 0 < 10 := by
  unfold digitValue?
  cases hzero : zeroOf? c.toNat with
  | none => exact Nat.succ_pos 9
  | some first =>
      have hrun := List.find?_some hzero
      rw [Bool.and_eq_true, decide_eq_true_iff, decide_eq_true_iff] at hrun
      show c.toNat - first < 10
      omega

/-- So do digits less than a power of ten. -/
theorem digitsValue_lt (cs : List Char) : digitsValue cs < 10 ^ cs.length := by
  induction cs using List.reverseRecOn with
  | nil => exact Nat.one_pos
  | append_singleton cs c ih =>
      have hlast : digitsValue [c] < 10 := by
        have := digitValue?_getD_lt c
        simpa [digitsValue] using this
      rw [digitsValue_append, List.length_append, List.length_singleton, pow_one, pow_succ]
      omega

/-- A power of ten as a quotient of two whole ones, one of which is one. -/
theorem tenTo_toNat_div (e : Int) : (tenTo e.toNat : ℚ) / tenTo (-e).toNat = 10 ^ e := by
  have hcast : ∀ n : Nat, (tenTo n : ℚ) = 10 ^ n := fun n => by simp [tenTo]
  rcases Int.eq_nat_or_neg e with ⟨n, rfl | rfl⟩
  · simp [hcast]
  · simp [hcast]

/-- A power of ten passes every power of two with a third more places. -/
theorem twoTo_le_ten_pow {n k : Nat} (h : n ≤ 3 * k) : twoTo n ≤ 10 ^ k := by
  calc twoTo n ≤ twoTo (3 * k) := twoTo_le h
    _ = 8 ^ k := Nat.pow_mul 2 3 k
    _ ≤ 10 ^ k := Nat.pow_le_pow_left (by decide) k

/-- Numbers with so many places behind the point are rounded to zero. -/
theorem ten_zpow_le_halfUnit {e : Int} (h : e ≤ -401) : (10 : ℚ) ^ e ≤ halfUnit := by
  have hunit : 2 * Binary64.unitsPerOne ≤ 10 ^ 401 := by
    rw [Binary64.unitsPerOne, ← twoTo_succ]
    exact twoTo_le_ten_pow (by decide)
  have hpos : (0 : ℚ) < 2 * Binary64.unitsPerOne := mul_pos two_pos (Nat.cast_pos.mpr Binary64.unitsPerOne_pos)
  calc (10 : ℚ) ^ e ≤ 10 ^ (-401 : Int) := zpow_le_zpow_right₀ (by norm_num) h
    _ = 1 / 10 ^ 401 := by rw [one_div]; rfl
    _ ≤ halfUnit := one_div_le_one_div_of_le hpos (by exact_mod_cast hunit)

/-- Numbers with so many zeros in front of the point are rounded to infinity. -/
theorem rangeEnd_le_ten_zpow {e : Int} (h : 401 ≤ e) : (rangeEnd : ℚ) ≤ 10 ^ e := by
  have hend : rangeEnd ≤ 10 ^ 401 := (Nat.sub_le _ _).trans (twoTo_le_ten_pow (by decide))
  calc (rangeEnd : ℚ) ≤ ((10 ^ 401 : Nat) : ℚ) := Nat.cast_le.mpr hend
    _ = 10 ^ (401 : Int) := by rw [Nat.cast_pow]; rfl
    _ ≤ 10 ^ e := zpow_le_zpow_right₀ (by norm_num) h

/-- Half of the least number is above zero. -/
theorem halfUnit_pos : 0 < halfUnit :=
  one_div_pos.mpr (mul_pos two_pos (Nat.cast_pos.mpr Binary64.unitsPerOne_pos))

/-- **How digits are rounded**: out of hand where they are far outside the range, and as a quotient otherwise. -/
theorem ofScientific_cases {digits count : Nat} (exponent : Int) (hcount : digits < 10 ^ count) :
    (ofScientific false digits count exponent = .finite false 0 ∧ digits * (10 : ℚ) ^ exponent ≤ halfUnit) ∨
    (ofScientific false digits count exponent = .infinite false ∧ rangeEnd ≤ digits * (10 : ℚ) ^ exponent) ∨
    ∃ n den : Nat, 0 < den ∧ digits * (10 : ℚ) ^ exponent = n / den ∧
      ofScientific false digits count exponent = .ofQuotient false (n * Binary64.unitsPerOne) den := by
  have hten : (0 : ℚ) < 10 ^ exponent := zpow_pos (by norm_num) _
  unfold ofScientific
  split
  · rename_i hsmall
    refine .inl ⟨rfl, ?_⟩
    rcases hsmall with rfl | hsmall
    · rw [Nat.cast_zero, zero_mul]
      exact halfUnit_pos.le
    · have hcast : (digits : ℚ) ≤ 10 ^ (count : Int) := by exact_mod_cast hcount.le
      calc digits * (10 : ℚ) ^ exponent ≤ 10 ^ (count : Int) * 10 ^ exponent :=
            mul_le_mul_of_nonneg_right hcast hten.le
        _ = 10 ^ (count + exponent) := (zpow_add₀ (by norm_num) _ _).symm
        _ ≤ halfUnit := ten_zpow_le_halfUnit (by omega)
  rename_i hmoderate
  split
  · rename_i hlarge
    refine .inr (.inl ⟨rfl, ?_⟩)
    have hdigits : (1 : ℚ) ≤ digits := by
      exact_mod_cast Nat.one_le_iff_ne_zero.mpr fun h => hmoderate (.inl h)
    calc (rangeEnd : ℚ) ≤ 10 ^ exponent := rangeEnd_le_ten_zpow (by omega)
      _ = 1 * 10 ^ exponent := (one_mul _).symm
      _ ≤ digits * 10 ^ exponent := mul_le_mul_of_nonneg_right hdigits hten.le
  · refine .inr (.inr ⟨_, _, Nat.pow_pos (by decide), ?_, rfl⟩)
    rw [Nat.cast_mul, mul_div_assoc]
    exact congrArg _ (tenTo_toNat_div exponent).symm

/-- A decimal with a minus sign is never positive. -/
theorem isPositive_ofScientific_true (digits count : Nat) (exponent : Int) :
    (ofScientific true digits count exponent).isPositive = false := by
  unfold ofScientific
  split
  · rfl
  split
  · rfl
  · exact Binary64.isPositive_ofUnits_true _

/-! ## Decimals -/

/-- The numeral writes a number in the range of the format, more than what is rounded to zero. -/
def Numeral.InRange (n : Numeral) : Prop :=
  halfUnit < n.amount ∧ n.amount < rangeEnd

/-- **A numeral without a minus sign can be used exactly if it is in range.** -/
theorem Numeral.isFinite_and_isPositive_nearest_iff (n : Numeral) :
    ((n.nearest false).isFinite = true ∧ (n.nearest false).isPositive = true) ↔ n.InRange := by
  have hcount := digitsValue_lt (n.whole ++ n.fraction)
  unfold Numeral.InRange Numeral.nearest Numeral.amount
  rcases ofScientific_cases (n.exponent - n.fraction.length) hcount with
    ⟨heq, hsmall⟩ | ⟨heq, hlarge⟩ | ⟨m, den, hden, hamount, heq⟩
  · rw [heq]
    exact iff_of_false (fun h => nomatch h.2) fun h => absurd h.1 hsmall.not_gt
  · rw [heq]
    exact iff_of_false (fun h => nomatch h.1) fun h => absurd h.2 hlarge.not_gt
  · rw [heq, hamount, Binary64.isFinite_ofQuotient_ones_iff hden, Binary64.isPositive_ofQuotient_ones_iff hden]
    exact and_comm

/-- **Which decimals are positive finite numbers**: the numerals in range that have no minus sign. -/
theorem Decimal.isFinite_and_isPositive_nearest_iff (negative : Bool) (d : Decimal) :
    ((d.nearest negative).isFinite = true ∧ (d.nearest negative).isPositive = true) ↔
      negative = false ∧ ∃ n : Numeral, d = .numeral n ∧ n.InRange := by
  cases d with
  | undefined => exact iff_of_false (fun h => nomatch h.1) (by rintro ⟨-, n, hn, -⟩; cases hn)
  | infinite => exact iff_of_false (fun h => nomatch h.1) (by rintro ⟨-, n, hn, -⟩; cases hn)
  | numeral n =>
      cases negative with
      | true =>
          refine iff_of_false (fun h => ?_) (fun h => nomatch h.1)
          have hpositive := h.2
          rw [Decimal.nearest, Numeral.nearest, isPositive_ofScientific_true] at hpositive
          cases hpositive
      | false =>
          rw [Decimal.nearest, Numeral.isFinite_and_isPositive_nearest_iff]
          constructor
          · exact fun h => ⟨rfl, n, rfl, h⟩
          · rintro ⟨-, m, hm, h⟩
            cases hm
            exact h

end SnippetCost.Number
