import SnippetCost.Proofs.Number.Order
import SnippetCost.Proofs.Number.Range

/-!
# Arithmetic on magnitudes

A magnitude is a finite number that is not below zero; zero may have either sign.  It is told by its units: magnitudes
compare as their units do, and the quotient of a magnitude and one that is not below it, a product of moderate size
and the nearest integer are again magnitudes, whose units are the exact ones rounded once (`IsMagnitude.div`,
`IsMagnitude.mul`, `IsMagnitude.round_eq`).

So all that the order needs is a fact of whole numbers:

* **`Binary64.roundUnits_mono`**: of two quotients with one denominator the greater one is not rounded to less.

Sums and differences are not looked at here, nor are quotients above the moderate size.
-/

namespace SnippetCost.Number.Binary64

/-! ## Rounding keeps the order -/

/-- **Rounding to the format keeps the order** of quotients with one denominator. -/
theorem roundUnits_mono {m n den : Nat} (hden : 0 < den) (h : m ≤ n) : roundUnits m den ≤ roundUnits n den := by
  have hlog : (m / den).log2 ≤ (n / den).log2 := by
    rw [Nat.log2_eq_log_two, Nat.log2_eq_log_two]
    exact Nat.log_mono_right (Nat.div_le_div_right h)
  by_cases hstep : gridStep (m / den) = gridStep (n / den)
  · -- Both are counted in the same steps.
    unfold roundUnits
    dsimp only
    rw [hstep]
    exact Nat.mul_le_mul_right _ (roundHalfEven_mono _ h)
  · -- Otherwise the step grows at a power of two between them, which neither passes.
    have hplaces : (m / den).log2 - 52 ≠ (n / den).log2 - 52 := fun heq => hstep (congrArg twoTo heq)
    have hbelow : m / den < twoTo (n / den).log2 := by
      calc m / den < twoTo ((m / den).log2 + 1) := Nat.lt_log2_self
        _ ≤ twoTo (n / den).log2 := twoTo_le (by omega)
    have habove : twoTo 52 ≤ n / den := by
      have hne : n / den ≠ 0 := by
        intro hzero
        rw [hzero, Nat.log2_zero] at hlog hplaces
        omega
      calc twoTo 52 ≤ twoTo (n / den).log2 := twoTo_le (by omega)
        _ ≤ n / den := Nat.log2_self_le hne
    calc roundUnits m den ≤ twoTo (n / den).log2 := roundUnits_le_twoTo hden (by omega) hbelow
      _ ≤ roundUnits n den := twoTo_log2_le_roundUnits habove

/-! ## Magnitudes and their units -/

/-- The units of a finite number, whatever its sign. -/
def units : Binary64 → Nat
  | .finite _ units => units
  | _ => 0

/-- Finite and not below zero. -/
def IsMagnitude (x : Binary64) : Prop :=
  x.isFinite = true ∧ x.lt zero = false

instance (x : Binary64) : Decidable x.IsMagnitude :=
  inferInstanceAs (Decidable (_ ∧ _))

/-- A sign counts only in front of something. -/
theorem signedUnits_of_unsigned {negative : Bool} {units : Nat} (h : negative = true → units = 0) :
    signedUnits negative units = units := by
  cases negative with
  | false => rfl
  | true =>
      rw [h rfl]
      rfl

/-- A finite number without a sign that counts is a magnitude. -/
theorem isMagnitude_finite {negative : Bool} {units : Nat} (h : negative = true → units = 0) :
    (finite negative units).IsMagnitude := by
  refine ⟨rfl, ?_⟩
  rw [zero, lt, signedUnits_of_unsigned h]
  exact decide_eq_false (not_lt.mpr (Int.natCast_nonneg units))

/-- Zero is one. -/
theorem isMagnitude_zero : zero.IsMagnitude :=
  isMagnitude_finite nofun

/-- A quotient of moderate size is a magnitude, if a minus sign stands before zero only. -/
theorem isMagnitude_ofQuotient {negative : Bool} {num den bound : Nat} (moderate : bound < twoTo 53) (hden : 0 < den)
    (h : num ≤ bound * unitsPerOne * den) (hsign : negative = true → num = 0) :
    (ofQuotient negative num den).IsMagnitude ∧ (ofQuotient negative num den).units = roundUnits num den := by
  rw [ofQuotient_eq negative (roundUnits_lt_unitsLimit moderate hden h)]
  refine ⟨isMagnitude_finite fun hnegative => ?_, rfl⟩
  have hzero : num ≤ 0 * unitsPerOne * den := (hsign hnegative).le.trans (Nat.zero_le _)
  have hround := roundUnits_le (twoTo_pos 53) hden hzero
  rwa [Nat.zero_mul, Nat.le_zero] at hround

namespace IsMagnitude

/-- A magnitude has a minus sign only if it is zero. -/
theorem exists_eq {x : Binary64} (h : x.IsMagnitude) :
    ∃ negative, x = .finite negative x.units ∧ (negative = true → x.units = 0) := by
  obtain ⟨hfinite, hlt⟩ := h
  cases x with
  | nan => cases hfinite
  | infinite negative => cases hfinite
  | finite negative units =>
      refine ⟨negative, rfl, ?_⟩
      rintro rfl
      have hge : ¬-(units : Int) < 0 := of_decide_eq_false hlt
      change units = 0
      omega

/-- A magnitude is a number. -/
theorem ne_nan {x : Binary64} (h : x.IsMagnitude) : x ≠ .nan := by
  rintro rfl
  cases h.1

section Two

variable {x y : Binary64} (hx : x.IsMagnitude) (hy : y.IsMagnitude)

include hx

/-- **The nearest integer** of a magnitude. -/
theorem round_eq : x.round = .ok (roundHalfEven x.units unitsPerOne : Int) := by
  obtain ⟨negative, heq, hsign⟩ := hx.exists_eq
  have hround : negative = true → roundHalfEven x.units unitsPerOne = 0 := by
    intro hnegative
    rw [hsign hnegative]
    exact Nat.le_zero.mp (roundHalfEven_le unitsPerOne_pos (Nat.zero_le _))
  rw [heq]
  exact congrArg Except.ok (signedUnits_of_unsigned hround)

include hy

/-- **Magnitudes compare as their units do.** -/
theorem lt_eq : x.lt y = decide (x.units < y.units) := by
  obtain ⟨s, hxs, hs⟩ := hx.exists_eq
  obtain ⟨t, hyt, ht⟩ := hy.exists_eq
  generalize x.units = m at hxs hs
  generalize y.units = n at hyt ht
  rw [hxs, hyt, lt, signedUnits_of_unsigned hs, signedUnits_of_unsigned ht]
  simp

omit hy in
/-- It is positive if it has any units. -/
theorem isPositive_eq : x.isPositive = decide (0 < x.units) :=
  isMagnitude_zero.lt_eq hx

/-- **The quotient** of a magnitude and one that is not below it. -/
theorem div (hpos : 0 < y.units) (hle : x.units ≤ y.units) :
    (x.div y).IsMagnitude ∧ (x.div y).units = roundUnits (x.units * unitsPerOne) y.units := by
  obtain ⟨s, hxs, hs⟩ := hx.exists_eq
  obtain ⟨t, hyt, ht⟩ := hy.exists_eq
  generalize x.units = m at *
  generalize y.units = n at *
  have hunsigned : t = false := Bool.eq_false_iff.mpr fun htrue => hpos.ne' (ht htrue)
  have hbound : m * unitsPerOne ≤ 1 * unitsPerOne * n := by
    rw [Nat.one_mul, Nat.mul_comm]
    exact Nat.mul_le_mul_left _ hle
  rw [hxs, hyt, hunsigned, Binary64.div, if_neg hpos.ne', Bool.bne_false]
  apply isMagnitude_ofQuotient (by decide) hpos hbound
  intro hnegative
  rw [hs hnegative, Nat.zero_mul]

/-- **The product** of two magnitudes, where it is of moderate size. -/
theorem mul {bound : Nat} (moderate : bound < twoTo 53) (h : x.units * y.units ≤ bound * unitsPerOne * unitsPerOne) :
    (x.mul y).IsMagnitude ∧ (x.mul y).units = roundUnits (x.units * y.units) unitsPerOne := by
  obtain ⟨s, hxs, hs⟩ := hx.exists_eq
  obtain ⟨t, hyt, ht⟩ := hy.exists_eq
  generalize x.units = m at *
  generalize y.units = n at *
  rw [hxs, hyt, Binary64.mul]
  apply isMagnitude_ofQuotient moderate unitsPerOne_pos h
  intro hnegative
  cases s with
  | false => rw [ht (by simpa using hnegative), Nat.mul_zero]
  | true => rw [hs rfl, Nat.zero_mul]

end Two

end IsMagnitude

/-! ## The greatest of a column -/

/-- The greatest of some magnitudes is a magnitude, and has at least as many units as any of them. -/
theorem maximum_isMagnitude {xs : List Binary64} (h : ∀ x ∈ xs, x.IsMagnitude) :
    (maximum zero xs).IsMagnitude ∧ ∀ x ∈ xs, x.units ≤ (maximum zero xs).units := by
  have hpeak : (maximum zero xs).IsMagnitude := maximum_of_forall isMagnitude_zero h
  refine ⟨hpeak, fun x hx => ?_⟩
  have hnot := maximum_lt_eq_false zero (fun y hy => (h y hy).ne_nan) hx
  rw [hpeak.lt_eq (h x hx), decide_eq_false_iff_not, Nat.not_lt] at hnot
  exact hnot

end SnippetCost.Number.Binary64
