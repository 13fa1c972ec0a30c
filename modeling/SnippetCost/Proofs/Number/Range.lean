import Mathlib.Algebra.Order.Field.Rat
import Mathlib.Tactic.FieldSimp
import Mathlib.Tactic.Linarith
import Mathlib.Tactic.NormNum
import SnippetCost.Proofs.Number.Rounding
import SnippetCost.Proofs.Text.Runs

/-!
# The end of the range

A quotient that is too large for the 64-bit format is rounded to infinity, and no other quotient is.  The border
is half a step above the greatest number of the format (`rangeEnd`): what lies on it is a tie, and a tie goes to
the even neighbour, which is out of range.

* **`roundUnits_lt_unitsLimit_iff`**: the border in units, by the size of the quotient: far below it the grid is
  fine enough, far above it rounding does not come back, and on the last stretch it is where the tie is;
* **`ofScientific_eq_infinite_iff`**: the border for digits behind which places are marked off.

What a numeral writes is said by `magnitude`, apart from the reader of numerals.
-/

namespace SnippetCost.Number

open SnippetCost.Text

theorem twoTo_succ (n : Nat) : twoTo (n + 1) = 2 * twoTo n := by
  rw [twoTo_add, Nat.mul_comm]
  rfl

theorem twoTo_le {m n : Nat} (h : m ≤ n) : twoTo m ≤ twoTo n :=
  Nat.pow_le_pow_right (by decide) h

/-- A number not below a power of two has no smaller exponent. -/
theorem le_log2_of_twoTo_le {m n : Nat} (h : twoTo n ≤ m) : n ≤ m.log2 := by
  have hne : m ≠ 0 := by
    have := twoTo_pos n
    omega
  exact (Nat.le_log2 hne).mpr h

/-- The least number that is rounded to infinity: half a step above the greatest number of the format. -/
def rangeEnd : Nat := twoTo 1024 - twoTo 970

/-- Half a step below the next power of two. -/
theorem two_mul_rangeEnd_add : 2 * rangeEnd + twoTo 971 = 2 * twoTo 1024 := by
  have hstep : twoTo 971 = 2 * twoTo 970 := twoTo_succ 970
  have hle : twoTo 970 ≤ twoTo 1024 := twoTo_le (by decide)
  unfold rangeEnd
  omega

/-- The range is not empty. -/
theorem rangeEnd_pos : 0 < rangeEnd :=
  Nat.sub_pos_of_lt (twoTo_lt (by decide))

/-! ## What digits write -/

/-- Further digits move those in front of them to the left. -/
theorem digitsValue_append (xs ys : List Char) :
    digitsValue (xs ++ ys) = digitsValue xs * 10 ^ ys.length + digitsValue ys := by
  -- The fold over the digits behind is started with what those in front write.
  have shift : ∀ (ys : List Char) (n : Nat),
      ys.foldl (fun n c => 10 * n + (digitValue? c).getD 0) n =
        n * 10 ^ ys.length + ys.foldl (fun n c => 10 * n + (digitValue? c).getD 0) 0 := by
    intro ys
    induction ys with
    | nil => simp
    | cons y ys ih =>
        intro n
        rw [List.foldl_cons, List.foldl_cons, ih, ih (10 * 0 + (digitValue? y).getD 0), List.length_cons]
        ring
  unfold digitsValue
  rw [List.foldl_append]
  exact shift ys _

/-- The number that digits write, with at most one point among them. -/
def magnitude (cs : List Char) : ℚ :=
  let whole := cs.takeWhile (· != '.')
  let fraction := (cs.dropWhile (· != '.')).drop 1
  digitsValue whole + digitsValue fraction / 10 ^ fraction.length

/-- Without a point the digits are a whole number. -/
theorem magnitude_of_pointless {cs : List Char} (h : '.' ∉ cs) : magnitude cs = digitsValue cs := by
  have hstop : ∀ c ∈ cs, (c != '.') = true := forall_bne_of_not_mem h
  have htake : cs.takeWhile (· != '.') = cs := List.takeWhile_eq_self_iff.mpr hstop
  have hdrop : cs.dropWhile (· != '.') = [] := List.dropWhile_eq_nil_iff.mpr hstop
  simp [magnitude, htake, hdrop, digitsValue]

/-- With one, the digits behind it divide. -/
theorem magnitude_point {whole : List Char} (h : '.' ∉ whole) (fraction : List Char) :
    magnitude (whole ++ '.' :: fraction) = digitsValue (whole ++ fraction) / 10 ^ fraction.length := by
  have hstop : ∀ c ∈ whole, (c != '.') = true := forall_bne_of_not_mem h
  have htake : (whole ++ '.' :: fraction).takeWhile (· != '.') = whole := by
    rw [List.takeWhile_append_of_pos hstop]
    simp
  have hdrop : (whole ++ '.' :: fraction).dropWhile (· != '.') = '.' :: fraction := by
    rw [List.dropWhile_append_of_pos hstop]
    simp
  have hten : (10 : ℚ) ^ fraction.length ≠ 0 := pow_ne_zero _ (by norm_num)
  simp only [magnitude, htake, hdrop, List.drop_one, List.tail_cons]
  rw [digitsValue_append]
  push_cast
  field_simp

/-! ## Rounding across a border -/

/-- The nearest integer is below an even one exactly if the quotient is below the tie between that and the
integer before it. -/
theorem roundHalfEven_lt_iff {num den bound : Nat} (hden : 0 < den) (even : bound % 2 = 0) :
    roundHalfEven num den < bound ↔ 2 * num + den < 2 * bound * den := by
  have hsplit : den * (num / den) + num % den = num := Nat.div_add_mod num den
  have hrest : num % den < den := Nat.mod_lt num hden
  unfold roundHalfEven
  dsimp only
  generalize num / den = whole at hsplit ⊢
  generalize num % den = rest at hsplit hrest ⊢
  subst hsplit
  rcases Nat.lt_trichotomy (whole + 1) bound with hlow | htie | hhigh
  · -- Even rounded up the quotient stays below the bound.
    have hnext : den * (whole + 2) ≤ den * bound := Nat.mul_le_mul_left den hlow
    refine iff_of_true ?_ ?_
    · split <;> omega
    · nlinarith
  · -- The tie is here, and the integer below the bound is odd.
    subst htie
    have hodd : whole % 2 = 1 := by omega
    have hright : 2 * (den * whole + rest) + den < 2 * (whole + 1) * den ↔ 2 * rest < den := by
      constructor
      · intro h
        nlinarith
      · intro h
        nlinarith
    rw [hright]
    split <;> omega
  · have hprod : den * bound ≤ den * whole := Nat.mul_le_mul_left den (by omega)
    refine iff_of_false ?_ ?_
    · split <;> omega
    · nlinarith

namespace Binary64

/-- A rounded quotient of a certain size does not fall below the power of two at its leading place. -/
theorem twoTo_log2_le_roundUnits {num den : Nat} (large : twoTo 52 ≤ num / den) :
    twoTo (num / den).log2 ≤ roundUnits num den := by
  have hlog : 52 ≤ (num / den).log2 := le_log2_of_twoTo_le large
  have hne : num / den ≠ 0 := by
    have := twoTo_pos 52
    omega
  have hstep : 0 < gridStep (num / den) := twoTo_pos _
  have hpower : twoTo 52 * gridStep (num / den) = twoTo (num / den).log2 := by
    rw [gridStep, ← twoTo_add]
    congr 1
    omega
  have hwhole : twoTo 52 ≤ num / (den * gridStep (num / den)) := by
    rw [← Nat.div_div_eq_div_mul, Nat.le_div_iff_mul_le hstep, hpower]
    exact Nat.log2_self_le hne
  calc twoTo (num / den).log2 = twoTo 52 * gridStep (num / den) := hpower.symm
    _ ≤ roundHalfEven num (den * gridStep (num / den)) * gridStep (num / den) :=
        Nat.mul_le_mul_right _ (hwhole.trans (div_le_roundHalfEven _ _))
    _ = roundUnits num den := rfl

/-- A quotient below a power of two does not pass it when it is rounded. -/
theorem roundUnits_le_twoTo {num den k : Nat} (hden : 0 < den) (hk : 0 < k) (h : num / den < twoTo k) :
    roundUnits num den ≤ twoTo k := by
  have hlog := log2_lt_of_lt_twoTo h hk
  obtain ⟨count, hcount⟩ : gridStep (num / den) ∣ twoTo k := twoTo_dvd (by omega)
  have hstep : 0 < gridStep (num / den) := twoTo_pos _
  have hnum : num ≤ twoTo k * den := by
    have := (Nat.div_lt_iff_lt_mul hden).mp h
    omega
  have hcounted : roundHalfEven num (den * gridStep (num / den)) ≤ count := by
    refine roundHalfEven_le (Nat.mul_pos hden hstep) ?_
    calc num ≤ twoTo k * den := hnum
      _ = gridStep (num / den) * count * den := by rw [← hcount]
      _ = count * (den * gridStep (num / den)) := by ring
  calc roundUnits num den = roundHalfEven num (den * gridStep (num / den)) * gridStep (num / den) := rfl
    _ ≤ count * gridStep (num / den) := Nat.mul_le_mul_right _ hcounted
    _ = twoTo k := by rw [hcount, Nat.mul_comm]

/-- **The border in units**: half a step of the last stretch below the limit. -/
theorem roundUnits_lt_unitsLimit_iff {num den : Nat} (hden : 0 < den) :
    roundUnits num den < unitsLimit ↔ 2 * num + twoTo 2045 * den < 2 * unitsLimit * den := by
  have hhalf : unitsLimit = 2 * twoTo 2097 := by rw [← twoTo_succ, unitsLimit]
  have hstep : twoTo 2097 = twoTo 52 * twoTo 2045 := by rw [← twoTo_add]
  rcases Nat.lt_or_ge (num / den) (twoTo 2097) with hlow | hlarge
  · have hround := roundUnits_le_twoTo hden (by decide) hlow
    have hnum := (Nat.div_lt_iff_lt_mul hden).mp hlow
    have hpos := twoTo_pos 2097
    have hfine : twoTo 2045 ≤ twoTo 2097 := by
      rw [hstep]
      exact Nat.le_mul_of_pos_left _ (twoTo_pos 52)
    have hprod : twoTo 2045 * den ≤ twoTo 2097 * den := Nat.mul_le_mul_right den hfine
    refine iff_of_true (by omega) ?_
    rw [hhalf]
    nlinarith
  · rcases Nat.lt_or_ge (num / den) unitsLimit with hlast | hhigh
    · -- On the last stretch the step is known, and the border is a tie between two steps.
      have hlog : (num / den).log2 = 2097 := by
        have hupper : (num / den).log2 < 2098 := log2_lt_of_lt_twoTo hlast (by decide)
        have hlower := le_log2_of_twoTo_le hlarge
        omega
      have hgrid : gridStep (num / den) = twoTo 2045 := by rw [gridStep, hlog]
      have hstepPos : 0 < twoTo 2045 := twoTo_pos 2045
      have hlimit : unitsLimit = twoTo 53 * twoTo 2045 := by rw [unitsLimit, ← twoTo_add]
      have heven : twoTo 53 % 2 = 0 := by rw [twoTo_succ, Nat.mul_mod_right]
      unfold roundUnits
      rw [hgrid, hlimit, Nat.mul_lt_mul_right hstepPos,
        roundHalfEven_lt_iff (Nat.mul_pos hden hstepPos) heven, Nat.mul_comm den]
      constructor
      · intro h
        nlinarith
      · intro h
        nlinarith
    · have hmoderate : twoTo 52 ≤ num / den := (twoTo_le (by decide)).trans hlarge
      have hround := twoTo_log2_le_roundUnits hmoderate
      have hlog : 2098 ≤ (num / den).log2 := le_log2_of_twoTo_le hhigh
      have hpower : unitsLimit ≤ twoTo (num / den).log2 := twoTo_le hlog
      have hnum := (Nat.le_div_iff_mul_le hden).mp hhigh
      refine iff_of_false (by omega) ?_
      nlinarith

/-- A quotient without a minus sign is finite or too large to be. -/
theorem ofQuotient_finite_or_infinite (num den : Nat) :
    (∃ units, ofQuotient false num den = .finite false units) ∨ ofQuotient false num den = .infinite false := by
  unfold ofQuotient ofUnits
  split
  · exact .inl ⟨_, rfl⟩
  · exact .inr rfl

/-- A rounded quotient is infinite exactly if it is rounded out of range. -/
theorem ofQuotient_eq_infinite_iff {num den : Nat} :
    ofQuotient false num den = .infinite false ↔ unitsLimit ≤ roundUnits num den := by
  unfold ofQuotient ofUnits
  split
  · rename_i h
    exact ⟨nofun, fun h' => absurd h (Nat.not_lt.mpr h')⟩
  · rename_i h
    exact ⟨fun _ => Nat.not_lt.mp h, fun _ => rfl⟩

/-- **The border in ones**: a quotient of whole numbers is infinite exactly if it reaches the end of the
range. -/
theorem ofQuotient_ones_eq_infinite_iff {n den : Nat} (hden : 0 < den) :
    ofQuotient false (n * unitsPerOne) den = .infinite false ↔ rangeEnd * den ≤ n := by
  have hlimit : unitsLimit = twoTo 1024 * unitsPerOne := by rw [unitsLimit, unitsPerOne, ← twoTo_add]
  have hstep : twoTo 2045 = twoTo 971 * unitsPerOne := by rw [unitsPerOne, ← twoTo_add]
  have hpos : 0 < unitsPerOne := unitsPerOne_pos
  have hborder : 2 * (n * unitsPerOne) + twoTo 2045 * den < 2 * unitsLimit * den ↔ n < rangeEnd * den := by
    have hleft : 2 * (n * unitsPerOne) + twoTo 2045 * den = (2 * n + twoTo 971 * den) * unitsPerOne := by
      rw [hstep]
      ring
    have hright : 2 * unitsLimit * den = (2 * (rangeEnd * den) + twoTo 971 * den) * unitsPerOne := by
      rw [hlimit, ← Nat.mul_assoc, ← two_mul_rangeEnd_add]
      ring
    rw [hleft, hright, Nat.mul_lt_mul_right hpos]
    omega
  rw [ofQuotient_eq_infinite_iff, ← Nat.not_lt, roundUnits_lt_unitsLimit_iff hden, hborder, Nat.not_lt]

/-- A whole number in range is a number of the format. -/
theorem isFinite_ofInt_natCast {n : Nat} (h : n < rangeEnd) : (ofInt n).isFinite = true := by
  have hborder : ofQuotient false (n * unitsPerOne) 1 = .infinite false ↔ rangeEnd * 1 ≤ n :=
    ofQuotient_ones_eq_infinite_iff Nat.one_pos
  have hunsigned : decide ((n : Int) < 0) = false := by simp
  unfold ofInt
  rw [hunsigned, Int.natAbs_natCast]
  rcases ofQuotient_finite_or_infinite (n * unitsPerOne) 1 with ⟨units, heq⟩ | heq
  · rw [heq]
    rfl
  · have hend := hborder.mp heq
    omega

end Binary64

/-- **Digits that write too large a number**, with as many places behind the point as there are digits at
most. -/
theorem ofScientific_eq_infinite_iff {digits count places : Nat} (hplaces : places ≤ count) :
    ofScientific false digits count ((0 : Int) - (places : Nat)) = .infinite false ↔
      (rangeEnd : ℚ) ≤ digits / 10 ^ places := by
  have hten : (0 : ℚ) < 10 ^ places := by positivity
  rw [le_div_iff₀ hten]
  by_cases hzero : digits = 0
  · subst hzero
    refine iff_of_false ?_ ?_
    · rw [ofScientific, if_pos (.inl rfl)]
      exact nofun
    · have hend : (0 : ℚ) < rangeEnd := Nat.cast_pos.mpr rangeEnd_pos
      have hprod : (0 : ℚ) < rangeEnd * 10 ^ places := mul_pos hend hten
      rw [Nat.cast_zero, not_le]
      exact hprod
  · have hsmall : ¬(digits = 0 ∨ (0 : Int) - (places : Nat) + (count : Nat) < -400) := by omega
    have hlarge : ¬((400 : Int) < (0 : Int) - (places : Nat)) := by omega
    have hneg : ((0 : Int) - (places : Nat)).toNat = 0 := by omega
    have hpos : (-((0 : Int) - (places : Nat))).toNat = places := by omega
    have hone : digits * tenTo 0 = digits := Nat.mul_one digits
    have htenTo : 0 < tenTo places := Nat.pow_pos (by decide)
    have hcast : (tenTo places : ℚ) = 10 ^ places := by simp [tenTo]
    rw [ofScientific, if_neg hsmall, if_neg hlarge, hneg, hpos, hone,
      Binary64.ofQuotient_ones_eq_infinite_iff htenTo, ← hcast]
    exact_mod_cast Iff.rfl

end SnippetCost.Number
