import Mathlib.Data.List.DropRight
import SnippetCost.Json.Printer
import SnippetCost.Proofs.Json.Grammar
import SnippetCost.Proofs.Number.Range

/-!
# Written numbers

The texts of numbers are numbers of the grammar: those of integers (`isNumeral_toString`), and those of finite
numbers of the 64-bit format (`isNumeral_decimalChars_iff`).  The latter are laid out in four ways, and in each of
them the digits go where the grammar has digits; only their first one matters, which is not zero because the
digits write a number that is not zero (`shortest_ne_zero`).

The words for numbers that are not finite are no numbers of the grammar, and begin with one of the letters by which
they are told from everything in it.
-/

namespace SnippetCost.Json

open SnippetCost.Number

/-! ## Digits -/

/-- The digits of a number that is not zero do not begin with a zero. -/
theorem exists_toDigits_eq_cons {n : Nat} (hn : n ≠ 0) :
    ∃ d ds, Nat.toDigits 10 n = d :: ds ∧ d ≠ '0' := by
  have digit : ∀ m < 10, m ≠ 0 → m.digitChar ≠ '0' := by decide
  induction n using Nat.strong_induction_on with
  | _ n ih =>
      by_cases hsmall : n < 10
      · exact ⟨n.digitChar, [], Nat.toDigits_of_lt_base hsmall, digit n hsmall hn⟩
      · obtain ⟨d, ds, hdigits, hd⟩ := ih (n / 10) (by omega) (by omega)
        refine ⟨d, ds ++ [(n % 10).digitChar], ?_, hd⟩
        rw [Nat.toDigits_of_base_le (by decide) (by omega), hdigits, List.cons_append]

/-- Decimal digits are digits of the grammar. -/
theorem isDigit_of_mem_toDigits {n : Nat} {c : Char} (h : c ∈ Nat.toDigits 10 n) : c.isDigit = true :=
  Nat.isDigit_of_mem_toDigits (by decide) (by decide) h

/-- A natural number is written without zeros in front. -/
theorem isWhole_toDigits (n : Nat) : IsWhole (Nat.toDigits 10 n) := by
  by_cases hn : n = 0
  · subst hn
    exact .zero
  · obtain ⟨d, ds, hdigits, hd⟩ := exists_toDigits_eq_cons hn
    have hall : ∀ c ∈ d :: ds, c.isDigit = true := by
      rw [← hdigits]
      exact fun c hc => isDigit_of_mem_toDigits hc
    rw [List.forall_mem_cons] at hall
    rw [hdigits]
    exact .lead hall.1 hd hall.2

/-- It has at least one digit. -/
theorem isDigitRun_toDigits (n : Nat) : IsDigitRun (Nat.toDigits 10 n) :=
  ⟨Nat.toDigits_ne_nil, fun _ hc => isDigit_of_mem_toDigits hc⟩

/-- A whole number alone is a number. -/
theorem IsWhole.isUnsigned {cs : List Char} (h : IsWhole cs) : IsUnsigned cs :=
  ⟨cs, [], [], h, .absent, .absent, by simp⟩

/-- An integer is written with the digits of its amount, behind a minus sign if it is negative. -/
theorem toString_cases (n : Int) :
    (0 ≤ n ∧ (toString n).toList = Nat.toDigits 10 n.natAbs) ∨
      (n < 0 ∧ (toString n).toList = '-' :: Nat.toDigits 10 n.natAbs) := by
  cases n with
  | ofNat n => exact .inl ⟨Int.natCast_nonneg n, Nat.toList_repr⟩
  | negSucc n =>
      refine .inr ⟨Int.negSucc_lt_zero n, ?_⟩
      change ("-" ++ (n + 1).repr).toList = _
      rw [String.toList_append, Nat.toList_repr]
      rfl

/-- **Integers** are written as numbers of the grammar. -/
theorem isNumeral_toString (n : Int) : IsNumeral (toString n).toList := by
  rcases toString_cases n with ⟨-, htext⟩ | ⟨-, htext⟩
  · rw [htext]
    exact .inl (isWhole_toDigits n.natAbs).isUnsigned
  · rw [htext]
    exact .inr ⟨_, (isWhole_toDigits n.natAbs).isUnsigned, rfl⟩

/-! ## The layout of decimals -/

/-- Zeros at the end apart, digits that do not begin with a zero keep their first one. -/
theorem exists_stripZeros_eq_cons {d : Char} (hd : d ≠ '0') (ds : List Char) :
    ∃ left, stripZeros (d :: ds) = d :: left ∧ ∀ c ∈ left, c ∈ ds := by
  have hstrip : stripZeros (d :: ds) = (d :: ds).rdropWhile (· == '0') := rfl
  have hstart : (d :: ds).rdropWhile (· == '0') <+: d :: ds := List.rdropWhile_prefix _ _
  rw [hstrip]
  cases hleft : (d :: ds).rdropWhile (· == '0') with
  | nil =>
      have hzero := List.rdropWhile_eq_nil_iff.mp hleft d List.mem_cons_self
      exact absurd (beq_iff_eq.mp hzero) hd
  | cons c left =>
      rw [hleft, List.cons_prefix_cons] at hstart
      exact ⟨left, by rw [hstart.1], fun c hc => hstart.2.subset hc⟩

/-- The exponent of a decimal is one of the grammar. -/
theorem isExponent_exponentText (e : Int) : IsExponent ('e' :: exponentText e) := by
  have hdigits : IsDigitRun (Nat.toDigits 10 e.natAbs) := isDigitRun_toDigits _
  have signed : ∀ (sign : Char) (ds : List Char), sign = '+' ∨ sign = '-' → IsDigitRun ds →
      IsExponent ('e' :: sign :: ds) := by
    rintro sign ds (rfl | rfl) hds
    · exact IsExponent.mark (.inl rfl) (.inr (.inl rfl)) hds
    · exact IsExponent.mark (.inl rfl) (.inr (.inr rfl)) hds
  unfold exponentText
  refine signed _ _ ?_ ?_
  · split
    · exact .inr rfl
    · exact .inl rfl
  · split
    · refine ⟨List.cons_ne_nil _ _, ?_⟩
      rw [List.forall_mem_cons]
      exact ⟨rfl, hdigits.2⟩
    · exact hdigits

/-- Digits that do not begin with a zero are laid out as a number of the grammar, wherever the point is. -/
theorem isUnsigned_layOut {d : Char} {ds : List Char} (first : d.isDigit = true) (nonzero : d ≠ '0')
    (digits : ∀ c ∈ ds, c.isDigit = true) (place : Int) : IsUnsigned (layOut (d :: ds) place) := by
  have hzeros : ∀ n, ∀ c ∈ List.replicate n '0', c.isDigit = true := by
    intro n c hc
    rw [(List.mem_replicate.mp hc).2]
    rfl
  unfold layOut
  split
  · -- One digit stands before the point, and an exponent behind.
    cases ds with
    | nil =>
        exact ⟨[d], [], _, .lead first nonzero (List.forall_mem_nil _), .absent,
          isExponent_exponentText (place - 1), rfl⟩
    | cons d' ds =>
        refine ⟨[d], '.' :: d' :: ds, 'e' :: exponentText (place - 1),
          .lead first nonzero (List.forall_mem_nil _), .point ⟨List.cons_ne_nil _ _, digits⟩,
          isExponent_exponentText (place - 1), ?_⟩
        simp
  · split
    · refine ⟨['0'], '.' :: (List.replicate (-place).toNat '0' ++ d :: ds), [], .zero, .point ⟨?_, ?_⟩,
        .absent, ?_⟩
      · exact List.append_ne_nil_of_right_ne_nil _ (List.cons_ne_nil d ds)
      · rw [List.forall_mem_append, List.forall_mem_cons]
        exact ⟨hzeros _, first, digits⟩
      · simp
    · split
      · rename_i hbefore hinside
        obtain ⟨m, hm⟩ : ∃ m, place.toNat = m + 1 := ⟨place.toNat - 1, by omega⟩
        rw [hm] at hinside ⊢
        rw [List.length_cons, Nat.add_lt_add_iff_right] at hinside
        refine ⟨d :: ds.take m, '.' :: ds.drop m, [], .lead first nonzero ?_, .point ⟨?_, ?_⟩, .absent, ?_⟩
        · exact fun c hc => digits c (List.mem_of_mem_take hc)
        · rw [ne_eq, List.drop_eq_nil_iff]
          omega
        · exact fun c hc => digits c (List.mem_of_mem_drop hc)
        · simp
      · refine ⟨d :: (ds ++ List.replicate (place.toNat - (d :: ds).length) '0'), ['.', '0'], [],
          .lead first nonzero ?_, .point ⟨List.cons_ne_nil _ _, ?_⟩, .absent, ?_⟩
        · rw [List.forall_mem_append]
          exact ⟨digits, hzeros _⟩
        · exact hzeros 1
        · simp

/-! ## The digits of decimals -/

/-- No number but zero reads back from zero. -/
theorem readsBack_zero {units : Nat} (h : units ≠ 0) (exponent : Int) :
    Binary64.readsBack units 0 exponent = false := by
  have hstep : Binary64.gridStep units ≤ units :=
    (twoTo_le (Nat.sub_le units.log2 52)).trans (Nat.log2_self_le h)
  -- The lower end of the interval of the number is above zero.
  have hlow : 0 < (Binary64.halfUnitInterval units).1 := by
    unfold Binary64.halfUnitInterval
    dsimp only
    split <;> omega
  have hscaled : 0 < (Binary64.halfUnitInterval units).1 * tenTo (-exponent).toNat :=
    Nat.mul_pos hlow (Nat.pow_pos (by decide))
  unfold Binary64.readsBack Binary64.crossProducts
  simp only [Nat.zero_mul]
  have hne : ((Binary64.halfUnitInterval units).1 * tenTo (-exponent).toNat == 0) = false :=
    beq_eq_false_iff_ne.mpr (by omega)
  simp [hne]

/-- Of two decimals with one exponent the first that is good is good. -/
theorem good_of_first {good : Nat → Int → Bool} {a b : Nat} {e : Int} {found : Nat × Int}
    (h : (if good a e then some (a, e) else if good b e then some (b, e) else none) = some found) :
    good found.1 found.2 = true := by
  split at h
  · rename_i hgood
    obtain rfl := Option.some.inj h
    exact hgood
  · split at h
    · rename_i hgood
      obtain rfl := Option.some.inj h
      exact hgood
    · cases h

/-- A decimal that is tried for a number other than zero is not zero. -/
theorem candidate?_ne_zero {units : Nat} (h : units ≠ 0) {place : Int} {count : Nat} {found : Nat × Int}
    (hfound : Binary64.candidate? units place count = some found) : found.1 ≠ 0 := by
  unfold Binary64.candidate? at hfound
  dsimp only at hfound
  have hback : Binary64.readsBack units found.1 found.2 = true := good_of_first hfound
  intro hzero
  rw [hzero, readsBack_zero h] at hback
  cases hback

/-- Nor is the one that is taken, whether one of those that were tried will do or not. -/
theorem fst_getD_ne_zero {found? : Option (Nat × Int)} {digits : Nat} {exponent : Int}
    (hfound : ∀ found, found? = some found → found.1 ≠ 0) (hdigits : digits ≠ 0) :
    (found?.getD (digits, exponent)).1 ≠ 0 := by
  cases found? with
  | none => exact hdigits
  | some found => exact hfound found rfl

/-- The shortest decimal of a number that is not zero is not zero. -/
theorem shortest_ne_zero {units : Nat} (h : units ≠ 0) : (Binary64.shortest units).1 ≠ 0 := by
  have hpower : ∀ k, Nat.pow 5 k ≠ 0 := fun k => (Nat.pow_pos (by decide)).ne'
  unfold Binary64.shortest
  refine fst_getD_ne_zero ?_ (Nat.mul_ne_zero h (hpower 1074))
  intro found hsearch
  obtain ⟨n, -, hfound⟩ := List.exists_of_findSome?_eq_some hsearch
  exact candidate?_ne_zero h hfound

/-- A number that is not zero is laid out from digits that do not begin with a zero. -/
theorem exists_magnitudeText_eq {units : Nat} (h : units ≠ 0) : ∃ d ds place, d.isDigit = true ∧ d ≠ '0' ∧
    (∀ c ∈ ds, c.isDigit = true) ∧ magnitudeText units = layOut (d :: ds) place := by
  have hdigits := shortest_ne_zero h
  unfold magnitudeText
  rw [if_neg h]
  -- The search for the decimal is not to be run here, so the decimal is any that is not zero.
  generalize Binary64.shortest units = decimal at hdigits ⊢
  obtain ⟨digits, exponent⟩ := decimal
  obtain ⟨d, ds, htext, hd⟩ := exists_toDigits_eq_cons hdigits
  have hall : ∀ c ∈ d :: ds, c.isDigit = true := by
    rw [← htext]
    exact fun c hc => isDigit_of_mem_toDigits hc
  rw [List.forall_mem_cons] at hall
  obtain ⟨left, hstrip, hleft⟩ := exists_stripZeros_eq_cons hd ds
  have hlaid : layOut (stripZeros (Nat.toDigits 10 digits)) ((Nat.toDigits 10 digits).length + exponent) =
      layOut (d :: left) ((Nat.toDigits 10 digits).length + exponent) := by
    rw [← hstrip, ← htext]
  exact ⟨d, left, _, hall.1, hd, fun c hc => hall.2 c (hleft c hc), hlaid⟩

/-- A magnitude is written as a number without its sign. -/
theorem isUnsigned_magnitudeText (units : Nat) : IsUnsigned (magnitudeText units) := by
  by_cases hunits : units = 0
  · subst hunits
    refine ⟨['0'], ['.', '0'], [], .zero, .point ⟨List.cons_ne_nil _ _, ?_⟩, .absent, rfl⟩
    rw [List.forall_mem_singleton]
    rfl
  · obtain ⟨d, ds, place, hfirst, hnonzero, hdigits, htext⟩ := exists_magnitudeText_eq hunits
    rw [htext]
    exact isUnsigned_layOut hfirst hnonzero hdigits place

/-- **Decimals** are written as numbers of the grammar if they are finite. -/
theorem isNumeral_decimalChars {x : Binary64} (h : x.isFinite = true) : IsNumeral (decimalChars x) := by
  cases x with
  | nan => cases h
  | infinite negative => cases h
  | finite negative units =>
      have htext : decimalChars (.finite negative units) =
          (if negative then ['-'] else []) ++ magnitudeText units := String.toList_ofList
      rw [htext]
      cases negative with
      | false => exact .inl (isUnsigned_magnitudeText units)
      | true => exact .inr ⟨_, isUnsigned_magnitudeText units, rfl⟩

/-- What is written for the others is a word that begins with one of the letters in question, a sign apart. -/
theorem exists_wordLetter_decimalChars {x : Binary64} (h : x.isFinite = false) :
    '"' ∉ decimalChars x ∧ ∃ c ∈ decimalChars x, IsWordLetter c := by
  cases x with
  | nan => exact ⟨by decide, 'N', by decide, .inl rfl⟩
  | infinite negative =>
      cases negative with
      | false => exact ⟨by decide, 'I', by decide, .inr rfl⟩
      | true => exact ⟨by decide, 'I', by decide, .inr rfl⟩
  | finite negative units => cases h

end SnippetCost.Json
