import SnippetCost.Proofs.Json.Numeral
import SnippetCost.Proofs.Text.Runs

/-!
# Numbers told apart

A number is written without any of the characters that can follow it or begin another kind of value, so it ends where
one of these is (`IsToken.append_inj`).  An integer is told from a decimal by the point, the exponent or the word
that every decimal has (`toString_ne_decimalChars`), and integers from one another by their digits
(`toString_int_inj`).
-/

namespace SnippetCost.Json

open SnippetCost.Text SnippetCost.Number

/-! ## Numbers -/

/-- The characters that end a number or begin another kind of value. -/
def marks : List Char :=
  [',', '\n', ']', '\x7d', '"', '[', '\x7b']

/-- What a number is written with: characters none of which is a mark. -/
structure IsToken (cs : List Char) : Prop where
  ne_nil : cs ≠ []
  unmarked : ∀ c ∈ cs, c ∉ marks

/-- A number of the grammar is a token. -/
theorem IsNumeral.isToken {cs : List Char} (h : IsNumeral cs) : IsToken cs := by
  refine ⟨h.ne_nil, ?_⟩
  intro c hc hmark
  have hmarks : ∀ m ∈ marks, ¬IsNumberChar m := List.all_iff_forall_prop.mp (by decide)
  exact hmarks c hmark (h.isNumberChar c hc)

/-- Whole numbers are tokens. -/
theorem isToken_integer (n : Int) : IsToken (toString n).toList :=
  (isNumeral_toString n).isToken

/-- So are decimals, finite or not. -/
theorem isToken_decimal (x : Binary64) : IsToken (decimalChars x) := by
  cases hfinite : x.isFinite with
  | true => exact (isNumeral_decimalChars hfinite).isToken
  | false =>
      cases x with
      | nan => exact ⟨by decide, List.all_iff_forall_prop.mp (by decide)⟩
      | infinite negative => cases negative <;> exact ⟨by decide, List.all_iff_forall_prop.mp (by decide)⟩
      | finite negative units => cases hfinite

/-- What follows a value: nothing, or one of the characters that end it. -/
def Stops (rest : List Char) : Prop :=
  ∀ c ∈ rest.head?, c ∈ [',', '\n', ']', '\x7d']

/-- **A number ends where a value can end.** -/
theorem IsToken.append_inj {cs ds rest rest' : List Char} (hcs : IsToken cs) (hds : IsToken ds) (hrest : Stops rest)
    (hrest' : Stops rest') (h : cs ++ rest = ds ++ rest') : cs = ds ∧ rest = rest' := by
  have unmarked : ∀ {cs : List Char}, IsToken cs → ∀ c ∈ cs, decide (c ∉ marks) = true :=
    fun hcs c hc => decide_eq_true (hcs.unmarked c hc)
  have marked : ∀ {rest : List Char}, Stops rest → ∀ c ∈ rest.head?, decide (c ∉ marks) = false := by
    intro rest hrest c hc
    have hmarks : ∀ m ∈ [',', '\n', ']', '\x7d'], m ∈ marks := List.all_iff_forall_prop.mp (by decide)
    exact decide_eq_false (not_not_intro (hmarks c (hrest c hc)))
  have htake := congrArg (List.takeWhile fun c => decide (c ∉ marks)) h
  have hdrop := congrArg (List.dropWhile fun c => decide (c ∉ marks)) h
  rw [takeWhile_run (unmarked hcs) (marked hrest), takeWhile_run (unmarked hds) (marked hrest')] at htake
  rw [dropWhile_run (unmarked hcs) (marked hrest), dropWhile_run (unmarked hds) (marked hrest')] at hdrop
  exact ⟨htake, hdrop⟩

/-! ## Integers and decimals -/

/-- A character that decimals have and integers have not. -/
def IsDecimalMark (c : Char) : Prop :=
  c ∈ ['.', 'e', 'N', 'I']

/-- A whole number has no mark of a decimal. -/
theorem not_isDecimalMark_toString (n : Int) : ∀ c ∈ (toString n).toList, ¬IsDecimalMark c := by
  have digits : ∀ m, ∀ c ∈ Nat.toDigits 10 m, ¬IsDecimalMark c := by
    intro m c hc hmark
    have hmarks : ∀ c ∈ ['.', 'e', 'N', 'I'], c.isDigit = false := List.all_iff_forall_prop.mp (by decide)
    have hdigit := isDigit_of_mem_toDigits hc
    rw [hmarks c hmark] at hdigit
    cases hdigit
  rcases toString_cases n with ⟨-, htext⟩ | ⟨-, htext⟩
  · rw [htext]
    exact digits n.natAbs
  · rw [htext, List.forall_mem_cons]
    exact ⟨by unfold IsDecimalMark; decide, digits n.natAbs⟩

/-- Wherever the point is put, there is a point or an exponent. -/
theorem exists_isDecimalMark_layOut {ds : List Char} (h : ds ≠ []) (place : Int) :
    ∃ c ∈ layOut ds place, IsDecimalMark c := by
  unfold layOut
  split
  · refine ⟨'e', ?_, .tail _ (.head _)⟩
    split
    · exact absurd rfl h
    · simp
    · simp
  · refine ⟨'.', ?_, .head _⟩
    split
    · simp
    · split
      · simp
      · simp

/-- A magnitude always has one. -/
theorem exists_isDecimalMark_magnitudeText (units : Nat) : ∃ c ∈ magnitudeText units, IsDecimalMark c := by
  by_cases hunits : units = 0
  · subst hunits
    exact ⟨'.', by decide, .head _⟩
  · obtain ⟨d, ds, place, -, -, -, htext⟩ := exists_magnitudeText_eq hunits
    rw [htext]
    exact exists_isDecimalMark_layOut (List.cons_ne_nil _ _) place

/-- So does every decimal: that is how the two are told apart. -/
theorem exists_isDecimalMark_decimalChars (x : Binary64) : ∃ c ∈ decimalChars x, IsDecimalMark c := by
  cases x with
  | nan => exact ⟨'N', by decide, .tail _ (.tail _ (.head _))⟩
  | infinite negative => exact ⟨'I', by cases negative <;> decide, .tail _ (.tail _ (.tail _ (.head _)))⟩
  | finite negative units =>
      obtain ⟨c, hc, hmark⟩ := exists_isDecimalMark_magnitudeText units
      have htext : decimalChars (.finite negative units) =
          (if negative then ['-'] else []) ++ magnitudeText units := String.toList_ofList
      rw [htext]
      exact ⟨c, List.mem_append_right _ hc, hmark⟩

/-- **No integer is written as a decimal is.** -/
theorem toString_ne_decimalChars (n : Int) (x : Binary64) : (toString n).toList ≠ decimalChars x := by
  intro heq
  obtain ⟨c, hc, hmark⟩ := exists_isDecimalMark_decimalChars x
  exact not_isDecimalMark_toString n c (heq ▸ hc) hmark

/-- Different numbers have different digits. -/
theorem toDigits_inj {m n : Nat} (h : Nat.toDigits 10 m = Nat.toDigits 10 n) : m = n := by
  calc m = Nat.ofDigitChars 10 (Nat.toDigits 10 m) 0 := Nat.ofDigitChars_ten_toDigits.symm
    _ = Nat.ofDigitChars 10 (Nat.toDigits 10 n) 0 := by rw [h]
    _ = n := Nat.ofDigitChars_ten_toDigits

/-- **Integers that are written in the same way are the same.** -/
theorem toString_int_inj {m n : Int} (h : (toString m).toList = (toString n).toList) : m = n := by
  have unsigned : ∀ {k : Nat} {rest : List Char}, Nat.toDigits 10 k ≠ '-' :: rest := by
    intro k rest heq
    have hdigit : '-'.isDigit = true := isDigit_of_mem_toDigits (heq ▸ List.mem_cons_self)
    cases hdigit
  rcases toString_cases m with ⟨hm, htextM⟩ | ⟨hm, htextM⟩
  · rcases toString_cases n with ⟨hn, htextN⟩ | ⟨hn, htextN⟩
    · rw [htextM, htextN] at h
      have := toDigits_inj h
      omega
    · rw [htextM, htextN] at h
      exact absurd h unsigned
  · rcases toString_cases n with ⟨hn, htextN⟩ | ⟨hn, htextN⟩
    · rw [htextM, htextN] at h
      exact absurd h.symm unsigned
    · rw [htextM, htextN] at h
      have := toDigits_inj (List.cons.inj h).2
      omega

end SnippetCost.Json
