import SnippetCost.Proofs.Text.Runs
import SnippetCost.Report.Row

/-!
# Columns of a row

What a column of the instruction table looks like, said without the reader: a run of digits
(`IsDigits`), a decimal number (`IsDecimal`), a flag (`IsFlag`), and the blanks between two columns
(`IsGap`).  The reader's own tests say the same (`isPlainDecimal_iff`, `isFlag_iff`), and it takes a column
exactly where one stands: `takeColumn?_number` is the one direction, `eq_of_takeColumn?_eq_some` the other.
-/

namespace SnippetCost

open SnippetCost.Text

/-! ## The grammar of a column -/

/-- A run of digits, of any script. -/
def IsDigits (cs : List Char) : Prop :=
  cs ≠ [] ∧ ∀ c ∈ cs, isDigit c = true

instance (cs : List Char) : Decidable (IsDigits cs) :=
  @instDecidableAnd _ _ _ (List.decidableBAll _ cs)

/-- Digits, or digits, a point and digits. -/
def IsDecimal (cs : List Char) : Prop :=
  IsDigits cs ∨ ∃ whole fraction, IsDigits whole ∧ IsDigits fraction ∧ cs = whole ++ '.' :: fraction

/-- A column's number, which may have a fraction or not. -/
def IsNumber (withFraction : Bool) (cs : List Char) : Prop :=
  if withFraction then IsDecimal cs else IsDigits cs

/-- A marker of an optional column, or a number in one. -/
def IsFlag (word : List Char) : Prop :=
  word = ['*'] ∨ word = ['U'] ∨ IsDecimal word

/-- The blanks between two columns, of which there is at least one. -/
def IsGap (cs : List Char) : Prop :=
  cs ≠ [] ∧ ∀ c ∈ cs, isBlank c = true

instance (cs : List Char) : Decidable (IsGap cs) :=
  @instDecidableAnd _ _ _ (List.decidableBAll _ cs)

/-- No digit is a blank. -/
theorem IsDigits.isBlank_eq_false {cs : List Char} (h : IsDigits cs) :
    ∀ c ∈ cs, isBlank c = false :=
  fun c hc => isBlank_of_isDigit (h.2 c hc)

/-- A decimal has a digit at least. -/
theorem IsDecimal.ne_nil {cs : List Char} (h : IsDecimal cs) : cs ≠ [] := by
  rcases h with h | ⟨whole, fraction, -, -, rfl⟩
  · exact h.1
  · simp

/-- No character of a decimal number is a blank. -/
theorem IsDecimal.isBlank_eq_false {cs : List Char} (h : IsDecimal cs) :
    ∀ c ∈ cs, isBlank c = false := by
  rcases h with h | ⟨whole, fraction, hwhole, hfraction, rfl⟩
  · exact h.isBlank_eq_false
  · intro c hc
    rcases List.mem_append.mp hc with hc | hc
    · exact hwhole.isBlank_eq_false c hc
    · rcases List.mem_cons.mp hc with rfl | hc
      · decide
      · exact hfraction.isBlank_eq_false c hc

/-- So has a number of either kind. -/
theorem IsNumber.ne_nil {withFraction : Bool} {cs : List Char} (h : IsNumber withFraction cs) :
    cs ≠ [] := by
  cases withFraction with
  | false => exact h.1
  | true => exact IsDecimal.ne_nil h

/-- A flag is not the empty word. -/
theorem IsFlag.ne_nil {word : List Char} (h : IsFlag word) : word ≠ [] := by
  rcases h with rfl | rfl | h
  · simp
  · simp
  · exact h.ne_nil

/-- No character of a flag is a blank. -/
theorem IsFlag.isBlank_eq_false {word : List Char} (h : IsFlag word) :
    ∀ c ∈ word, isBlank c = false := by
  rcases h with rfl | rfl | h
  · exact List.forall_mem_singleton.mpr rfl
  · exact List.forall_mem_singleton.mpr rfl
  · exact h.isBlank_eq_false

/-- The character behind a number that ends at a gap. -/
theorem IsGap.head?_append {gap : List Char} (h : IsGap gap) (rest : List Char) :
    ∃ b more, gap ++ rest = b :: more ∧ isBlank b = true := by
  obtain ⟨b, more, rfl⟩ := List.exists_cons_of_ne_nil h.1
  exact ⟨b, more ++ rest, rfl, h.2 b List.mem_cons_self⟩

/-! ## Taking a number -/

/-- In front of a blank there is no fraction. -/
theorem takeFraction_blank {b : Char} (h : isBlank b = true) (cs : List Char) :
    takeFraction (b :: cs) = [] := by
  unfold takeFraction
  split
  · rename_i heq
    cases heq
    cases h
  · rfl

/-- A number that a blank or nothing follows is taken as it stands. -/
theorem takeNumber_append {withFraction : Bool} {number rest : List Char}
    (h : IsNumber withFraction number) (hrest : ∀ c ∈ rest.head?, isBlank c = true) :
    takeNumber withFraction (number ++ rest) = number := by
  have stop : ∀ c ∈ rest.head?, isDigit c = false := by
    intro c hc
    by_contra hd
    have := isBlank_of_isDigit (by simpa using hd)
    rw [hrest c hc] at this
    cases this
  have noFraction : takeFraction rest = [] := by
    cases rest with
    | nil => rfl
    | cons b cs => exact takeFraction_blank (hrest b rfl) cs
  cases withFraction with
  | false =>
      simp only [takeNumber, Bool.false_and, Bool.false_eq_true, if_false]
      exact takeWhile_run h.2 stop
  | true =>
      rcases h with h | ⟨whole, fraction, hwhole, hfraction, rfl⟩
      · have hempty : number.isEmpty = false := by simpa using h.1
        simp [takeNumber, takeWhile_run h.2 stop, dropWhile_run h.2 stop, noFraction]
      · have point : ∀ c ∈ ('.' :: (fraction ++ rest)).head?, isDigit c = false := by
          intro c hc
          obtain rfl : '.' = c := by simpa using hc
          decide
        have hwholeEmpty : whole.isEmpty = false := by simpa using hwhole.1
        have hfractionEmpty : fraction.isEmpty = false := by simpa using hfraction.1
        rw [List.append_assoc, List.cons_append]
        simp [takeNumber, takeWhile_run hwhole.2 point, dropWhile_run hwhole.2 point, takeFraction,
          takeWhile_run hfraction.2 stop, hwholeEmpty, hfractionEmpty]

/-- What is taken as a fraction: nothing, or a point and digits. -/
theorem takeFraction_cases (cs : List Char) :
    takeFraction cs = [] ∨ ∃ fraction rest, IsDigits fraction ∧
      takeFraction cs = '.' :: fraction ∧ cs = '.' :: (fraction ++ rest) := by
  unfold takeFraction
  split
  · rename_i cs
    by_cases hempty : (cs.takeWhile isDigit).isEmpty = true
    · exact .inl (by simp [hempty])
    · refine .inr ⟨cs.takeWhile isDigit, cs.dropWhile isDigit, ⟨?_, ?_⟩, ?_, ?_⟩
      · simpa using hempty
      · exact fun c hc => List.mem_takeWhile_imp hc
      · simp [hempty]
      · rw [List.takeWhile_append_dropWhile]
  · exact .inl rfl

/-- What is taken as a number stands at the start of the text. -/
theorem takeNumber_isPrefix (withFraction : Bool) (cs : List Char) :
    takeNumber withFraction cs <+: cs := by
  simp only [takeNumber]
  split
  · rcases takeFraction_cases (cs.dropWhile isDigit) with h | ⟨fraction, rest, -, h, hcs⟩
    · rw [h, List.append_nil]
      exact List.takeWhile_prefix isDigit
    · refine ⟨rest, ?_⟩
      rw [h, List.append_assoc, List.cons_append, ← hcs, List.takeWhile_append_dropWhile]
  · exact List.takeWhile_prefix isDigit

/-- What is taken as a number is one, unless it is nothing. -/
theorem isNumber_takeNumber {withFraction : Bool} {cs : List Char}
    (h : takeNumber withFraction cs ≠ []) : IsNumber withFraction (takeNumber withFraction cs) := by
  have digits : ∀ c ∈ cs.takeWhile isDigit, isDigit c = true := fun c hc =>
    List.mem_takeWhile_imp hc
  cases withFraction with
  | false =>
      simp only [takeNumber, Bool.false_and, Bool.false_eq_true, if_false] at h ⊢
      exact ⟨h, digits⟩
  | true =>
      by_cases hwhole : cs.takeWhile isDigit = []
      · simp [takeNumber, hwhole] at h
      · have htake : takeNumber true cs =
            cs.takeWhile isDigit ++ takeFraction (cs.dropWhile isDigit) := by
          simp [takeNumber, hwhole]
        rw [htake]
        rcases takeFraction_cases (cs.dropWhile isDigit) with hf | ⟨fraction, rest, hf, heq, -⟩
        · rw [hf, List.append_nil]
          exact .inl ⟨hwhole, digits⟩
        · exact .inr ⟨_, fraction, ⟨hwhole, digits⟩, hf, by rw [heq]⟩

/-- The reader's test for decimal numbers is the grammar's. -/
theorem isPlainDecimal_iff {cs : List Char} : isPlainDecimal cs = true ↔ IsDecimal cs := by
  unfold isPlainDecimal
  rw [Bool.and_eq_true, beq_iff_eq, Bool.not_eq_true', List.isEmpty_eq_false_iff]
  constructor
  · rintro ⟨hne, htake⟩
    have : IsNumber true (takeNumber true cs) := isNumber_takeNumber (by rwa [htake])
    rwa [htake] at this
  · intro h
    have htake : takeNumber true (cs ++ []) = cs := takeNumber_append h (by simp)
    rw [List.append_nil] at htake
    exact ⟨h.ne_nil, htake⟩

instance (cs : List Char) : Decidable (IsDecimal cs) :=
  decidable_of_iff _ isPlainDecimal_iff

/-- The reader's test for flags is the grammar's. -/
theorem isFlag_iff {word : List Char} : isFlag word = true ↔ IsFlag word := by
  unfold isFlag IsFlag
  rw [Bool.or_eq_true, Bool.or_eq_true, beq_iff_eq, beq_iff_eq, isPlainDecimal_iff, or_assoc]

instance (word : List Char) : Decidable (IsFlag word) :=
  decidable_of_iff _ isFlag_iff

/-! ## Taking a column -/

/-- A number and the blanks behind it are taken as a column. -/
theorem takeColumn?_number {withFraction : Bool} {number gap rest : List Char}
    (hnumber : IsNumber withFraction number) (hgap : IsGap gap) (hrest : StartsDark rest) :
    takeColumn? withFraction (number ++ (gap ++ rest)) = some (number, rest) := by
  have htake : takeNumber withFraction (number ++ (gap ++ rest)) = number := by
    refine takeNumber_append hnumber ?_
    obtain ⟨b, more, heq, hb⟩ := hgap.head?_append rest
    intro c hc
    obtain rfl : b = c := by simpa [heq] using hc
    exact hb
  have hblanks : (gap ++ rest).takeWhile isBlank = gap := takeWhile_run hgap.2 hrest
  have hbehind : (gap ++ rest).dropWhile isBlank = rest := dropWhile_run hgap.2 hrest
  simp [takeColumn?, htake, hblanks, hbehind, hnumber.ne_nil, hgap.1]

/-- Where a column is taken there is a number with blanks behind it. -/
theorem eq_of_takeColumn?_eq_some {withFraction : Bool} {cs number rest : List Char}
    (h : takeColumn? withFraction cs = some (number, rest)) :
    ∃ gap, cs = number ++ (gap ++ rest) ∧ IsNumber withFraction number ∧ IsGap gap ∧
      StartsDark rest := by
  unfold takeColumn? at h
  simp only [Bool.or_eq_true, List.isEmpty_iff] at h
  split at h
  · cases h
  · rename_i hne
    rw [not_or] at hne
    obtain ⟨rfl, rfl⟩ := Prod.mk.inj (Option.some.inj h)
    have hstart := List.prefix_iff_eq_append.mp (takeNumber_isPrefix withFraction cs)
    refine ⟨_, ?_, isNumber_takeNumber hne.1, ⟨hne.2, ?_⟩, ?_⟩
    · rw [List.takeWhile_append_dropWhile, hstart]
    · exact fun c hc => List.mem_takeWhile_imp hc
    · exact head?_dropWhile_eq_false isBlank _

end SnippetCost
