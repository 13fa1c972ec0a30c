import Mathlib.Data.List.DropRight
import Mathlib.Data.List.TakeWhile
import SnippetCost.Text.Blank
import SnippetCost.Text.DecimalDigit
import SnippetCost.Text.Line

/-!
# Runs of characters

Everything that reads a report cuts it at the borders between runs of characters of one kind: blanks,
digits, words.  This file says where these cuts fall.

* **Runs** (`takeWhile_run`, `dropWhile_run`): a run of characters of a kind, followed by a text that does
  not begin with one, is cut off as it stands.
* **Kinds** (`isBlank_of_isLineBreak`, `isBlank_of_isDigit`, `isDigit_of_isAlpha`): a line break is a blank,
  and no blank is a digit or a letter, so a cut is never ambiguous.
* **Trimming** (`exists_trimWhere_append`, `trimEnd_append_blanks`, `exists_trimEnd_append`, `trim_blanks_append`):
  blanks at the ends go, and nothing else.
* **Words** (`words_cons`, `words_blanks`): the words of a text are read off its front one by one.
-/

namespace SnippetCost.Text

/-! ## Runs -/

section Runs

variable {α : Type} {p : α → Bool} {run rest : List α}

/-- A run is taken whole, and no more than it. -/
theorem takeWhile_run (h : ∀ c ∈ run, p c = true) (stop : ∀ c ∈ rest.head?, p c = false) :
    (run ++ rest).takeWhile p = run := by
  rw [List.takeWhile_append_of_pos h]
  cases rest with
  | nil => simp
  | cons c cs => simp [stop c rfl]

/-- A run is dropped whole, and no more than it. -/
theorem dropWhile_run (h : ∀ c ∈ run, p c = true) (stop : ∀ c ∈ rest.head?, p c = false) :
    (run ++ rest).dropWhile p = rest := by
  rw [List.dropWhile_append_of_pos h]
  cases rest with
  | nil => simp
  | cons c cs => simp [stop c rfl]

/-- What is left when a run has been dropped does not begin with a character of its kind. -/
theorem head?_dropWhile_eq_false (p : α → Bool) (cs : List α) :
    ∀ c ∈ (cs.dropWhile p).head?, p c = false := by
  intro c hc
  have := List.head?_dropWhile_not p cs
  rw [Option.mem_def.mp hc] at this
  exact this

/-- A text without a character is a run of others. -/
theorem forall_bne_of_not_mem [DecidableEq α] {c : α} (h : c ∉ run) : ∀ a ∈ run, (a != c) = true :=
  fun _ ha => bne_iff_ne.mpr (ne_of_mem_of_not_mem ha h)

/-- What a search passes over is not what it looks for. -/
theorem not_of_mem_takeWhile {P : α → Prop} (test : ∀ a, p a = true ↔ P a) {a : α}
    (h : a ∈ run.takeWhile (!p ·)) : ¬P a := by
  have hother := List.mem_takeWhile_imp h
  rw [← test a]
  simpa using hother

/-- What it stops at is. -/
theorem of_mem_head?_dropWhile {P : α → Prop} (test : ∀ a, p a = true ↔ P a) {a : α}
    (h : a ∈ (run.dropWhile (!p ·)).head?) : P a := by
  have hfound := head?_dropWhile_eq_false (!p ·) run a h
  rw [← test a]
  simpa using hfound

end Runs

/-! ## Kinds of characters -/

/-- Every line break is a blank. -/
theorem isBlank_of_isLineBreak {c : Char} (h : isLineBreak c = true) : isBlank c = true := by
  simp only [isLineBreak, Bool.or_eq_true, Bool.and_eq_true, decide_eq_true_eq, beq_iff_eq] at h
  simp only [isBlank, isWhiteSpace, inRanges, whiteSpaceRanges, List.any_cons, List.any_nil,
    Bool.or_eq_true, Bool.and_eq_true, decide_eq_true_eq]
  omega

theorem isLineBreak_of_not_isBlank {c : Char} (h : isBlank c = false) : isLineBreak c = false := by
  by_contra hc
  rw [Bool.not_eq_false] at hc
  rw [isBlank_of_isLineBreak hc] at h
  cases h

/-- The run of ten code points a digit belongs to. -/
theorem exists_zero_of_isDigit {c : Char} (h : isDigit c = true) :
    ∃ z ∈ decimalZeros, z ≤ c.toNat ∧ c.toNat < z + 10 := by
  unfold isDigit zeroOf? at h
  simpa only [List.find?_isSome, Bool.and_eq_true, decide_eq_true_eq] using h

/-- The range of code points a blank belongs to. -/
theorem exists_range_of_isBlank {c : Char} (h : isBlank c = true) :
    ∃ r ∈ (0x1C, 0x1F) :: whiteSpaceRanges, r.1 ≤ c.toNat ∧ c.toNat ≤ r.2 := by
  simp only [isBlank, isWhiteSpace, inRanges, Bool.or_eq_true, List.any_eq_true, Bool.and_eq_true,
    decide_eq_true_eq] at h
  rcases h with ⟨r, hr, hc⟩ | hc
  · exact ⟨r, List.mem_cons_of_mem _ hr, hc⟩
  · exact ⟨_, List.mem_cons_self, hc⟩

/-- No digit is a blank. -/
theorem isBlank_of_isDigit {c : Char} (h : isDigit c = true) : isBlank c = false := by
  by_contra hb
  obtain ⟨z, hz, hlow, hhigh⟩ := exists_zero_of_isDigit h
  obtain ⟨r, hr, hrange⟩ := exists_range_of_isBlank (by simpa using hb)
  have apart : ∀ z ∈ decimalZeros, ∀ r ∈ (0x1C, 0x1F) :: whiteSpaceRanges,
      z + 10 ≤ r.1 ∨ r.2 < z := by decide
  have := apart z hz r hr
  omega

/-- The code points of the letters of the alphabet. -/
theorem toNat_of_isAlpha {c : Char} (h : c.isAlpha = true) :
    (0x41 ≤ c.toNat ∧ c.toNat ≤ 0x5A) ∨ (0x61 ≤ c.toNat ∧ c.toNat ≤ 0x7A) := by
  have hc : (c.isUpper || c.isLower) = true := h
  rw [Bool.or_eq_true] at hc
  rcases hc with hupper | hlower
  · have hrange : 0x41 ≤ c.val ∧ c.val ≤ 0x5A := of_decide_eq_true hupper
    exact .inl hrange
  · have hrange : (decide (0x61 ≤ c.val) && decide (c.val ≤ 0x7A)) = true := hlower
    rw [Bool.and_eq_true, decide_eq_true_eq, decide_eq_true_eq] at hrange
    exact .inr hrange

/-- No letter is a digit. -/
theorem isDigit_of_isAlpha {c : Char} (h : c.isAlpha = true) : isDigit c = false := by
  have hc := toNat_of_isAlpha h
  by_contra hd
  obtain ⟨z, hz, hlow, hhigh⟩ := exists_zero_of_isDigit (by simpa using hd)
  have apart : ∀ z ∈ decimalZeros, z + 10 ≤ 0x41 ∨ 0x7A < z := by decide
  have := apart z hz
  omega

/-- No letter is a blank. -/
theorem isBlank_of_isAlpha {c : Char} (h : c.isAlpha = true) : isBlank c = false := by
  by_contra hb
  have hc := toNat_of_isAlpha h
  obtain ⟨r, hr, hrange⟩ := exists_range_of_isBlank (by simpa using hb)
  have apart : ∀ r ∈ (0x1C, 0x1F) :: whiteSpaceRanges,
      r.2 < 0x41 ∨ (0x5A < r.1 ∧ r.2 < 0x61) ∨ 0x7A < r.1 := by decide
  have := apart r hr
  omega

theorem isWhiteSpace_of_not_isBlank {c : Char} (h : isBlank c = false) : isWhiteSpace c = false := by
  unfold isBlank at h
  rw [Bool.or_eq_false_iff] at h
  exact h.1

/-- A digit is no letter, so it has no other case. -/
theorem toLower_digit {d : Char} (h : isDigit d = true) : d.toLower = d := by
  have hcase : ¬(d.val ≥ 'A'.val ∧ d.val ≤ 'Z'.val) := by
    intro hrange
    have hupper : d.isUpper = true := decide_eq_true hrange
    have halpha : d.isAlpha = true := by
      change (d.isUpper || d.isLower) = true
      rw [hupper, Bool.true_or]
    rw [isDigit_of_isAlpha halpha] at h
    cases h
  unfold Char.toLower
  exact dif_neg hcase

/-- Only letters become letters in another case. -/
theorem isAlpha_of_isAlpha_toLower {c : Char} (h : c.toLower.isAlpha = true) : c.isAlpha = true := by
  by_cases hrange : c.val ≥ 'A'.val ∧ c.val ≤ 'Z'.val
  · have hupper : c.isUpper = true := decide_eq_true hrange
    change (c.isUpper || c.isLower) = true
    rw [hupper, Bool.true_or]
  · have hlower : c.toLower = c := dif_neg hrange
    rwa [hlower] at h

/-- A text that is empty or begins with something other than a blank. -/
def StartsDark (cs : List Char) : Prop :=
  ∀ c ∈ cs.head?, isBlank c = false

theorem StartsDark.append {cs : List Char} (hne : cs ≠ []) (h : StartsDark cs)
    (rest : List Char) : StartsDark (cs ++ rest) := by
  obtain ⟨c, cs, rfl⟩ := List.exists_cons_of_ne_nil hne
  exact h

theorem startsDark_of_forall {cs : List Char} (h : ∀ c ∈ cs, isBlank c = false) : StartsDark cs :=
  fun c hc => h c (List.mem_of_mem_head? hc)

/-! ## Trimming -/

section TrimWhere

variable {p : Char → Bool} {before core after : List Char}

/-- Around a text without characters of a kind these go. -/
theorem trimWhere_append (hbefore : ∀ c ∈ before, p c = true) (hafter : ∀ c ∈ after, p c = true)
    (hcore : ∀ c ∈ core, p c = false) : trimWhere p (before ++ (core ++ after)) = core := by
  unfold trimWhere
  by_cases hempty : core = []
  · subst hempty
    have hall : ∀ c ∈ before ++ ([] ++ after), p c = true := by
      rw [List.nil_append, List.forall_mem_append]
      exact ⟨hbefore, hafter⟩
    rw [List.dropWhile_eq_nil_iff.mpr hall]
    rfl
  · have front : ∀ c ∈ (core ++ after).head?, p c = false := by
      intro c hc
      rw [List.head?_append_of_ne_nil core hempty] at hc
      exact hcore c (List.mem_of_mem_head? hc)
    have back : ∀ c ∈ core.reverse.head?, p c = false := fun c hc =>
      hcore c (List.mem_reverse.mp (List.mem_of_mem_head? hc))
    rw [dropWhile_run hbefore front, List.reverse_append, dropWhile_run (by simpa using hafter) back,
      List.reverse_reverse]

/-- No character of a kind is in a text, so there is nothing to trim. -/
theorem trimWhere_eq_self (h : ∀ c ∈ core, p c = false) : trimWhere p core = core := by
  have htrim : trimWhere p ([] ++ (core ++ [])) = core :=
    trimWhere_append (List.forall_mem_nil _) (List.forall_mem_nil _) h
  rwa [List.nil_append, List.append_nil] at htrim

/-- What is trimmed stands around what is left. -/
theorem exists_trimWhere_append (p : Char → Bool) (cs : List Char) :
    ∃ before after, cs = before ++ (trimWhere p cs ++ after) ∧ (∀ c ∈ before, p c = true) ∧
      ∀ c ∈ after, p c = true := by
  refine ⟨cs.takeWhile p, ((cs.dropWhile p).reverse.takeWhile p).reverse, ?_, ?_, ?_⟩
  · unfold trimWhere
    rw [← List.reverse_append, List.takeWhile_append_dropWhile, List.reverse_reverse,
      List.takeWhile_append_dropWhile]
  · exact fun c hc => List.mem_takeWhile_imp hc
  · intro c hc
    exact List.mem_takeWhile_imp (List.mem_reverse.mp hc)

end TrimWhere

/-- Blanks at the end go. -/
theorem trimEnd_append_blanks (cs : List Char) {blanks : List Char}
    (h : ∀ c ∈ blanks, isBlank c = true) : trimEnd (cs ++ blanks) = trimEnd cs := by
  unfold trimEnd
  rw [List.reverse_append, List.dropWhile_append_of_pos (by simpa using h)]

/-- A text that ends in something else keeps its end. -/
theorem trimEnd_append_of_not_isBlank (cs : List Char) {c : Char} (h : isBlank c = false) :
    trimEnd (cs ++ [c]) = cs ++ [c] := by
  simp [trimEnd, h]

/-- A text is what trimming leaves of it and blanks. -/
theorem exists_trimEnd_append (cs : List Char) :
    ∃ blanks, cs = trimEnd cs ++ blanks ∧ ∀ c ∈ blanks, isBlank c = true := by
  refine ⟨(cs.reverse.takeWhile isBlank).reverse, ?_, ?_⟩
  · unfold trimEnd
    rw [← List.reverse_append, List.takeWhile_append_dropWhile, List.reverse_reverse]
  · intro c hc
    exact List.mem_takeWhile_imp (List.mem_reverse.mp hc)

/-- What trimming leaves, if anything, ends in something other than a blank. -/
theorem getLast?_trimEnd (cs : List Char) : ∀ c ∈ (trimEnd cs).getLast?, isBlank c = false := by
  unfold trimEnd
  rw [List.getLast?_reverse]
  exact head?_dropWhile_eq_false isBlank cs.reverse

theorem trimEnd_trimEnd (cs : List Char) : trimEnd (trimEnd cs) = trimEnd cs :=
  List.rdropWhile_idempotent isBlank cs

/-- The end of a text is trimmed if that of its last piece is. -/
theorem trimEnd_append {cs : List Char} (hne : cs ≠ []) (h : trimEnd cs = cs) (front : List Char) :
    trimEnd (front ++ cs) = front ++ cs := by
  obtain ⟨start, c, rfl⟩ := (List.eq_nil_or_concat cs).resolve_left hne
  rw [List.concat_eq_append] at h ⊢
  have hc : isBlank c = false := by
    refine getLast?_trimEnd (start ++ [c]) c ?_
    rw [h]
    simp
  rw [← List.append_assoc]
  exact trimEnd_append_of_not_isBlank (front ++ start) hc

theorem trim_eq_trimEnd (cs : List Char) : trim cs = trimEnd (cs.dropWhile isBlank) := rfl

/-- A trimmed text is trimmed at its end. -/
theorem trimEnd_of_trim_eq {cs : List Char} (h : trim cs = cs) : trimEnd cs = cs := by
  rw [trim_eq_trimEnd] at h
  rw [← h, trimEnd_trimEnd]

/-- A trimmed text is trimmed at its start. -/
theorem startsDark_of_trim_eq {cs : List Char} (h : trim cs = cs) : StartsDark cs := by
  intro c hc
  rw [trim_eq_trimEnd] at h
  obtain ⟨blanks, hdrop, -⟩ := exists_trimEnd_append (cs.dropWhile isBlank)
  rw [h] at hdrop
  refine head?_dropWhile_eq_false isBlank cs c ?_
  rw [hdrop]
  exact List.mem_head?_append_of_mem_head? hc

theorem trimEnd_eq_self_iff {cs : List Char} :
    trimEnd cs = cs ↔ ∀ c ∈ cs.getLast?, isBlank c = false := by
  constructor
  · intro h
    rw [← h]
    exact getLast?_trimEnd cs
  · intro h
    rcases List.eq_nil_or_concat cs with rfl | ⟨start, c, rfl⟩
    · rfl
    · rw [List.concat_eq_append] at h ⊢
      exact trimEnd_append_of_not_isBlank start (h c (by simp))

/-- The end of a trimmed text is trimmed. -/
theorem trimEnd_of_append {front cs : List Char} (h : trimEnd (front ++ cs) = front ++ cs) :
    trimEnd cs = cs := by
  rw [trimEnd_eq_self_iff] at h ⊢
  exact fun c hc => h c (List.mem_getLast?_append_of_mem_getLast? hc)

/-- Blanks in front of a text go, and those at its end. -/
theorem trim_blanks_append {blanks cs : List Char} (h : ∀ c ∈ blanks, isBlank c = true)
    (hdark : StartsDark cs) : trim (blanks ++ cs) = trimEnd cs := by
  rw [trim_eq_trimEnd, dropWhile_run h hdark]

/-! ## Words -/

/-- Blanks in front of the first word do not matter. -/
theorem words_blanks {blanks : List Char} (h : ∀ c ∈ blanks, isBlank c = true) (cs : List Char) :
    words (blanks ++ cs) = words cs := by
  induction blanks with
  | nil => rfl
  | cons b blanks ih =>
      have hb : isBlank b = true := h b List.mem_cons_self
      have step : words (b :: (blanks ++ cs)) = words (blanks ++ cs) := by
        simp [words, wordsFrom, hb]
      rw [List.cons_append, step, ih fun c hc => h c (List.mem_cons_of_mem b hc)]

/-- Blanks alone end the word that has been begun, and begin none. -/
theorem wordsFrom_blanks {blanks : List Char} (h : ∀ c ∈ blanks, isBlank c = true) (current : List Char) :
    wordsFrom current blanks = wordsFrom current [] := by
  induction blanks generalizing current with
  | nil => rfl
  | cons b blanks ih =>
      rw [List.forall_mem_cons] at h
      have hend : wordsFrom [] blanks = [] := ih h.2 []
      simp [wordsFrom, h.1, hend]

/-- Blanks behind the last word do not matter. -/
theorem words_append_blanks (cs : List Char) {blanks : List Char} (h : ∀ c ∈ blanks, isBlank c = true) :
    words (cs ++ blanks) = words cs := by
  have begun : ∀ current, wordsFrom current (cs ++ blanks) = wordsFrom current cs := by
    induction cs with
    | nil => exact wordsFrom_blanks h
    | cons c cs ih =>
        intro current
        simp only [List.cons_append, wordsFrom, ih]
  exact begun []

/-- A word that has been begun goes on up to the next blank. -/
theorem wordsFrom_of_ne_nil {current : List Char} (h : current ≠ []) (cs : List Char) :
    wordsFrom current cs =
      (current.reverse ++ cs.takeWhile (!isBlank ·)) :: words (cs.dropWhile (!isBlank ·)) := by
  induction cs generalizing current with
  | nil => simp [wordsFrom, h, words]
  | cons c cs ih =>
      by_cases hc : isBlank c = true
      · simp [wordsFrom, hc, h, words]
      · rw [Bool.not_eq_true] at hc
        have step : wordsFrom current (c :: cs) = wordsFrom (c :: current) cs := by
          simp [wordsFrom, hc]
        rw [step, ih (List.cons_ne_nil c current)]
        simp [hc]

/-- The first word of a text that begins with one, and the words behind it. -/
theorem words_cons {c : Char} (h : isBlank c = false) (cs : List Char) :
    words (c :: cs) =
      (c :: cs).takeWhile (!isBlank ·) :: words ((c :: cs).dropWhile (!isBlank ·)) := by
  have step : words (c :: cs) = wordsFrom [c] cs := by simp [words, wordsFrom, h]
  rw [step, wordsFrom_of_ne_nil (List.cons_ne_nil c [])]
  simp [h]

/-- A word ends in front of a blank, and where the text ends. -/
theorem words_append {word rest : List Char} (hne : word ≠ []) (hword : ∀ c ∈ word, isBlank c = false)
    (hrest : ∀ c ∈ rest.head?, isBlank c = true) : words (word ++ rest) = word :: words rest := by
  have stop : ∀ c ∈ rest.head?, (!isBlank c) = false := by simpa using hrest
  have run : ∀ c ∈ word, (!isBlank c) = true := by simpa using hword
  obtain ⟨c, cs, rfl⟩ := List.exists_cons_of_ne_nil hne
  rw [List.cons_append, words_cons (hword c List.mem_cons_self), ← List.cons_append, takeWhile_run run stop,
    dropWhile_run run stop]

/-- A word, the blanks behind it, and the words that follow. -/
theorem words_word_append {word blanks : List Char} (hne : word ≠ [])
    (hword : ∀ c ∈ word, isBlank c = false) (hblanks : blanks ≠ [])
    (hall : ∀ c ∈ blanks, isBlank c = true) (cs : List Char) :
    words (word ++ (blanks ++ cs)) = word :: words cs := by
  have stop : ∀ c ∈ (blanks ++ cs).head?, isBlank c = true := by
    obtain ⟨b, rest, rfl⟩ := List.exists_cons_of_ne_nil hblanks
    rintro c ⟨⟩
    exact hall b List.mem_cons_self
  rw [words_append hne hword stop, words_blanks hall]

end SnippetCost.Text
