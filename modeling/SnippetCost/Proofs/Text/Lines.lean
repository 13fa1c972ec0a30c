import SnippetCost.Text.Line

/-!
# Cutting a text into lines

A text that is put together from lines, each but the first behind a line feed, is cut into these lines
again (`lines_below_lineFeed`).  Only an empty last line leaves no trace (`exists_lines_below`): a break at
the very end opens no further line.  And whatever a text is put together from, what stands behind a line feed
of it is cut by itself (`exists_lines_append_lineFeed`).
-/

namespace SnippetCost.Text

/-- A text on one line: it holds none of the characters that end one. -/
def OneLine (cs : List Char) : Prop :=
  ∀ c ∈ cs, isLineBreak c = false

instance (cs : List Char) : Decidable (OneLine cs) :=
  List.decidableBAll _ cs

/-- Two texts together are one line if neither of them breaks it. -/
@[simp] theorem oneLine_append {cs ds : List Char} :
    OneLine (cs ++ ds) ↔ OneLine cs ∧ OneLine ds :=
  List.forall_mem_append

/-- A line feed breaks a line. -/
theorem OneLine.lineFeed_not_mem {cs : List Char} (h : OneLine cs) : '\n' ∉ cs := by
  intro hmem
  cases h '\n' hmem

/-- Lines, each behind a line feed. -/
def below (ls : List (List Char)) : List Char :=
  ls.flatMap ('\n' :: ·)

@[simp] theorem below_nil : below [] = [] := rfl

@[simp] theorem below_cons (l : List Char) (ls : List (List Char)) :
    below (l :: ls) = '\n' :: (l ++ below ls) := rfl

/-- Lines below one another can be cut between any two of them. -/
theorem below_append (ls ms : List (List Char)) : below (ls ++ ms) = below ls ++ below ms :=
  List.flatMap_append

/-! ## One line -/

/-- A character that breaks no line goes on with the current one. -/
theorem linesFrom_cons {c : Char} (h : isLineBreak c = false) (current cs : List Char) :
    linesFrom current (c :: cs) = linesFrom (c :: current) cs := by
  rw [linesFrom.eq_3]
  · simp [h]
  · rintro _ rfl
    cases h

/-- A line feed ends it. -/
theorem linesFrom_lineFeed (current cs : List Char) :
    linesFrom current ('\n' :: cs) = current.reverse :: lines cs := by
  rw [linesFrom.eq_3]
  · rfl
  · intro _ h
    cases h

/-- A text that breaks no line goes on with the current one as a whole. -/
theorem linesFrom_append {l : List Char} (h : OneLine l) (current cs : List Char) :
    linesFrom current (l ++ cs) = linesFrom (l.reverse ++ current) cs := by
  induction l generalizing current with
  | nil => rfl
  | cons c l ih =>
      have hc : isLineBreak c = false := h c List.mem_cons_self
      have hl : OneLine l := fun x hx => h x (List.mem_cons_of_mem c hx)
      rw [List.cons_append, linesFrom_cons hc, ih hl]
      simp

/-- A line feed ends the first line. -/
theorem lines_append_lineFeed {l : List Char} (h : OneLine l) (cs : List Char) :
    lines (l ++ '\n' :: cs) = l :: lines cs := by
  rw [lines, linesFrom_append h, linesFrom_lineFeed]
  simp

/-- A text on one line is its only line, unless it is empty. -/
theorem lines_oneLine {l : List Char} (h : OneLine l) : lines l = if l = [] then [] else [l] := by
  have step := linesFrom_append h [] []
  rw [List.append_nil, List.append_nil] at step
  rw [lines, step]
  simp [linesFrom]

/-- A line holds none of the characters that end one. -/
theorem oneLine_of_mem_lines {cs l : List Char} (h : l ∈ lines cs) : OneLine l := by
  have empty : OneLine ([] : List Char).reverse := List.forall_mem_nil _
  -- Of the line that has been begun the same has to be known.
  have begun : ∀ current ds : List Char, OneLine current.reverse → ∀ l ∈ linesFrom current ds, OneLine l := by
    intro current ds hcurrent
    fun_induction linesFrom current ds with
    | case1 current hempty => exact List.forall_mem_nil _
    | case2 current hempty => exact List.forall_mem_singleton.mpr hcurrent
    | case3 current cs ih => exact List.forall_mem_cons.mpr ⟨hcurrent, ih empty⟩
    | case4 current c cs hnotPair hbreak ih => exact List.forall_mem_cons.mpr ⟨hcurrent, ih empty⟩
    | case5 current c cs hnotPair hbreak ih =>
        refine ih ?_
        rw [List.reverse_cons, oneLine_append]
        exact ⟨hcurrent, List.forall_mem_singleton.mpr (Bool.not_eq_true _ ▸ hbreak)⟩
  exact begun [] cs empty l h

/-! ## Many lines -/

/-- The lines of a text that goes on behind a line feed. -/
theorem lines_below_lineFeed {l : List Char} {ls : List (List Char)} (hl : OneLine l)
    (hls : ∀ m ∈ ls, OneLine m) (cs : List Char) :
    lines (l ++ below ls ++ '\n' :: cs) = l :: ls ++ lines cs := by
  induction ls generalizing l with
  | nil => simpa using lines_append_lineFeed hl cs
  | cons m ls ih =>
      rw [List.forall_mem_cons] at hls
      have step := lines_append_lineFeed hl (m ++ below ls ++ '\n' :: cs)
      rw [ih hls.1 hls.2] at step
      simpa using step

/-- The lines of a text that ends with its last line; if that is empty it is left out. -/
theorem exists_lines_below {l : List Char} {ls : List (List Char)} (hl : OneLine l)
    (hls : ∀ m ∈ ls, OneLine m) :
    ∃ omitted, (omitted = [] ∨ omitted = [[]]) ∧ lines (l ++ below ls) ++ omitted = l :: ls := by
  induction ls generalizing l with
  | nil =>
      rw [below_nil, List.append_nil, lines_oneLine hl]
      by_cases he : l = []
      · exact ⟨[[]], .inr rfl, by simp [he]⟩
      · exact ⟨[], .inl rfl, by simp [he]⟩
  | cons m ls ih =>
      rw [List.forall_mem_cons] at hls
      obtain ⟨omitted, homitted, hlines⟩ := ih hls.1 hls.2
      refine ⟨omitted, homitted, ?_⟩
      rw [below_cons, lines_append_lineFeed hl, List.cons_append, hlines]

/-- The lines of a text whose first one is not empty: that one, and the others, less an empty last one. -/
theorem exists_lines_eq_cons {l : List Char} {ls : List (List Char)} (hl : OneLine l)
    (hne : l ≠ []) (hls : ∀ m ∈ ls, OneLine m) :
    ∃ ms, lines (l ++ below ls) = l :: ms ∧ (ms = ls ∨ ms ++ [[]] = ls) := by
  obtain ⟨omitted, homitted, hlines⟩ := exists_lines_below hl hls
  rcases homitted with rfl | rfl
  · rw [List.append_nil] at hlines
    exact ⟨ls, hlines, .inl rfl⟩
  · rcases List.eq_nil_or_concat ls with rfl | ⟨ms, last, rfl⟩
    · -- A single line that is not empty is not left out.
      rw [← List.nil_append [l]] at hlines
      have := (List.append_inj' hlines rfl).2
      rw [List.singleton_inj] at this
      exact absurd this.symm hne
    · rw [List.concat_eq_append] at hlines ⊢
      rw [← List.cons_append] at hlines
      obtain ⟨hms, hlast⟩ := List.append_inj' hlines rfl
      exact ⟨ms, hms, .inr (by rw [hlast])⟩

/-- There are no more lines than characters. -/
theorem length_lines_le (cs : List Char) : (lines cs).length ≤ cs.length := by
  -- A line that has been begun ends without a character of its own.
  have bound : ∀ current : List Char,
      (linesFrom current cs).length ≤ cs.length + if current.isEmpty then 0 else 1 := by
    intro current
    fun_induction linesFrom current cs with
    | case1 current hempty => simp
    | case2 current hempty => simp [hempty]
    | case3 current cs ih =>
        simp only [List.length_cons, List.isEmpty_nil, if_true] at ih ⊢
        omega
    | case4 current c cs hnotPair hbreak ih =>
        simp only [List.length_cons, List.isEmpty_nil, if_true] at ih ⊢
        omega
    | case5 current c cs hnotPair hbreak ih =>
        simp only [List.length_cons, List.isEmpty_cons, Bool.false_eq_true, if_false] at ih ⊢
        omega
  simpa [lines] using bound []

/-- The first line of a text that begins with one. -/
theorem exists_lines_cons {l : List Char} (hl : OneLine l) (hne : l ≠ []) {cs : List Char}
    (h : cs = [] ∨ ∃ rest, cs = '\n' :: rest) : ∃ more, lines (l ++ cs) = l :: more := by
  rcases h with rfl | ⟨rest, rfl⟩
  · exact ⟨[], by rw [List.append_nil, lines_oneLine hl, if_neg hne]⟩
  · exact ⟨lines rest, lines_append_lineFeed hl rest⟩

/-- What stands in front of a line feed ends the line that has been begun, and further lines; each character of
these is a character of it.  The lines behind the line feed are not touched by it. -/
theorem exists_linesFrom_append_lineFeed (current front rest : List Char) :
    ∃ tail more, linesFrom current (front ++ '\n' :: rest) = (current.reverse ++ tail) :: (more ++ lines rest) ∧
      (∀ c ∈ tail, c ∈ front) ∧ ∀ l ∈ more, ∀ c ∈ l, c ∈ front := by
  -- The recursion is that of the reader; a carriage return at the very end takes the line feed with it.
  fun_induction linesFrom current front with
  | case1 current => exact ⟨[], [], by simp [linesFrom_lineFeed]⟩
  | case2 current => exact ⟨[], [], by simp [linesFrom_lineFeed]⟩
  | case3 current cs ih =>
      obtain ⟨tail, more, hlines, htail, hmore⟩ := ih
      refine ⟨[], tail :: more, by simp [linesFrom, hlines], List.forall_mem_nil _, ?_⟩
      rw [List.forall_mem_cons]
      exact ⟨fun c hc => List.mem_cons_of_mem _ (List.mem_cons_of_mem _ (htail c hc)),
        fun l hl c hc => List.mem_cons_of_mem _ (List.mem_cons_of_mem _ (hmore l hl c hc))⟩
  | case4 current c cs hnotPair hbreak ih =>
      obtain ⟨tail, more, hlines, htail, hmore⟩ := ih
      by_cases hreturn : c = '\r' ∧ cs = []
      · obtain ⟨rfl, rfl⟩ := hreturn
        exact ⟨[], [], by simp [linesFrom, lines]⟩
      · refine ⟨[], tail :: more, ?_, List.forall_mem_nil _, ?_⟩
        · rw [List.cons_append, linesFrom.eq_3, if_pos hbreak, hlines]
          · simp
          · intro ds hc hcs
            cases cs with
            | nil => exact hreturn ⟨hc, rfl⟩
            | cons d cs => exact hnotPair cs hc (by rw [(List.cons.inj hcs).1])
        · rw [List.forall_mem_cons]
          exact ⟨fun c hc => List.mem_cons_of_mem _ (htail c hc),
            fun l hl c hc => List.mem_cons_of_mem _ (hmore l hl c hc)⟩
  | case5 current c cs hnotPair hbreak ih =>
      obtain ⟨tail, more, hlines, htail, hmore⟩ := ih
      refine ⟨c :: tail, more, ?_, ?_, fun l hl d hd => List.mem_cons_of_mem _ (hmore l hl d hd)⟩
      · rw [List.cons_append, linesFrom_cons (Bool.not_eq_true _ ▸ hbreak), hlines]
        simp
      · rw [List.forall_mem_cons]
        exact ⟨List.mem_cons_self, fun d hd => List.mem_cons_of_mem _ (htail d hd)⟩

/-- A line feed behind a text ends a line, and the lines behind it are lines of the whole text. -/
theorem exists_lines_append_lineFeed (front rest : List Char) :
    ∃ before, lines (front ++ '\n' :: rest) = before ++ lines rest := by
  obtain ⟨tail, more, hlines, -, -⟩ := exists_linesFrom_append_lineFeed [] front rest
  exact ⟨tail :: more, hlines⟩

end SnippetCost.Text
