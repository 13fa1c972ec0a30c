import SnippetCost.Proofs.Report.Flags

/-!
# The record of a row, by its grammar

What the reader makes of a line, said for every way to cut the line up: the text behind the third number of a row
is flags and an instruction (`IsInstruction`), and the record has the three numbers and this instruction as they stand
in the line.

* **`parseRow?_follows_grammar`**: a line yields a record exactly if it has the columns of a row (`HasColumns`), and
  the record is determined by them; the instruction goes from the first word that is no flag to the last character
  that is not blank.  Where all words could be flags it is the last one.

A text is cut into words from its front, and every flag is a word, so flags and an instruction are found in it by
induction on its words (`exists_isInstruction`, `exists_lastWord`).
-/

namespace SnippetCost

open SnippetCost.Text

/-! ## The columns -/

/-- A line in the shape of a row: what stands in its first three columns, and the text behind them, which begins with
a character that is not blank and goes on with anything. -/
inductive HasColumns : (line uops latency throughput rest : List Char) → Prop where
  | columns {lead uops gap₁ latency gap₂ throughput gap₃ rest : List Char}
      (lead_blank : ∀ c ∈ lead, isBlank c = true)
      (uops_digits : IsDigits uops) (gap₁_blank : IsGap gap₁)
      (latency_digits : IsDigits latency) (gap₂_blank : IsGap gap₂)
      (throughput_decimal : IsDecimal throughput) (gap₃_blank : IsGap gap₃)
      (rest_ne_nil : rest ≠ []) (rest_dark : StartsDark rest) :
      HasColumns (lead ++ (uops ++ (gap₁ ++ (latency ++ (gap₂ ++ (throughput ++ (gap₃ ++ rest)))))))
        uops latency throughput rest

/-- A line that yields a record has columns. -/
theorem IsRow.exists_hasColumns {line : List Char} (h : IsRow line) :
    ∃ uops latency throughput rest, HasColumns line uops latency throughput rest := by
  cases h with
  | columns hlead huops hgap₁ hlatency hgap₂ hthroughput hgap₃ hne hdark _ _ =>
      exact ⟨_, _, _, _, .columns hlead huops hgap₁ hlatency hgap₂ hthroughput hgap₃
        (List.append_ne_nil_of_left_ne_nil hne _) (hdark.append hne _)⟩

theorem HasColumns.rest_starts {line uops latency throughput rest : List Char}
    (h : HasColumns line uops latency throughput rest) : rest ≠ [] ∧ StartsDark rest := by
  cases h with
  | columns _ _ _ _ _ _ _ hne hdark => exact ⟨hne, hdark⟩

/-- The columns are read as they stand, and the text behind them without the blanks at its end. -/
theorem HasColumns.parseRow?_eq {line uops latency throughput rest : List Char}
    (h : HasColumns line uops latency throughput rest) (oneLine : '\n' ∉ line) (order : Int) :
    parseRow? line order = some
      { order := order
        uops := String.ofList uops
        latency := String.ofList latency
        throughput := String.ofList throughput
        instruction := String.ofList (dropFlags (words (trimEnd rest)) (trimEnd rest)) } := by
  cases h with
  | columns hlead huops hgap₁ hlatency hgap₂ hthroughput hgap₃ hne hdark =>
      obtain ⟨trail, hrest, htrail⟩ := exists_trimEnd_append rest
      obtain ⟨htrimNe, htrimDark⟩ := startsDark_trimEnd hne hdark
      have hfeed : '\n' ∉ trimEnd rest := by
        intro hmem
        have hmem' : '\n' ∈ rest := by
          rw [hrest]
          exact List.mem_append_left trail hmem
        simp [hmem'] at oneLine
      have hread := parseRow?_columns hlead huops hgap₁ hlatency hgap₂ hthroughput hgap₃ htrimNe htrimDark hfeed
        (trimEnd_trimEnd rest) htrail order
      rwa [← hrest] at hread

/-! ## The instruction -/

/-- The instruction of a text: behind flags only, it begins with a word that is no flag, and it ends with the last
character that is not blank. -/
inductive IsInstruction : (rest instruction : List Char) → Prop where
  | behind {flags : List (List Char × List Char)} {instruction trail : List Char}
      (flags_flag : ∀ f ∈ flags, IsFlag f.1 ∧ IsGap f.2)
      (ne_nil : instruction ≠ []) (trimmed : trim instruction = instruction)
      (other : ¬IsFlag (instruction.takeWhile (!isBlank ·)))
      (trail_blank : ∀ c ∈ trail, isBlank c = true) :
      IsInstruction (flagText flags ++ (instruction ++ trail)) instruction

/-- What is trimmed is the end of the text in front of the blanks. -/
theorem trimEnd_flagText_append {left trail : List Char} (hne : left ≠ []) (htrim : trim left = left)
    (htrail : ∀ c ∈ trail, isBlank c = true) (flags : List (List Char × List Char)) :
    trimEnd (flagText flags ++ (left ++ trail)) = flagText flags ++ left := by
  rw [← List.append_assoc, trimEnd_append_blanks _ htrail]
  exact trimEnd_append hne (trimEnd_of_trim_eq htrim) (flagText flags)

/-- The instruction is what the reader leaves. -/
theorem IsInstruction.dropFlags_eq {rest instruction : List Char} (h : IsInstruction rest instruction) :
    dropFlags (words (trimEnd rest)) (trimEnd rest) = instruction := by
  cases h with
  | behind hflags hne htrim hother htrail =>
      rw [trimEnd_flagText_append hne htrim htrail]
      exact dropFlags_flagText hflags hne (startsDark_of_trim_eq htrim) hother

/-- Blanks behind a text do not belong to its first word. -/
theorem takeWhile_append_blanks (cs : List Char) {blanks : List Char} (h : ∀ c ∈ blanks, isBlank c = true) :
    (cs ++ blanks).takeWhile (!isBlank ·) = cs.takeWhile (!isBlank ·) := by
  induction cs with
  | nil =>
      cases blanks with
      | nil => rfl
      | cons b blanks => simp [h b List.mem_cons_self]
  | cons c cs ih => rw [List.cons_append, List.takeWhile_cons, List.takeWhile_cons, ih]

/-- One more flag in front does not change the instruction. -/
theorem IsInstruction.cons {rest instruction flag gap : List Char} (h : IsInstruction rest instruction)
    (hflag : IsFlag flag) (hgap : IsGap gap) : IsInstruction (flag ++ (gap ++ rest)) instruction := by
  cases h with
  | @behind flags _ trail hflags hne htrim hother htrail =>
      have hcons : ∀ f ∈ (flag, gap) :: flags, IsFlag f.1 ∧ IsGap f.2 := by
        rw [List.forall_mem_cons]
        exact ⟨⟨hflag, hgap⟩, hflags⟩
      have hbehind := IsInstruction.behind hcons hne htrim hother htrail
      rwa [flagText_cons, List.append_assoc, List.append_assoc] at hbehind

/-- Where one of the words is no flag, there is an instruction. -/
theorem exists_isInstruction {rest : List Char} (hne : rest ≠ []) (hdark : StartsDark rest)
    (other : ∃ word ∈ words rest, ¬IsFlag word) : ∃ instruction, IsInstruction rest instruction := by
  induction hws : words rest generalizing rest with
  | nil => exact absurd hws (words_ne_nil hne hdark)
  | cons word ws ih =>
      obtain ⟨word', blanks, after, hrest, hwordNe, hword, hblanks, hgap, hafter, hwords⟩ := exists_word hne hdark
      rw [hwords] at hws other
      obtain ⟨rfl, rfl⟩ := List.cons.inj hws
      by_cases hflag : IsFlag word'
      · have other' : ∃ w ∈ words after, ¬IsFlag w := by
          obtain ⟨w, hw, hw'⟩ := other
          rcases List.mem_cons.mp hw with rfl | hmem
          · exact absurd hflag hw'
          · exact ⟨w, hmem, hw'⟩
        have hafterNe : after ≠ [] := by
          rintro rfl
          obtain ⟨w, hw, -⟩ := other'
          cases hw
        obtain ⟨instruction, hinstruction⟩ := ih hafterNe hafter other' rfl
        rw [hrest]
        exact ⟨instruction, hinstruction.cons hflag ⟨hgap hafterNe, hblanks⟩⟩
      · -- The text is the instruction, and its first word stays what it is when the end is trimmed.
        obtain ⟨trail, htrim, htrail⟩ := exists_trimEnd_append rest
        obtain ⟨htrimNe, htrimDark⟩ := startsDark_trimEnd hne hdark
        have hfirst : (trimEnd rest).takeWhile (!isBlank ·) = word' := by
          rw [← takeWhile_append_blanks _ htrail, ← htrim]
          obtain ⟨c, cs, rfl⟩ := List.exists_cons_of_ne_nil hne
          rw [words_cons (hdark c rfl)] at hwords
          exact (List.cons.inj hwords).1
        have hbehind : IsInstruction (flagText [] ++ (trimEnd rest ++ trail)) (trimEnd rest) := by
          refine .behind (List.forall_mem_nil _) htrimNe ?_ (by rwa [hfirst]) htrail
          exact (trim_blanks_append (List.forall_mem_nil _) htrimDark).trans (trimEnd_trimEnd rest)
        rw [flagText_nil, List.nil_append, ← htrim] at hbehind
        exact ⟨_, hbehind⟩

/-- Words that all are flags: the last one stands behind the others, and nothing but blanks behind it. -/
theorem exists_flagText_lastWord {rest : List Char} (hne : rest ≠ []) (hdark : StartsDark rest)
    (all : ∀ word ∈ words rest, IsFlag word) : ∃ flags word trail, (∀ f ∈ flags, IsFlag f.1 ∧ IsGap f.2) ∧
      rest = flagText flags ++ (word ++ trail) ∧ IsFlag word ∧ (∀ c ∈ trail, isBlank c = true) ∧
      (words rest).getLast? = some word := by
  induction hws : words rest generalizing rest with
  | nil => exact absurd hws (words_ne_nil hne hdark)
  | cons word ws ih =>
      obtain ⟨word', blanks, after, rfl, -, -, hblanks, hgap, hafter, hwords⟩ := exists_word hne hdark
      rw [hwords] at hws all
      obtain ⟨rfl, rfl⟩ := List.cons.inj hws
      rw [List.forall_mem_cons] at all
      by_cases hend : after = []
      · subst hend
        exact ⟨[], word', blanks, List.forall_mem_nil _, by simp, all.1, hblanks, rfl⟩
      · obtain ⟨flags, word, trail, hflags, hafterEq, hword, htrail, hlast⟩ := ih hend hafter all.2 rfl
        refine ⟨(word', blanks) :: flags, word, trail, ?_, ?_, hword, htrail, ?_⟩
        · rw [List.forall_mem_cons]
          exact ⟨⟨all.1, hgap hend, hblanks⟩, hflags⟩
        · rw [flagText_cons, List.append_assoc, List.append_assoc, ← hafterEq]
        · rw [List.getLast?_cons, hlast]
          rfl

/-- A flag is one word. -/
theorem IsFlag.words_eq {word : List Char} (h : IsFlag word) : words word = [word] := by
  have halone : words (word ++ []) = [word] := words_append h.ne_nil h.isBlank_eq_false nofun
  rwa [List.append_nil] at halone

/-- Where all words could be flags, the last one is left. -/
theorem exists_lastWord {rest : List Char} (hne : rest ≠ []) (hdark : StartsDark rest)
    (all : ∀ word ∈ words rest, IsFlag word) : ∃ word, (words rest).getLast? = some word ∧
      dropFlags (words (trimEnd rest)) (trimEnd rest) = word := by
  obtain ⟨flags, word, trail, hflags, hrest, hword, htrail, hlast⟩ := exists_flagText_lastWord hne hdark all
  have hdarkWord := startsDark_of_forall hword.isBlank_eq_false
  have htrim : trimEnd word = word := by
    rw [trimEnd_eq_self_iff]
    exact fun c hc => hword.isBlank_eq_false c (List.mem_of_mem_getLast? hc)
  have htrimmed : trim word = word := (trim_blanks_append (List.forall_mem_nil _) hdarkWord).trans htrim
  refine ⟨word, hlast, ?_⟩
  rw [hrest, trimEnd_flagText_append hword.ne_nil htrimmed htrail,
    dropFlags_flagText_append hflags hword.ne_nil hdarkWord, hword.words_eq]
  rfl

/-! ## Rows -/

/-- **What a row says.**  A line without the columns of a row yields no record.  The record of any other line has the
three columns as they stand; where one of the words behind them is no flag, its instruction is the only one there is
in the text behind the columns, and else it is the last word. -/
theorem parseRow?_follows_grammar (line : List Char) (order : Int) (oneLine : '\n' ∉ line) :
    ((¬∃ uops latency throughput rest, HasColumns line uops latency throughput rest) →
      parseRow? line order = none) ∧
    ∀ uops latency throughput rest, HasColumns line uops latency throughput rest →
      ((∃ word ∈ words rest, ¬IsFlag word) → ∃ instruction,
        (∀ other, IsInstruction rest other ↔ other = instruction) ∧
        parseRow? line order = some
          { order := order
            uops := String.ofList uops
            latency := String.ofList latency
            throughput := String.ofList throughput
            instruction := String.ofList instruction }) ∧
      ((∀ word ∈ words rest, IsFlag word) → ∃ word, (words rest).getLast? = some word ∧
        parseRow? line order = some
          { order := order
            uops := String.ofList uops
            latency := String.ofList latency
            throughput := String.ofList throughput
            instruction := String.ofList word }) := by
  constructor
  · intro shapeless
    rw [Option.eq_none_iff_forall_ne_some]
    intro record hrecord
    exact shapeless (isRow_of_parseRow?_eq_some hrecord).exists_hasColumns
  · intro uops latency throughput rest hcolumns
    obtain ⟨hne, hdark⟩ := hcolumns.rest_starts
    rw [hcolumns.parseRow?_eq oneLine order]
    constructor
    · intro other
      obtain ⟨instruction, hinstruction⟩ := exists_isInstruction hne hdark other
      refine ⟨instruction, ?_, by rw [hinstruction.dropFlags_eq]⟩
      intro i
      constructor
      · intro hi
        rw [← hi.dropFlags_eq, hinstruction.dropFlags_eq]
      · rintro rfl
        exact hinstruction
    · intro all
      obtain ⟨word, hlast, hword⟩ := exists_lastWord hne hdark all
      exact ⟨word, hlast, by rw [hword]⟩

/-- Flags that occur again in the instruction behind them, alone and inside other words. -/
def repeatedWords : List Char :=
  flagText [(['1'], [' ']), (['U'], ['\t']), (['1', '.', '0'], [' ']), (['*'], [' '])] ++
    ("U1 1,  U 1.00".toList ++ [' '])

/-- A row with these words, and numbers that are like them. -/
def repeatedRow : List Char :=
  [' '] ++ (['1'] ++ (['\t'] ++ (['1'] ++ ([' ', ' '] ++ (['1', '.', '0', '0'] ++ ([' '] ++ repeatedWords))))))

theorem parseRow?_follows_grammar_repeated : '\n' ∉ repeatedRow ∧
    HasColumns repeatedRow ['1'] ['1'] ['1', '.', '0', '0'] repeatedWords ∧
    (∃ word ∈ words repeatedWords, ¬IsFlag word) ∧
    parseRow? repeatedRow 7 = some
      { order := 7, uops := "1", latency := "1", throughput := "1.00", instruction := "U1 1,  U 1.00" } := by
  have oneLine : '\n' ∉ repeatedRow := by decide
  have columns : HasColumns repeatedRow ['1'] ['1'] ['1', '.', '0', '0'] repeatedWords :=
    .columns (List.forall_mem_singleton.mpr rfl) (by decide) (by decide) (by decide) (by decide) (by decide)
      (by decide) (by decide) (by rintro c ⟨⟩; decide)
  have other : ∃ word ∈ words repeatedWords, ¬IsFlag word := ⟨"U1".toList, by decide, by decide⟩
  have instruction : IsInstruction repeatedWords "U1 1,  U 1.00".toList :=
    .behind (by decide) (by decide) (by decide) (by decide) (List.forall_mem_singleton.mpr rfl)
  obtain ⟨found, unique, read⟩ := ((parseRow?_follows_grammar repeatedRow 7 oneLine).2 _ _ _ _ columns).1 other
  obtain rfl := (unique _).mp instruction
  exact ⟨oneLine, columns, other, read⟩

end SnippetCost
