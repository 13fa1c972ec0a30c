import SnippetCost.Proofs.Report.Row
import SnippetCost.Proofs.Report.Section

/-!
# Flags, by search

The reader drops the flags of a row by their lengths, since it knows that each stands where the one before
it and its blanks end.  The other way is to *search* each flag in what is left of the text and to go on
behind the first place where it occurs.  Such a search could fail, or stop at a place too early: a flag may
occur many times, and inside other words.

* **`behindAll?_leadingFlags`**: the search of every flag succeeds, at the place where its word stands, and
  leaves the same instruction;
* **`dropFlags_isSuffix`**, **`dropFlags_ne_nil`**, **`trim_dropFlags`**: the instruction is the end of the
  text, there is one, and no blanks stand around it.
-/

namespace SnippetCost

open SnippetCost.Text

/-! ## Searching -/

/-- What stands behind the first place where a word occurs in a text. -/
def behindFirst? (word : List Char) : List Char → Option (List Char)
  | [] => afterText? word []
  | c :: cs =>
    match afterText? word (c :: cs) with
    | some rest => some rest
    | none => behindFirst? word cs

/-- What is left of a text when words are searched in it one after the other, each behind the one before
it; nothing, if one of them does not occur. -/
def behindAll? (ws : List (List Char)) (cs : List Char) : Option (List Char) :=
  ws.foldlM (fun cs word => behindFirst? word cs) cs

/-- The flags at the front of some words, the last of which counts as none. -/
def leadingFlags (ws : List (List Char)) : List (List Char) :=
  ws.dropLast.takeWhile isFlag

/-- A word that begins with something other than a blank does not occur among blanks, so behind them it is
found where it stands. -/
theorem behindFirst?_blanks {word : List Char} (hne : word ≠ []) (hdark : StartsDark word)
    {blanks : List Char} (hblanks : ∀ c ∈ blanks, isBlank c = true) (rest : List Char) :
    behindFirst? word (blanks ++ (word ++ rest)) = some rest := by
  obtain ⟨d, word, rfl⟩ := List.exists_cons_of_ne_nil hne
  induction blanks with
  | nil =>
      have hfound : afterText? (d :: word) (d :: (word ++ rest)) = some rest :=
        afterText?_eq_some_iff.mpr rfl
      rw [List.nil_append, List.cons_append, behindFirst?, hfound]
  | cons b blanks ih =>
      rw [List.forall_mem_cons] at hblanks
      have hdb : d ≠ b := by
        rintro rfl
        rw [hdark d rfl] at hblanks
        exact absurd hblanks.1 (by decide)
      have hnone : afterText? (d :: word) (b :: (blanks ++ (d :: word ++ rest))) = none := by
        rw [afterText?, if_neg hdb]
      rw [List.cons_append, behindFirst?, hnone]
      exact ih hblanks.2

/-! ## Flags as they are written -/

/-- A text that begins with a word: the word, the blanks behind it, and the text from the next word on. -/
theorem exists_word {cs : List Char} (hne : cs ≠ []) (hdark : StartsDark cs) :
    ∃ word blanks rest, cs = word ++ (blanks ++ rest) ∧ word ≠ [] ∧ (∀ c ∈ word, isBlank c = false) ∧
      (∀ c ∈ blanks, isBlank c = true) ∧ (rest ≠ [] → blanks ≠ []) ∧ StartsDark rest ∧
      words cs = word :: words rest := by
  obtain ⟨c, cs, rfl⟩ := List.exists_cons_of_ne_nil hne
  have hc : isBlank c = false := hdark c rfl
  have hsplit := List.takeWhile_append_dropWhile (p := isBlank) (l := (c :: cs).dropWhile (!isBlank ·))
  have hblanks : ∀ d ∈ ((c :: cs).dropWhile (!isBlank ·)).takeWhile isBlank, isBlank d = true :=
    fun d hd => List.mem_takeWhile_imp hd
  have hrest := head?_dropWhile_eq_false isBlank ((c :: cs).dropWhile (!isBlank ·))
  refine ⟨(c :: cs).takeWhile (!isBlank ·), ((c :: cs).dropWhile (!isBlank ·)).takeWhile isBlank,
    ((c :: cs).dropWhile (!isBlank ·)).dropWhile isBlank, ?_, ?_, ?_, hblanks, ?_, hrest, ?_⟩
  · rw [hsplit, List.takeWhile_append_dropWhile]
  · simp [hc]
  · intro d hd
    simpa using List.mem_takeWhile_imp hd
  · -- The word ends at a blank, if anything follows it.
    intro hne hnil
    rw [hnil, List.nil_append] at hsplit
    obtain ⟨d, ds, hd⟩ := List.exists_cons_of_ne_nil hne
    have hdark : isBlank d = false := hrest d (by rw [hd]; rfl)
    have hblank := head?_dropWhile_eq_false (!isBlank ·) (c :: cs) d (by rw [← hsplit, hd]; rfl)
    rw [hdark] at hblank
    cases hblank
  · rw [words_cons hc, ← words_blanks hblanks (((c :: cs).dropWhile (!isBlank ·)).dropWhile isBlank), hsplit]

/-- The words of a text that begins with one. -/
theorem words_ne_nil {cs : List Char} (hne : cs ≠ []) (hdark : StartsDark cs) : words cs ≠ [] := by
  obtain ⟨word, blanks, rest, -, -, -, -, -, -, hwords⟩ := exists_word hne hdark
  rw [hwords]
  exact List.cons_ne_nil word _

/-- The reader stops at a word that is no flag. -/
theorem dropFlags_of_not_isFlag {word : List Char} (h : isFlag word = false) (more : List (List Char))
    (cs : List Char) : dropFlags (word :: more) cs = cs := by
  cases more with
  | nil => rfl
  | cons next more => rw [dropFlags, if_neg (by simp [h])]

/-- Every text that begins with a word is flags as they are written, and the instruction that is left when
the reader has dropped them. -/
theorem exists_flagText {cs : List Char} (hne : cs ≠ []) (hdark : StartsDark cs) : ∃ flags,
    (∀ f ∈ flags, IsFlag f.1 ∧ IsGap f.2) ∧ cs = flagText flags ++ dropFlags (words cs) cs ∧
      leadingFlags (words cs) = flags.map Prod.fst ∧ dropFlags (words cs) cs ≠ [] ∧
      StartsDark (dropFlags (words cs) cs) := by
  induction hws : words cs generalizing cs with
  | nil => exact absurd hws (words_ne_nil hne hdark)
  | cons word ws ih =>
      obtain ⟨word', blanks, rest, rfl, -, -, hblanks, hgap, hrest, hwords⟩ := exists_word hne hdark
      rw [hwords] at hws
      obtain ⟨rfl, rfl⟩ := List.cons.inj hws
      by_cases hflag : isFlag word' = true
      · cases hnext : words rest with
        | nil =>
            -- The last word is the instruction, even if it could be a flag.
            exact ⟨[], by simp, rfl, rfl, hne, hdark⟩
        | cons next more =>
            have hrestNe : rest ≠ [] := by
              rintro rfl
              cases hnext
            obtain ⟨flags, hflags, hsplit, hleading, hleft, hleftDark⟩ := ih hrestNe hrest rfl
            have hdrop : dropFlags (word' :: next :: more) (word' ++ (blanks ++ rest)) =
                dropFlags (next :: more) rest := by
              rw [dropFlags, if_pos hflag, List.drop_left, dropWhile_run hblanks hrest]
            rw [hnext] at hsplit hleading hleft hleftDark
            rw [hdrop]
            refine ⟨(word', blanks) :: flags, ?_, ?_, ?_, hleft, hleftDark⟩
            · rw [List.forall_mem_cons]
              exact ⟨⟨isFlag_iff.mp hflag, hgap hrestNe, hblanks⟩, hflags⟩
            · rw [flagText_cons, List.append_assoc, List.append_assoc, ← hsplit]
            · rw [List.map_cons, ← hleading]
              simp [leadingFlags, hflag]
      · rw [Bool.not_eq_true] at hflag
        rw [dropFlags_of_not_isFlag hflag]
        refine ⟨[], by simp, rfl, ?_, hne, hdark⟩
        cases words rest <;> simp [leadingFlags, hflag]

/-- The search of flags as they are written goes from each to the next, and leaves the blanks in front of the
instruction. -/
theorem behindAll?_flagText {flags : List (List Char × List Char)}
    (hflags : ∀ f ∈ flags, IsFlag f.1 ∧ IsGap f.2) {blanks : List Char}
    (hblanks : ∀ c ∈ blanks, isBlank c = true) (instruction : List Char) : ∃ gap,
      (∀ c ∈ gap, isBlank c = true) ∧
      behindAll? (flags.map Prod.fst) (blanks ++ (flagText flags ++ instruction)) =
        some (gap ++ instruction) := by
  induction flags generalizing blanks with
  | nil => exact ⟨blanks, hblanks, rfl⟩
  | cons f flags ih =>
      obtain ⟨flag, next⟩ := f
      rw [List.forall_mem_cons] at hflags
      obtain ⟨⟨hflag, hnext⟩, hflags⟩ := hflags
      obtain ⟨gap, hgap, hrest⟩ := ih hflags hnext.2
      refine ⟨gap, hgap, ?_⟩
      have hfound := behindFirst?_blanks hflag.ne_nil (startsDark_of_forall hflag.isBlank_eq_false) hblanks
        (next ++ (flagText flags ++ instruction))
      rw [← hrest, flagText_cons, List.append_assoc, List.append_assoc, List.map_cons]
      unfold behindAll?
      rw [List.foldlM_cons, hfound]
      rfl

/-! ## The instruction -/

section Instruction

variable {body : List Char} (hne : body ≠ []) (htrim : trim body = body)

include hne htrim

/-- The instruction is the end of the text. -/
theorem dropFlags_isSuffix : dropFlags (words body) body <:+ body := by
  obtain ⟨flags, -, hsplit, -⟩ := exists_flagText hne (startsDark_of_trim_eq htrim)
  exact ⟨flagText flags, hsplit.symm⟩

/-- There is an instruction. -/
theorem dropFlags_ne_nil : dropFlags (words body) body ≠ [] := by
  obtain ⟨flags, -, -, -, hleft, -⟩ := exists_flagText hne (startsDark_of_trim_eq htrim)
  exact hleft

/-- No blanks stand around the instruction. -/
theorem trim_dropFlags : trim (dropFlags (words body) body) = dropFlags (words body) body := by
  obtain ⟨flags, -, hsplit, -, -, hdark⟩ := exists_flagText hne (startsDark_of_trim_eq htrim)
  have hend : trimEnd (flagText flags ++ dropFlags (words body) body) =
      flagText flags ++ dropFlags (words body) body := by
    rw [← hsplit]
    exact trimEnd_of_trim_eq htrim
  exact (trim_blanks_append (List.forall_mem_nil _) hdark).trans (trimEnd_of_append hend)

/-- **The search of the flags never fails**, and what it leaves is the instruction with the blanks in front of
it. -/
theorem behindAll?_leadingFlags : ∃ left, behindAll? (leadingFlags (words body)) body = some left ∧
    trim left = dropFlags (words body) body := by
  obtain ⟨flags, hflags, hsplit, hleading, -, hdark⟩ := exists_flagText hne (startsDark_of_trim_eq htrim)
  obtain ⟨gap, hgap, hfound⟩ := behindAll?_flagText hflags (List.forall_mem_nil _) (dropFlags (words body) body)
  rw [List.nil_append, ← hsplit, ← hleading] at hfound
  refine ⟨_, hfound, ?_⟩
  rw [trim_blanks_append hgap hdark]
  exact trimEnd_of_trim_eq (trim_dropFlags hne htrim)

end Instruction

end SnippetCost
