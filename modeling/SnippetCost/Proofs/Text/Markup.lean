import Mathlib.Data.List.DropRight
import SnippetCost.Text.Markup

/-!
# What a console obeys

A console obeys a tag unless an odd number of backslashes stands in front of it (`Obeys`).

* **`not_obeys_escapeMarkup`**: in an escaped text there is no tag that it obeys, and neither is there behind a text
  without brackets and backslashes (`not_obeys_append_escapeMarkup`);
* **`escapeMarkup_eq_self_iff`**: a text is the same escaped exactly if there is no tag in it, whatever is in front of
  the tag, and it does not end in a lone backslash.

Which tags there are is looked at here without the scan that escapes them.
-/

namespace SnippetCost.Text

/-- There is a tag in the text. -/
def HasTag (cs : List Char) : Prop :=
  ∃ front rest, cs = front ++ '[' :: rest ∧ completesTag rest = true

/-- There is a tag in the text that a console obeys: the backslashes in front of it are even in number. -/
def Obeys (cs : List Char) : Prop :=
  ∃ front rest, cs = front ++ '[' :: rest ∧ completesTag rest = true ∧
    (front.rtakeWhile (· == '\\')).length % 2 = 0

/-- Nothing in the text has to be escaped. -/
def Inert (cs : List Char) : Prop :=
  ¬HasTag cs ∧ endsInLoneBackslash cs = false

/-! ## Tags -/

section Tags

variable {c : Char} {cs ds front rest run : List Char}

/-- A text that gives an order has a tag. -/
theorem Obeys.hasTag (h : Obeys cs) : HasTag cs := by
  obtain ⟨front, rest, hcs, htag, -⟩ := h
  exact ⟨front, rest, hcs, htag⟩

/-- A tag has a bracket. -/
theorem HasTag.bracket_mem (h : HasTag cs) : '[' ∈ cs := by
  obtain ⟨front, rest, rfl, -⟩ := h
  exact List.mem_append_right _ List.mem_cons_self

/-- No tag starts with a bracket or a backslash. -/
theorem isTagStart_ne (h : isTagStart c = true) : c ≠ '[' ∧ c ≠ ']' ∧ c ≠ '\\' := by
  refine ⟨?_, ?_, ?_⟩ <;> rintro rfl <;> exact absurd h (by decide)

/-- Neither of the brackets. -/
def isOrdinary (c : Char) : Bool :=
  c != ']' && c != '['

/-- A tag starts with a character of its own, and ends with the next bracket. -/
theorem completesTag_cons (c : Char) (cs : List Char) :
    completesTag (c :: cs) = (isTagStart c && (cs.dropWhile isOrdinary).head? == some ']') := rfl

/-- **What completes a tag**, without the search for the closing bracket. -/
theorem completesTag_iff : completesTag cs = true ↔
    ∃ c run rest, cs = c :: (run ++ ']' :: rest) ∧ isTagStart c = true ∧ ∀ d ∈ run, isOrdinary d = true := by
  cases cs with
  | nil => exact iff_of_false nofun (by rintro ⟨c, run, rest, h, -⟩; cases h)
  | cons c cs =>
      rw [completesTag_cons, Bool.and_eq_true, beq_iff_eq]
      constructor
      · rintro ⟨hstart, hclose⟩
        obtain ⟨rest, hrest⟩ := List.head?_eq_some_iff.mp hclose
        refine ⟨c, cs.takeWhile isOrdinary, rest, ?_, hstart, fun d hd => List.mem_takeWhile_imp hd⟩
        rw [← hrest, List.takeWhile_append_dropWhile]
      · rintro ⟨c, run, rest, heq, hstart, hrun⟩
        cases heq
        refine ⟨hstart, ?_⟩
        rw [List.dropWhile_append_of_pos hrun]
        rfl

/-- A backslash behind a text completes no tag. -/
theorem completesTag_of_append_backslash (h : completesTag (cs ++ ['\\']) = true) : completesTag cs = true := by
  cases cs with
  | nil => cases h
  | cons c cs =>
      rw [List.cons_append, completesTag_cons, List.dropWhile_append] at h
      rw [completesTag_cons]
      split at h
      · rw [Bool.and_eq_true] at h
        cases h.2
      · rename_i hne
        rwa [List.head?_append_of_ne_nil _ (by simpa using hne)] at h

/-! ### Where the tags are -/

/-- A run ends at the first character that does not belong to it, whatever stands behind that. -/
theorem takeWhile_append_cons (p : Char → Bool) (h : ¬p c = true) :
    (cs ++ c :: ds).takeWhile p = cs.takeWhile p := by
  induction cs with
  | nil => exact List.takeWhile_cons_of_neg h
  | cons d cs ih =>
      rw [List.cons_append, List.takeWhile_cons, List.takeWhile_cons, ih]

/-- Backslashes are counted back to the next other character. -/
theorem rtakeWhile_append_cons (h : c ≠ '\\') :
    (cs ++ c :: ds).rtakeWhile (· == '\\') = ds.rtakeWhile (· == '\\') := by
  have other : ¬(c == '\\') = true := by simpa using h
  unfold List.rtakeWhile
  rw [List.reverse_append, List.reverse_cons, List.append_assoc, List.singleton_append,
    takeWhile_append_cons (· == '\\') other]

/-- **Tags are obeyed or not one by one**, each by the backslashes right in front of it. -/
theorem obeys_append_cons (hfront : '[' ∉ front) (hc : c ≠ '\\') : Obeys (front ++ c :: cs) ↔
    (c = '[' ∧ completesTag cs = true ∧ (front.rtakeWhile (· == '\\')).length % 2 = 0) ∨ Obeys cs := by
  constructor
  · rintro ⟨before, rest, heq, htag, heven⟩
    rcases List.append_eq_append_iff.mp heq with ⟨between, rfl, hrest⟩ | ⟨between, rfl, hrest⟩
    · cases between with
      | nil =>
          cases hrest
          rw [List.append_nil] at heven
          exact .inl ⟨rfl, htag, heven⟩
      | cons d between =>
          cases hrest
          rw [rtakeWhile_append_cons hc] at heven
          exact .inr ⟨between, rest, rfl, htag, heven⟩
    · cases between with
      | nil =>
          cases hrest
          rw [List.append_nil] at hfront ⊢
          exact .inl ⟨rfl, htag, heven⟩
      | cons d between =>
          cases hrest
          exact absurd (List.mem_append_right _ List.mem_cons_self) hfront
  · rintro (⟨rfl, htag, heven⟩ | ⟨before, rest, rfl, htag, heven⟩)
    · exact ⟨front, cs, rfl, htag, heven⟩
    · refine ⟨front ++ c :: before, rest, by simp, htag, ?_⟩
      rwa [rtakeWhile_append_cons hc]

/-- What a text without brackets and backslashes is put in front of is obeyed as before. -/
theorem obeys_append_iff (hbracket : '[' ∉ front) (hbackslash : '\\' ∉ front) : Obeys (front ++ cs) ↔ Obeys cs := by
  rcases List.eq_nil_or_concat front with rfl | ⟨front, c, rfl⟩
  · rfl
  · rw [List.concat_eq_append, List.mem_append, List.mem_singleton, not_or] at hbracket hbackslash
    rw [List.concat_eq_append, List.append_assoc, List.singleton_append,
      obeys_append_cons hbracket.1 (Ne.symm hbackslash.2)]
    exact or_iff_right fun h => hbracket.2 h.1.symm

/-- A backslash at the end gives no order. -/
theorem not_obeys_append_backslash (h : ¬Obeys cs) : ¬Obeys (cs ++ ['\\']) := by
  rintro ⟨front, rest, heq, htag, heven⟩
  rcases List.eq_nil_or_concat rest with rfl | ⟨rest, c, rfl⟩
  · cases htag
  · rw [List.concat_eq_append] at heq htag
    have hsplit : cs ++ ['\\'] = (front ++ '[' :: rest) ++ [c] := by
      rw [heq, List.append_assoc, List.cons_append]
    obtain ⟨rfl, hc⟩ := List.append_inj' hsplit rfl
    cases hc
    exact h ⟨front, rest, rfl, completesTag_of_append_backslash htag, heven⟩

end Tags

/-! ## The scan -/

section Scan

variable {c : Char} {cs rest run : List Char}

/-- At the end the backslashes that were counted are written. -/
theorem escapeTags_nil (n : Nat) : escapeTags (.outside n) [] = List.replicate n '\\' := rfl

/-- Outside of tags a backslash is counted, and not yet written. -/
theorem escapeTags_backslash (n : Nat) (cs : List Char) :
    escapeTags (.outside n) ('\\' :: cs) = escapeTags (.outside (n + 1)) cs := by
  rw [escapeTags, if_pos rfl]

/-- In front of a tag the backslashes are doubled, and one more is added. -/
theorem escapeTags_tag (h : completesTag cs = true) (n : Nat) : escapeTags (.outside n) ('[' :: cs) =
    List.replicate (2 * n + 1) '\\' ++ '[' :: escapeTags .inside cs := by
  rw [escapeTags, if_neg (by decide), if_pos ⟨rfl, h⟩]

/-- In front of anything else they stay as they are. -/
theorem escapeTags_plain (hc : c ≠ '\\') (h : ¬(c = '[' ∧ completesTag cs = true)) (n : Nat) :
    escapeTags (.outside n) (c :: cs) = List.replicate n '\\' ++ c :: escapeTags (.outside 0) cs := by
  rw [escapeTags, if_neg hc, if_neg h]

/-- Inside a tag nothing changes. -/
theorem escapeTags_inside (h : ∀ d ∈ run, isOrdinary d = true) (rest : List Char) :
    escapeTags .inside (run ++ ']' :: rest) = run ++ ']' :: escapeTags (.outside 0) rest := by
  induction run with
  | nil => rfl
  | cons d run ih =>
      rw [List.forall_mem_cons] at h
      have hd : d ≠ ']' := by
        rintro rfl
        cases h.1
      rw [List.cons_append, escapeTags, if_neg hd, ih h.2]
      rfl

/-- Backslashes that were read are written first. -/
theorem head?_escapeTags_succ (n : Nat) (cs : List Char) :
    (escapeTags (.outside (n + 1)) cs).head? = some '\\' := by
  induction cs generalizing n with
  | nil => rfl
  | cons c cs ih =>
      by_cases hc : c = '\\'
      · rw [hc, escapeTags_backslash, ih]
      by_cases htag : c = '[' ∧ completesTag cs = true
      · rw [htag.1, escapeTags_tag htag.2]
        rfl
      · rw [escapeTags_plain hc htag]
        rfl

/-- Backslashes do not end a search for a bracket. -/
theorem dropWhile_backslashes (n : Nat) (cs : List Char) :
    (List.replicate n '\\' ++ cs).dropWhile isOrdinary = cs.dropWhile isOrdinary :=
  List.dropWhile_append_of_pos fun d hd => by rw [List.eq_of_mem_replicate hd]; rfl

/-- The next bracket is the same as before. -/
theorem head?_dropWhile_escapeTags (n : Nat) (cs : List Char) :
    ((escapeTags (.outside n) cs).dropWhile isOrdinary).head? = (cs.dropWhile isOrdinary).head? := by
  induction cs generalizing n with
  | nil =>
      have hdrop := dropWhile_backslashes n []
      rw [List.append_nil] at hdrop
      rw [escapeTags_nil, hdrop]
  | cons c cs ih =>
      by_cases hc : c = '\\'
      · subst hc
        rw [escapeTags_backslash, ih]
        rfl
      by_cases htag : c = '[' ∧ completesTag cs = true
      · rw [htag.1, escapeTags_tag htag.2, dropWhile_backslashes]
        rfl
      · rw [escapeTags_plain hc htag, dropWhile_backslashes]
        by_cases hordinary : isOrdinary c = true
        · rw [List.dropWhile_cons_of_pos hordinary, List.dropWhile_cons_of_pos hordinary, ih]
        · rw [List.dropWhile_cons_of_neg hordinary, List.dropWhile_cons_of_neg hordinary]
          rfl

/-- No tag is completed that was not before. -/
theorem completesTag_of_escapeTags (h : completesTag (escapeTags (.outside 0) cs) = true) : completesTag cs = true := by
  cases cs with
  | nil => cases h
  | cons c cs =>
      have startsTag : ∀ {ds : List Char}, completesTag ds = true → ∀ d ∈ ds.head?, isTagStart d = true := by
        intro ds hds
        obtain ⟨d, run, rest, rfl, hstart, -⟩ := completesTag_iff.mp hds
        rintro _ ⟨⟩
        exact hstart
      by_cases hc : c = '\\'
      · subst hc
        rw [escapeTags_backslash] at h
        exact absurd (startsTag h '\\' (head?_escapeTags_succ 0 cs)) (by decide)
      by_cases htag : c = '[' ∧ completesTag cs = true
      · rw [htag.1, escapeTags_tag htag.2] at h
        exact absurd (startsTag h '\\' rfl) (by decide)
      · rw [escapeTags_plain hc htag, List.replicate_zero, List.nil_append, completesTag_cons,
          head?_dropWhile_escapeTags] at h
        exact h

/-- Backslashes are no brackets. -/
theorem bracket_not_mem_backslashes (n : Nat) : '[' ∉ List.replicate n '\\' := by
  intro hmem
  cases List.eq_of_mem_replicate hmem

/-- A run of backslashes ends in all of itself. -/
theorem rtakeWhile_backslashes (n : Nat) :
    (List.replicate n '\\').rtakeWhile (· == '\\') = List.replicate n '\\' :=
  List.rtakeWhile_eq_self_iff.mpr fun d hd => by rw [List.eq_of_mem_replicate hd]; rfl

/-- **The scan leaves no tag that is obeyed**, whatever backslashes were read before. -/
theorem not_obeys_escapeTags (n : Nat) (cs : List Char) : ¬Obeys (escapeTags (.outside n) cs) := by
  -- A tag is skipped as a whole, so the induction is on the length of what is still to be read.
  induction hlength : cs.length using Nat.strong_induction_on generalizing n cs with
  | _ length ih =>
      subst hlength
      cases cs with
      | nil => exact fun h => bracket_not_mem_backslashes n h.hasTag.bracket_mem
      | cons c cs =>
          by_cases hc : c = '\\'
          · rw [hc, escapeTags_backslash]
            exact ih _ (Nat.lt_succ_self _) (n + 1) cs rfl
          by_cases htag : c = '[' ∧ completesTag cs = true
          · obtain ⟨rfl, htag⟩ := htag
            obtain ⟨start, run, rest, rfl, hstart, hrun⟩ := completesTag_iff.mp htag
            have hrest : rest.length < ('[' :: start :: (run ++ ']' :: rest)).length := by
              simp only [List.length_cons, List.length_append]
              omega
            have hinside : ∀ d ∈ start :: run, d ≠ '[' := by
              rw [List.forall_mem_cons]
              refine ⟨(isTagStart_ne hstart).1, fun d hd => ?_⟩
              rintro rfl
              cases hrun _ hd
            have hskip : escapeTags .inside (start :: (run ++ ']' :: rest)) =
                (start :: run) ++ ']' :: escapeTags (.outside 0) rest := by
              rw [escapeTags, if_neg (isTagStart_ne hstart).2.1, escapeTags_inside hrun]
              rfl
            rw [escapeTags_tag htag, obeys_append_cons (bracket_not_mem_backslashes _) (by decide),
              rtakeWhile_backslashes, List.length_replicate, hskip,
              obeys_append_cons (fun hmem => hinside _ hmem rfl) (by decide)]
            rintro (⟨-, -, heven⟩ | ⟨hbracket, -⟩ | hobeys)
            · omega
            · cases hbracket
            · exact ih _ hrest 0 rest rfl hobeys
          · rw [escapeTags_plain hc htag, obeys_append_cons (bracket_not_mem_backslashes _) hc]
            rintro (⟨hbracket, hcompletes, -⟩ | hobeys)
            · exact htag ⟨hbracket, completesTag_of_escapeTags hcompletes⟩
            · exact ih _ (Nat.lt_succ_self _) 0 cs rfl hobeys

end Scan

/-! ## Escaped texts -/

/-- A text is escaped tag by tag, and a lone backslash at its end is doubled. -/
theorem toList_escapeMarkup (s : String) : (escapeMarkup s).toList =
    if endsInLoneBackslash (escapeTags (.outside 0) s.toList) then escapeTags (.outside 0) s.toList ++ ['\\']
    else escapeTags (.outside 0) s.toList := by
  unfold escapeMarkup
  exact String.toList_ofList

/-- **In an escaped text no tag is obeyed.** -/
theorem not_obeys_escapeMarkup (s : String) : ¬Obeys (escapeMarkup s).toList := by
  rw [toList_escapeMarkup]
  split
  · exact not_obeys_append_backslash (not_obeys_escapeTags 0 s.toList)
  · exact not_obeys_escapeTags 0 s.toList

/-- Behind a text without brackets and backslashes there is none either. -/
theorem not_obeys_append_escapeMarkup {frame : String} (hbracket : '[' ∉ frame.toList)
    (hbackslash : '\\' ∉ frame.toList) (s : String) : ¬Obeys (frame ++ escapeMarkup s).toList := by
  rw [String.toList_append, obeys_append_iff hbracket hbackslash]
  exact not_obeys_escapeMarkup s

/-! ### Texts that escaping leaves as they are -/

/-- A text without tags is left as it is. -/
theorem escapeTags_of_not_hasTag {cs : List Char} (h : ¬HasTag cs) (n : Nat) :
    escapeTags (.outside n) cs = List.replicate n '\\' ++ cs := by
  induction cs generalizing n with
  | nil => rw [escapeTags_nil, List.append_nil]
  | cons c cs ih =>
      have hcs : ¬HasTag cs := by
        rintro ⟨front, rest, rfl, htag⟩
        exact h ⟨c :: front, rest, rfl, htag⟩
      have htag : ¬(c = '[' ∧ completesTag cs = true) := by
        rintro ⟨rfl, htag⟩
        exact h ⟨[], cs, rfl, htag⟩
      by_cases hc : c = '\\'
      · rw [hc, escapeTags_backslash, ih hcs, List.replicate_succ', List.append_assoc, List.singleton_append]
      · rw [escapeTags_plain hc htag, ih hcs]
        rfl

/-- The backslashes that were read and are still to be written. -/
def MarkupState.pending : MarkupState → Nat
  | .outside n => n
  | .inside => 0

/-- Nothing is lost. -/
theorem length_le_length_escapeTags (state : MarkupState) (cs : List Char) :
    state.pending + cs.length ≤ (escapeTags state cs).length := by
  induction cs generalizing state with
  | nil =>
      cases state with
      | outside n => simp [escapeTags_nil, MarkupState.pending]
      | inside => exact Nat.zero_le _
  | cons c cs ih =>
      cases state with
      | inside =>
          have hrest : cs.length ≤ (escapeTags (if c = ']' then .outside 0 else .inside) cs).length := by
            have := ih (if c = ']' then .outside 0 else .inside)
            omega
          rw [escapeTags, List.length_cons, List.length_cons]
          show 0 + (cs.length + 1) ≤ _
          omega
      | outside n =>
          show n + (cs.length + 1) ≤ _
          by_cases hc : c = '\\'
          · have : n + 1 + cs.length ≤ _ := ih (.outside (n + 1))
            rw [hc, escapeTags_backslash]
            omega
          by_cases htag : c = '[' ∧ completesTag cs = true
          · have : 0 + cs.length ≤ _ := ih .inside
            rw [htag.1, escapeTags_tag htag.2, List.length_append, List.length_replicate, List.length_cons]
            omega
          · have : 0 + cs.length ≤ _ := ih (.outside 0)
            rw [escapeTags_plain hc htag, List.length_append, List.length_replicate, List.length_cons]
            omega

/-- A tag makes the text longer. -/
theorem length_lt_length_escapeTags {cs : List Char} (h : HasTag cs) (n : Nat) :
    n + cs.length < (escapeTags (.outside n) cs).length := by
  induction cs generalizing n with
  | nil => cases h.bracket_mem
  | cons c cs ih =>
      rw [List.length_cons]
      by_cases htag : c = '[' ∧ completesTag cs = true
      · have : 0 + cs.length ≤ _ := length_le_length_escapeTags .inside cs
        rw [htag.1, escapeTags_tag htag.2, List.length_append, List.length_replicate, List.length_cons]
        omega
      have hcs : HasTag cs := by
        obtain ⟨front, rest, hsplit, hrest⟩ := h
        cases front with
        | nil =>
            cases hsplit
            exact absurd ⟨rfl, hrest⟩ htag
        | cons d front =>
            cases hsplit
            exact ⟨front, rest, rfl, hrest⟩
      by_cases hc : c = '\\'
      · have := ih hcs (n + 1)
        rw [hc, escapeTags_backslash]
        omega
      · have := ih hcs 0
        rw [escapeTags_plain hc htag, List.length_append, List.length_replicate, List.length_cons]
        omega

/-- **Which texts are the same escaped.** -/
theorem escapeMarkup_eq_self_iff (s : String) : escapeMarkup s = s ↔ Inert s.toList := by
  rw [← String.toList_inj, toList_escapeMarkup]
  constructor
  · intro h
    have hlength : (escapeTags (.outside 0) s.toList).length ≤ s.toList.length := by
      have := congrArg List.length h
      split at this
      · rw [List.length_append] at this
        omega
      · exact this.le
    have hplain : ¬HasTag s.toList := by
      intro htag
      have := length_lt_length_escapeTags htag 0
      omega
    refine ⟨hplain, ?_⟩
    rw [escapeTags_of_not_hasTag hplain, List.replicate_zero, List.nil_append] at h
    split at h
    · have := congrArg List.length h
      rw [List.length_append, List.length_singleton] at this
      omega
    · simpa using ‹¬endsInLoneBackslash s.toList = true›
  · rintro ⟨hplain, hend⟩
    rw [escapeTags_of_not_hasTag hplain, List.replicate_zero, List.nil_append, hend]
    rfl

end SnippetCost.Text
