import SnippetCost.Proofs.Report.Row
import SnippetCost.Report.Section

/-!
# Where the instruction table stands

Three kinds of lines bound the table, and each is said here without the reader: the announcement of the
section (`Announced`), the heads of the columns (`IsColumnHeader`), and the announcement of the next
section (`IsSectionHeader`).  The reader's tests are these grammars:

* **Heads of the columns** (`isColumnHeader_iff`) and **next section** (`isSectionHeader_iff`), line by line;
* **Announcement** (`isSome_sectionText?_iff`): the search finds something exactly if there is something to
  find, though blanks behind the announcement may be matched over any number of lines.

What it finds is told by two more statements: it passes over a text without an announcement
(`sectionText?_append`), and behind the first one it goes on with the first line that is not blank
(`behindAnnouncement?_below`).
-/

namespace SnippetCost

open SnippetCost.Text

/-! ## The grammar of the lines around the table -/

/-- The line with the heads of the columns: the first three by number, and that of the instructions at the
end. -/
def IsColumnHeader (line : List Char) : Prop :=
  ∃ gap₁ gap₂ middle trail, IsGap gap₁ ∧ IsGap gap₂ ∧ (∀ c ∈ trail, isBlank c = true) ∧
    line = "[1]".toList ++ (gap₁ ++ ("[2]".toList ++ (gap₂ ++ ("[3]".toList ++
      (middle ++ (lastColumnHead ++ trail))))))

/-- A line that announces a section: a letter first, and one colon, behind which nothing stands. -/
def IsSectionHeader (line : List Char) : Prop :=
  ∃ c name trail, c.isAlpha = true ∧ ':' ∉ name ∧ (∀ c ∈ trail, isBlank c = true) ∧
    line = c :: (name ++ ':' :: trail)

/-- A line begins behind the text. -/
def EndsLine (text : List Char) : Prop :=
  text = [] ∨ ∃ start, text = start ++ ['\n']

/-- The text begins with the announcement of the section with the table, and nothing but blanks stands behind
that up to the end of a line or of the text. -/
def BeginsAnnounced (text : List Char) : Prop :=
  ∃ blanks after, text = sectionLabel ++ (blanks ++ after) ∧ (∀ c ∈ blanks, isBlank c = true) ∧
    (after = [] ∨ ∃ rest, after = '\n' :: rest)

/-- Somewhere in the text, at the start of a line, the section with the table is announced. -/
def Announced (text : List Char) : Prop :=
  ∃ before rest, text = before ++ rest ∧ EndsLine before ∧ BeginsAnnounced rest

/-! ## The reader's tests -/

/-- The rest of a text behind its start. -/
theorem afterText?_eq_some_iff {start cs rest : List Char} :
    afterText? start cs = some rest ↔ cs = start ++ rest := by
  induction start generalizing cs with
  | nil => simp [afterText?]
  | cons a start ih =>
      cases cs with
      | nil => simp [afterText?]
      | cons c cs =>
          by_cases h : a = c
          · simp [afterText?, h, ih]
          · simp [afterText?, h, Ne.symm h]

/-- The rest of a text behind a gap, which has to be there. -/
theorem behindBlanks?_eq_some_iff {cs rest : List Char} :
    isColumnHeader.behindBlanks? cs = some rest ↔
      ∃ gap, IsGap gap ∧ StartsDark rest ∧ cs = gap ++ rest := by
  unfold isColumnHeader.behindBlanks?
  constructor
  · intro h
    split at h
    · cases h
    · rename_i hne
      obtain rfl := Option.some.inj h
      refine ⟨cs.takeWhile isBlank, ⟨by simpa using hne, ?_⟩, ?_, ?_⟩
      · exact fun c hc => List.mem_takeWhile_imp hc
      · exact head?_dropWhile_eq_false isBlank cs
      · rw [List.takeWhile_append_dropWhile]
  · rintro ⟨gap, hgap, hrest, rfl⟩
    rw [takeWhile_run hgap.2 hrest, dropWhile_run hgap.2 hrest]
    simp [hgap.1]

/-- A text ends in a label, blanks apart. -/
theorem isSuffixOf_trimEnd_iff {label cs : List Char} (hlabel : label ≠ [])
    (htrim : trimEnd label = label) :
    label.isSuffixOf (trimEnd cs) = true ↔
      ∃ front trail, (∀ c ∈ trail, isBlank c = true) ∧ cs = front ++ (label ++ trail) := by
  rw [List.isSuffixOf_iff_suffix]
  constructor
  · rintro ⟨front, hfront⟩
    obtain ⟨trail, hcs, htrail⟩ := exists_trimEnd_append cs
    exact ⟨front, trail, htrail, by rw [← List.append_assoc, hfront, ← hcs]⟩
  · rintro ⟨front, trail, htrail, rfl⟩
    refine ⟨front, ?_⟩
    rw [← List.append_assoc, trimEnd_append_blanks _ htrail, trimEnd_append hlabel htrim]

/-- A label in brackets does not start with a blank. -/
theorem startsDark_of_bracket (label rest : List Char) : StartsDark ('[' :: label ++ rest) := by
  intro c hc
  obtain rfl : '[' = c := by simpa using hc
  decide

/-- The reader's test for the heads of the columns is the grammar's. -/
theorem isColumnHeader_iff {line : List Char} :
    isColumnHeader line = true ↔ IsColumnHeader line := by
  have hlabel : ∀ cs, lastColumnHead.isSuffixOf (trimEnd cs) = true ↔ ∃ front trail,
      (∀ c ∈ trail, isBlank c = true) ∧ cs = front ++ (lastColumnHead ++ trail) := fun cs =>
    isSuffixOf_trimEnd_iff (List.ne_nil_of_length_pos (by decide)) rfl
  have some_of_getD : ∀ o : Option Bool, o.getD false = true ↔ o = some true := by
    intro o
    cases o <;> simp
  unfold isColumnHeader IsColumnHeader
  rw [some_of_getD]
  simp only [Option.bind_eq_bind, Option.bind_eq_some_iff, Option.pure_def, Option.some.injEq,
    afterText?_eq_some_iff, behindBlanks?_eq_some_iff, hlabel]
  constructor
  · rintro ⟨_, rfl, _, ⟨gap₁, hgap₁, -, rfl⟩, _, rfl, _, ⟨gap₂, hgap₂, -, rfl⟩, _, rfl, middle, trail,
      htrail, rfl⟩
    exact ⟨gap₁, gap₂, middle, trail, hgap₁, hgap₂, htrail, rfl⟩
  · rintro ⟨gap₁, gap₂, middle, trail, hgap₁, hgap₂, htrail, rfl⟩
    exact ⟨_, rfl, _, ⟨gap₁, hgap₁, startsDark_of_bracket _ _, rfl⟩, _, rfl, _,
      ⟨gap₂, hgap₂, startsDark_of_bracket _ _, rfl⟩, _, rfl, middle, trail, htrail, rfl⟩

instance (line : List Char) : Decidable (IsColumnHeader line) :=
  decidable_of_iff _ isColumnHeader_iff

/-- The reader's test for the announcement of a section is the grammar's. -/
theorem isSectionHeader_iff {line : List Char} :
    isSectionHeader line = true ↔ IsSectionHeader line := by
  cases line with
  | nil => simp [isSectionHeader, IsSectionHeader]
  | cons c cs =>
      unfold isSectionHeader IsSectionHeader
      rw [Bool.and_eq_true]
      constructor
      · rintro ⟨hc, h⟩
        split at h
        · cases h
        · rename_i colon after hdrop
          have hcolon := head?_dropWhile_eq_false (· != ':') cs colon (by rw [hdrop]; rfl)
          obtain rfl : colon = ':' := by simpa using hcolon
          refine ⟨c, cs.takeWhile (· != ':'), after, hc, ?_, List.all_eq_true.mp h, ?_⟩
          · intro hmem
            simpa using List.mem_takeWhile_imp hmem
          · rw [← hdrop, List.takeWhile_append_dropWhile]
      · rintro ⟨d, name, trail, hd, hname, htrail, heq⟩
        obtain ⟨rfl, rfl⟩ := List.cons.inj heq
        refine ⟨hd, ?_⟩
        rw [dropWhile_run (forall_bne_of_not_mem hname) (by simp)]
        exact List.all_eq_true.mpr htrail

instance (line : List Char) : Decidable (IsSectionHeader line) :=
  decidable_of_iff _ isSectionHeader_iff

/-- A row announces no section. -/
theorem isSectionHeader_of_isRow {line : List Char} (h : IsRow line) :
    isSectionHeader line = false := by
  cases h with
  | @columns lead uops _ _ _ _ _ _ _ hlead huops =>
      by_contra hheader
      rw [Bool.not_eq_false, isSectionHeader_iff] at hheader
      obtain ⟨c, name, trail, hc, -, -, heq⟩ := hheader
      -- The line begins with a letter, as a header, and with a blank or a digit, as a row.
      cases lead with
      | nil =>
          obtain ⟨d, digits, rfl⟩ := List.exists_cons_of_ne_nil huops.1
          obtain rfl : d = c := (List.cons.inj heq).1
          have hdigit := huops.2 d List.mem_cons_self
          rw [isDigit_of_isAlpha hc] at hdigit
          cases hdigit
      | cons b lead =>
          obtain rfl : b = c := (List.cons.inj heq).1
          have hblank := hlead b List.mem_cons_self
          rw [isBlank_of_isAlpha hc] at hblank
          cases hblank

/-! ## Announcements -/

/-- The announcement has a text. -/
theorem sectionLabel_ne_nil : sectionLabel ≠ [] :=
  List.ne_nil_of_length_pos (by decide)

/-- A text ends its line if its last character does. -/
theorem endsLine_concat {cs : List Char} {c : Char} : EndsLine (cs ++ [c]) ↔ c = '\n' := by
  unfold EndsLine
  simp

/-- What is left of a text that ends a line ends it, too. -/
theorem EndsLine.right {passed left : List Char} (h : EndsLine (passed ++ left)) : EndsLine left := by
  rcases List.eq_nil_or_concat left with rfl | ⟨start, c, rfl⟩
  · exact .inl rfl
  · rw [List.concat_eq_append, ← List.append_assoc, endsLine_concat] at h
    rw [List.concat_eq_append, endsLine_concat]
    exact h

/-- There is a last line feed if there is one at all. -/
theorem isSome_fromLastLineFeed?_iff {cs : List Char} :
    (fromLastLineFeed? cs).isSome = true ↔ '\n' ∈ cs := by
  unfold fromLastLineFeed?
  split <;> simp_all

/-- The reader sees an announcement where there is one. -/
theorem isSome_behindAnnouncement?_iff {cs : List Char} :
    (behindAnnouncement? cs).isSome = true ↔ BeginsAnnounced cs := by
  constructor
  · intro h
    obtain ⟨result, hresult⟩ := Option.isSome_iff_exists.mp h
    unfold behindAnnouncement? at hresult
    rw [Option.bind_eq_bind, Option.bind_eq_some_iff] at hresult
    obtain ⟨behind, hlabel, hresult⟩ := hresult
    rw [afterText?_eq_some_iff] at hlabel
    have hbehind := List.takeWhile_append_dropWhile (p := isBlank) (l := behind)
    have hblank : ∀ c ∈ behind.takeWhile isBlank, isBlank c = true := fun c hc =>
      List.mem_takeWhile_imp hc
    by_cases hnil : behind.dropWhile isBlank = []
    · rw [hnil, List.append_nil] at hbehind
      rw [hbehind] at hblank
      exact ⟨behind, [], by rw [List.append_nil, hlabel], hblank, .inl rfl⟩
    · rw [if_neg (by rwa [List.isEmpty_iff]), Option.bind_eq_some_iff] at hresult
      obtain ⟨tail, htail, -⟩ := hresult
      have hfeed : '\n' ∈ behind.takeWhile isBlank := by
        rw [← isSome_fromLastLineFeed?_iff, htail]
        rfl
      obtain ⟨blanks, more, hblanks⟩ := List.append_of_mem hfeed
      refine ⟨blanks, '\n' :: (more ++ behind.dropWhile isBlank), ?_, ?_, .inr ⟨_, rfl⟩⟩
      · rw [hlabel, ← List.cons_append, ← List.append_assoc blanks, ← hblanks, hbehind]
      · intro c hc
        refine hblank c ?_
        rw [hblanks]
        exact List.mem_append_left _ hc
  · rintro ⟨blanks, after, rfl, hblanks, hafter⟩
    unfold behindAnnouncement?
    rw [afterText?_eq_some_iff.mpr rfl]
    simp only [Option.bind_eq_bind, Option.bind_some, Option.pure_def]
    split
    · rfl
    · rename_i hdrop
      rcases hafter with rfl | ⟨rest, rfl⟩
      · refine absurd ?_ hdrop
        rw [List.isEmpty_iff, List.append_nil, List.dropWhile_eq_nil_iff]
        exact hblanks
      · have hfeed : '\n' ∈ (blanks ++ '\n' :: rest).takeWhile isBlank := by
          rw [List.takeWhile_append_of_pos hblanks]
          exact List.mem_append_right blanks List.mem_cons_self
        obtain ⟨tail, htail⟩ :=
          Option.isSome_iff_exists.mp (isSome_fromLastLineFeed?_iff.mpr hfeed)
        rw [htail]
        rfl

/-- An announcement at the start of a text of whole lines is one whatever follows the text. -/
theorem BeginsAnnounced.left {text rest : List Char} (hne : text ≠ []) (hend : EndsLine text)
    (h : BeginsAnnounced (text ++ rest)) : BeginsAnnounced text := by
  obtain ⟨start, rfl⟩ := hend.resolve_left hne
  obtain ⟨blanks, after, heq, hblanks, hafter⟩ := h
  rcases List.append_eq_append_iff.mp heq with ⟨more, hmore, -⟩ | ⟨behind, htext, hbehind⟩
  · -- The label holds no line feed, so it cannot go on behind the text.
    have hmem : '\n' ∈ sectionLabel := by simp [hmore]
    exact absurd hmem (by decide)
  · rcases List.append_eq_append_iff.mp hbehind with ⟨front, rfl, rfl⟩ | ⟨front, rfl, -⟩
    · refine ⟨blanks, front, htext, hblanks, ?_⟩
      cases front with
      | nil => exact .inl rfl
      | cons c front =>
          rcases hafter with hafter | ⟨more, hafter⟩
          · cases hafter
          · obtain rfl : c = '\n' := (List.cons.inj hafter).1
            exact .inr ⟨front, rfl⟩
    · refine ⟨behind, [], by rw [htext, List.append_nil], ?_, .inl rfl⟩
      intro c hc
      exact hblanks c (List.mem_append_left front hc)

/-! ## Finding the announcement -/

/-- It is the one with none behind it. -/
theorem fromLastLineFeed?_append (front : List Char) {back : List Char} (h : '\n' ∉ back) :
    fromLastLineFeed? (front ++ '\n' :: back) = some ('\n' :: back) := by
  have hback : ∀ c ∈ back.reverse, (c != '\n') = true :=
    forall_bne_of_not_mem fun hmem => h (List.mem_reverse.mp hmem)
  unfold fromLastLineFeed?
  rw [if_pos (by simp), List.reverse_append, List.reverse_cons, List.append_assoc,
    takeWhile_run hback (by simp), List.reverse_reverse]

/-- Behind the announcement the blank lines are passed over, up to the first line with something on it. -/
theorem behindAnnouncement?_below {tail : List Char} (htail : ∀ c ∈ tail, isBlank c = true)
    {skipped : List (List Char)} (hskipped : ∀ m ∈ skipped, ∀ c ∈ m, isBlank c = true)
    {l : List Char} (hl : OneLine l) (hdark : ∃ c ∈ l, isBlank c = false) (rest : List Char) :
    behindAnnouncement? (sectionLabel ++ (tail ++ (below skipped ++ '\n' :: (l ++ rest)))) =
      some ('\n' :: (l ++ rest)) := by
  have hsplit : tail ++ (below skipped ++ '\n' :: (l ++ rest)) =
      (tail ++ below skipped ++ '\n' :: l.takeWhile isBlank) ++ (l.dropWhile isBlank ++ rest) := by
    simp only [List.append_assoc, List.cons_append]
    rw [← List.append_assoc (l.takeWhile isBlank), List.takeWhile_append_dropWhile]
  have hrun : ∀ c ∈ tail ++ below skipped ++ '\n' :: l.takeWhile isBlank, isBlank c = true := by
    intro c hc
    rcases List.mem_append.mp hc with hc | hc
    · rcases List.mem_append.mp hc with hc | hc
      · exact htail c hc
      · obtain ⟨m, hm, hc⟩ := List.mem_flatMap.mp hc
        rcases List.mem_cons.mp hc with rfl | hc
        · decide
        · exact hskipped m hm c hc
    · rcases List.mem_cons.mp hc with rfl | hc
      · decide
      · exact List.mem_takeWhile_imp hc
  have hne : l.dropWhile isBlank ≠ [] := by
    obtain ⟨c, hc, hcdark⟩ := hdark
    intro hnil
    have := List.dropWhile_eq_nil_iff.mp hnil c hc
    rw [hcdark] at this
    cases this
  have hstop : StartsDark (l.dropWhile isBlank ++ rest) :=
    StartsDark.append hne (head?_dropWhile_eq_false isBlank l) rest
  have hfeed : '\n' ∉ l.takeWhile isBlank := by
    have hfront : l.takeWhile isBlank <+: l := List.takeWhile_prefix isBlank
    intro hmem
    exact hl.lineFeed_not_mem (hfront.subset hmem)
  -- The blanks run up to the first character of the line that is none, so their last line feed is the one
  -- in front of this line.
  unfold behindAnnouncement?
  rw [hsplit, afterText?_eq_some_iff.mpr rfl]
  simp only [Option.bind_eq_bind, Option.bind_some]
  rw [takeWhile_run hrun hstop, dropWhile_run hrun hstop, fromLastLineFeed?_append _ hfeed,
    if_neg (by rw [List.isEmpty_iff]; exact List.append_ne_nil_of_left_ne_nil hne rest)]
  simp only [Option.bind_some, Option.pure_def, List.cons_append]
  rw [← List.append_assoc, List.takeWhile_append_dropWhile]

/-- At a place where nothing is announced the search goes on. -/
theorem here_eq_none {atStart : Bool} {text : List Char}
    (h : ¬(atStart = true ∧ BeginsAnnounced text)) :
    (if atStart then behindAnnouncement? text else none) = none := by
  by_cases hatStart : atStart = true
  · rw [if_pos hatStart]
    by_contra hsome
    rw [← ne_eq, Option.ne_none_iff_isSome, isSome_behindAnnouncement?_iff] at hsome
    exact h ⟨hatStart, hsome⟩
  · rw [if_neg hatStart]

/-- The empty text announces nothing. -/
theorem not_beginsAnnounced_nil : ¬BeginsAnnounced [] := by
  rintro ⟨blanks, after, heq, -⟩
  exact sectionLabel_ne_nil (List.append_eq_nil_iff.mp heq.symm).1

/-- The search finds something exactly if there is something to find. -/
theorem isSome_sectionText?_iff {text : List Char} :
    (sectionText? true text).isSome = true ↔ Announced text := by
  -- The induction is on what is left of the text; `atStart` says whether a line begins there.
  have search : ∀ (left passed : List Char) (atStart : Bool), (atStart = true ↔ EndsLine passed) →
      ((sectionText? atStart left).isSome = true ↔
        ∃ middle rest, left = middle ++ rest ∧ EndsLine (passed ++ middle) ∧ BeginsAnnounced rest) := by
    intro left
    induction left with
    | nil =>
        intro passed atStart hstart
        simp only [sectionText?, Option.isSome_none, Bool.false_eq_true, false_iff]
        rintro ⟨middle, rest, hsplit, -, hbegins⟩
        rw [(List.append_eq_nil_iff.mp hsplit.symm).2] at hbegins
        exact not_beginsAnnounced_nil hbegins
    | cons c left ih =>
        intro passed atStart hstart
        have hnext : (c == '\n') = true ↔ EndsLine (passed ++ [c]) := by
          rw [endsLine_concat, beq_iff_eq]
        by_cases hhere : atStart = true ∧ BeginsAnnounced (c :: left)
        · obtain ⟨hatStart, hbegins⟩ := hhere
          refine iff_of_true ?_ ⟨[], c :: left, rfl, ?_, hbegins⟩
          · obtain ⟨result, hresult⟩ :=
              Option.isSome_iff_exists.mp (isSome_behindAnnouncement?_iff.mpr hbegins)
            rw [sectionText?, if_pos hatStart, hresult]
            rfl
          · rw [List.append_nil]
            exact hstart.mp hatStart
        · rw [sectionText?, here_eq_none hhere, ih (passed ++ [c]) (c == '\n') hnext]
          constructor
          · rintro ⟨middle, rest, rfl, hline, hbegins⟩
            exact ⟨c :: middle, rest, rfl, by simpa using hline, hbegins⟩
          · rintro ⟨middle, rest, hsplit, hline, hbegins⟩
            cases middle with
            | nil =>
                obtain rfl : c :: left = rest := hsplit
                rw [List.append_nil] at hline
                exact absurd ⟨hstart.mpr hline, hbegins⟩ hhere
            | cons d middle =>
                obtain ⟨rfl, rfl⟩ := List.cons.inj hsplit
                exact ⟨middle, rest, rfl, by simpa using hline, hbegins⟩
  have h := search text [] true (by simp [EndsLine])
  rw [h]
  rfl

instance (text : List Char) : Decidable (Announced text) :=
  decidable_of_iff _ isSome_sectionText?_iff

/-- The search goes through a text in which no announcement stands, and on behind it. -/
theorem sectionText?_append {before : List Char} (hquiet : ¬Announced before)
    (hend : EndsLine before) (rest : List Char) :
    sectionText? true (before ++ rest) = sectionText? true rest := by
  -- The induction is on what is left of the text; `atStart` says whether a line begins there.
  have search : ∀ (left passed : List Char) (atStart : Bool), before = passed ++ left →
      (atStart = true ↔ EndsLine passed) →
      sectionText? atStart (left ++ rest) = sectionText? true rest := by
    intro left
    induction left with
    | nil =>
        intro passed atStart hpassed hstart
        rw [List.append_nil] at hpassed
        rw [hstart.mpr (hpassed ▸ hend), List.nil_append]
    | cons c left ih =>
        intro passed atStart hpassed hstart
        have hleft : EndsLine (c :: left) := EndsLine.right (hpassed ▸ hend)
        have hhere : ¬(atStart = true ∧ BeginsAnnounced (c :: (left ++ rest))) := by
          rintro ⟨hatStart, hbegins⟩
          rw [← List.cons_append] at hbegins
          exact hquiet ⟨passed, c :: left, hpassed, hstart.mp hatStart,
            hbegins.left (List.cons_ne_nil c left) hleft⟩
        rw [List.cons_append, sectionText?, here_eq_none hhere]
        refine ih (passed ++ [c]) (c == '\n') (by simpa using hpassed) ?_
        rw [endsLine_concat, beq_iff_eq]
  exact search before [] true rfl (by simp [EndsLine])

/-- The search begins at an announcement. -/
theorem sectionText?_of_begins {text : List Char} (h : BeginsAnnounced text) :
    sectionText? true text = behindAnnouncement? text := by
  obtain ⟨behind, hbehind⟩ := Option.isSome_iff_exists.mp (isSome_behindAnnouncement?_iff.mpr h)
  cases text with
  | nil => exact absurd h not_beginsAnnounced_nil
  | cons c text => rw [sectionText?, if_pos rfl, hbehind]

end SnippetCost
