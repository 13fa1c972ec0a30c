import SnippetCost.Proofs.Report.Section
import SnippetCost.Proofs.Text.Lines

/-!
# The lines around the table

`TablePlace` says where a table stands among the lines of a text: behind an announcement, below the heads of its
columns, and above the next line that announces a section.  The lines the reader takes for those of the table
stand in such a place (`exists_tablePlace`).

What stands between the announcement and the heads of the columns is another matter: the reader looks for the
heads over any number of lines, and passes over announcements of other sections.  So the section a line belongs to
(`InTableSection`) has to be told apart from the place of the table: the lines of the table belong to the section
that was open when the heads of the columns were reached (`TablePlace.inTableSection_above_iff`).
-/

namespace SnippetCost

open SnippetCost.Text

/-! ## The section a line belongs to -/

/-- The line announces the section with the table. -/
def IsAnnouncement (line : List Char) : Prop :=
  ∃ blanks, (∀ c ∈ blanks, isBlank c = true) ∧ line = sectionLabel ++ blanks

/-- What stands below the lines belongs to the section with the table: it is announced among them, and no
section is announced after that. -/
def InTableSection (above : List (List Char)) : Prop :=
  ∃ front announcement between, above = front ++ announcement :: between ∧ IsAnnouncement announcement ∧
    ∀ m ∈ between, ¬IsSectionHeader m

theorem IsAnnouncement.isSectionHeader {line : List Char} (h : IsAnnouncement line) : IsSectionHeader line := by
  obtain ⟨blanks, hblanks, rfl⟩ := h
  exact ⟨'I', "nstruction Info".toList, blanks, by decide, by decide, hblanks, rfl⟩

/-- The heads of the columns announce no section. -/
theorem IsColumnHeader.not_isSectionHeader {line : List Char} (h : IsColumnHeader line) :
    ¬IsSectionHeader line := by
  obtain ⟨gap₁, gap₂, middle, trail, -, -, -, rfl⟩ := h
  rintro ⟨c, name, trail', hc, -, -, heq⟩
  obtain rfl : '[' = c := (List.cons.inj heq).1
  cases hc

/-- Blanks alone are not the heads of the columns. -/
theorem IsColumnHeader.exists_dark {line : List Char} (h : IsColumnHeader line) :
    ∃ c ∈ line, isBlank c = false := by
  obtain ⟨gap₁, gap₂, middle, trail, -, -, -, rfl⟩ := h
  exact ⟨'[', List.mem_cons_self, by decide⟩

/-- Lines that announce nothing leave the section open that is open above them. -/
theorem inTableSection_append_iff {above more : List (List Char)} (h : ∀ m ∈ more, ¬IsSectionHeader m) :
    InTableSection (above ++ more) ↔ InTableSection above := by
  constructor
  · rintro ⟨front, announcement, between, heq, hannounces, hbetween⟩
    rcases List.append_eq_append_iff.mp heq with ⟨middle, rfl, hmore⟩ | ⟨middle, rfl, hmore⟩
    · -- An announcement would be one of the lines that announce nothing.
      refine absurd hannounces.isSectionHeader (h announcement ?_)
      rw [hmore]
      exact List.mem_append_right middle List.mem_cons_self
    · cases middle with
      | nil =>
          refine absurd hannounces.isSectionHeader (h announcement ?_)
          rw [List.nil_append] at hmore
          rw [← hmore]
          exact List.mem_cons_self
      | cons line middle =>
          obtain ⟨rfl, rfl⟩ := List.cons.inj hmore
          exact ⟨front, announcement, middle, rfl, hannounces, fun m hm =>
            hbetween m (List.mem_append_left more hm)⟩
  · rintro ⟨front, announcement, between, rfl, hannounces, hbetween⟩
    refine ⟨front, announcement, between ++ more, by simp, hannounces, ?_⟩
    rw [List.forall_mem_append]
    exact ⟨hbetween, h⟩

/-- A line that announces another section closes the section with the table. -/
theorem not_inTableSection_concat {above : List (List Char)} {line : List Char} (h : IsSectionHeader line)
    (hother : ¬IsAnnouncement line) : ¬InTableSection (above ++ [line]) := by
  rintro ⟨front, announcement, between, heq, hannounces, hbetween⟩
  rcases List.eq_nil_or_concat between with rfl | ⟨start, last, rfl⟩
  · have hlast := (List.append_inj' heq rfl).2
    rw [List.singleton_inj] at hlast
    exact hother (hlast ▸ hannounces)
  · rw [List.concat_eq_append, ← List.cons_append, ← List.append_assoc] at heq
    have hlast := (List.append_inj' heq rfl).2
    rw [List.singleton_inj] at hlast
    exact hbetween last (by simp) (hlast ▸ h)

/-! ## The place of a table -/

/-- Where a table stands among the lines of a text. -/
structure TablePlace (text : List Char) where
  front : List (List Char)
  announcement : List Char
  between : List (List Char)
  header : List Char
  table : List (List Char)
  below : List (List Char)
  lines_eq : lines text = front ++ announcement :: (between ++ header :: (table ++ below))
  announces : IsAnnouncement announcement
  heads : IsColumnHeader header
  /-- These are the first heads of columns behind the announcement. -/
  headless_between : ∀ m ∈ between, ¬IsColumnHeader m
  unannounced_table : ∀ m ∈ table, ¬IsSectionHeader m
  /-- The table goes on up to the next announcement. -/
  announced_below : ∀ m ∈ below.head?, IsSectionHeader m

namespace TablePlace

variable {text : List Char} (p : TablePlace text)

/-- The lines above the heads of the columns. -/
def opening : List (List Char) :=
  p.front ++ p.announcement :: p.between

/-- The lines above the table. -/
def above : List (List Char) :=
  p.opening ++ [p.header]

theorem lines_eq_above : lines text = p.above ++ (p.table ++ p.below) := by
  rw [p.lines_eq, above, opening]
  simp

/-- A line of the table belongs to the section that was open at the heads of the columns. -/
theorem inTableSection_above_iff {before after : List (List Char)} {row : List Char}
    (h : p.table = before ++ row :: after) :
    InTableSection (p.above ++ before) ↔ InTableSection p.opening := by
  have hbefore : ∀ m ∈ [p.header] ++ before, ¬IsSectionHeader m := by
    intro m hm
    rcases List.mem_cons.mp hm with rfl | hm
    · exact p.heads.not_isSectionHeader
    · refine p.unannounced_table m ?_
      rw [h]
      exact List.mem_append_left _ hm
  rw [above, List.append_assoc, inTableSection_append_iff hbefore]

end TablePlace

/-! ## The search for the announcement -/

/-- The text from its last line feed on. -/
theorem eq_append_of_fromLastLineFeed? {cs tail : List Char} (h : fromLastLineFeed? cs = some tail) :
    ∃ front back, cs = front ++ '\n' :: back ∧ tail = '\n' :: back := by
  unfold fromLastLineFeed? at h
  split at h
  · rename_i hfeed
    obtain rfl := Option.some.inj h
    have hsplit := List.takeWhile_append_dropWhile (p := (· != '\n')) (l := cs.reverse)
    obtain ⟨c, front, hfront⟩ : ∃ c front, cs.reverse.dropWhile (· != '\n') = c :: front := by
      refine List.exists_cons_of_ne_nil ?_
      rw [ne_eq, List.dropWhile_eq_nil_iff]
      intro hall
      have := hall '\n' (List.mem_reverse.mpr (List.contains_iff_mem.mp hfeed))
      cases this
    have hc := head?_dropWhile_eq_false (· != '\n') cs.reverse c (by rw [hfront]; rfl)
    obtain rfl : c = '\n' := by simpa using hc
    refine ⟨front.reverse, (cs.reverse.takeWhile (· != '\n')).reverse, ?_, rfl⟩
    rw [hfront] at hsplit
    have := congrArg List.reverse hsplit
    simpa using this.symm
  · cases h

/-- Behind an announcement nothing is left, or the text from a line feed on that blanks separate from it. -/
theorem eq_append_of_behindAnnouncement? {cs rest : List Char} (h : behindAnnouncement? cs = some rest) :
    rest = [] ∨ ∃ blanks back, (∀ c ∈ blanks, isBlank c = true) ∧
      cs = sectionLabel ++ (blanks ++ '\n' :: back) ∧ rest = '\n' :: back := by
  unfold behindAnnouncement? at h
  rw [Option.bind_eq_bind, Option.bind_eq_some_iff] at h
  obtain ⟨behind, hlabel, h⟩ := h
  rw [afterText?_eq_some_iff] at hlabel
  simp only [Option.pure_def] at h
  split at h
  · exact .inl (Option.some.inj h).symm
  · rw [Option.bind_eq_some_iff] at h
    obtain ⟨tail, htail, h⟩ := h
    obtain rfl := Option.some.inj h
    obtain ⟨front, back, hblanks, rfl⟩ := eq_append_of_fromLastLineFeed? htail
    refine .inr ⟨front, back ++ behind.dropWhile isBlank, ?_, ?_, rfl⟩
    · intro c hc
      have hmem : c ∈ behind.takeWhile isBlank := by
        rw [hblanks]
        exact List.mem_append_left _ hc
      exact List.mem_takeWhile_imp hmem
    · calc cs = sectionLabel ++ (behind.takeWhile isBlank ++ behind.dropWhile isBlank) := by
            rw [hlabel, List.takeWhile_append_dropWhile]
        _ = sectionLabel ++ (front ++ '\n' :: (back ++ behind.dropWhile isBlank)) := by simp [hblanks]

/-- The text of the section is empty, or the end of the text from a line feed on; in front of that the section is
announced, at the start of a line. -/
theorem eq_append_of_sectionText? {text rest : List Char} (h : sectionText? true text = some rest) :
    rest = [] ∨ ∃ before blanks back, EndsLine before ∧ (∀ c ∈ blanks, isBlank c = true) ∧
      text = before ++ (sectionLabel ++ (blanks ++ '\n' :: back)) ∧ rest = '\n' :: back := by
  -- The induction is on what is left of the text; `atStart` says whether a line begins there.
  have search : ∀ (left passed : List Char) (atStart : Bool), (atStart = true → EndsLine passed) →
      sectionText? atStart left = some rest →
      rest = [] ∨ ∃ middle blanks back, EndsLine (passed ++ middle) ∧ (∀ c ∈ blanks, isBlank c = true) ∧
        left = middle ++ (sectionLabel ++ (blanks ++ '\n' :: back)) ∧ rest = '\n' :: back := by
    intro left
    induction left with
    | nil => exact fun _ _ _ hfound => nomatch hfound
    | cons c left ih =>
        intro passed atStart hstart hfound
        rw [sectionText?] at hfound
        split at hfound
        · rename_i found hhere
          obtain rfl := Option.some.inj hfound
          split at hhere
          · rename_i hatStart
            refine (eq_append_of_behindAnnouncement? hhere).imp_right ?_
            rintro ⟨blanks, back, hblanks, hleft, hrest⟩
            refine ⟨[], blanks, back, ?_, hblanks, hleft, hrest⟩
            rw [List.append_nil]
            exact hstart hatStart
          · cases hhere
        · have hnext : (c == '\n') = true → EndsLine (passed ++ [c]) := by
            intro hc
            rw [endsLine_concat]
            exact beq_iff_eq.mp hc
          refine (ih (passed ++ [c]) (c == '\n') hnext hfound).imp_right ?_
          rintro ⟨middle, blanks, back, hends, hblanks, rfl, hrest⟩
          exact ⟨c :: middle, blanks, back, by simpa using hends, hblanks, rfl, hrest⟩
  exact search text [] true (fun _ => .inl rfl) h

/-! ## The lines of the table -/

/-- Where a line begins, the lines of what stands behind are lines of the whole text. -/
theorem EndsLine.exists_lines_append {before : List Char} (h : EndsLine before) (rest : List Char) :
    ∃ front, lines (before ++ rest) = front ++ lines rest := by
  rcases h with rfl | ⟨start, rfl⟩
  · exact ⟨[], rfl⟩
  · obtain ⟨front, hfront⟩ := exists_lines_append_lineFeed start rest
    rw [List.append_assoc]
    exact ⟨front, hfront⟩

/-- The lines of an announcement with blanks up to a line feed: the announcement, and blank lines. -/
theorem exists_lines_announcement {blanks : List Char} (hblanks : ∀ c ∈ blanks, isBlank c = true)
    (back : List Char) :
    ∃ announcement skipped, lines (sectionLabel ++ (blanks ++ '\n' :: back)) =
        announcement :: (skipped ++ lines back) ∧
      IsAnnouncement announcement ∧ ∀ m ∈ skipped, ∀ c ∈ m, isBlank c = true := by
  have hlabel : OneLine sectionLabel := by decide
  obtain ⟨tail, skipped, hlines, htail, hskipped⟩ :=
    exists_linesFrom_append_lineFeed (sectionLabel.reverse ++ []) blanks back
  refine ⟨sectionLabel ++ tail, skipped, ?_, ⟨tail, fun c hc => hblanks c (htail c hc), rfl⟩,
    fun m hm c hc => hblanks c (hskipped m hm c hc)⟩
  rw [lines, linesFrom_append hlabel, hlines, List.append_nil, List.reverse_reverse]

/-- The lines of the table have their place in the text, unless there are none. -/
theorem exists_tablePlace (text : List Char) :
    tableLines text = [] ∨ ∃ p : TablePlace text, p.table = tableLines text := by
  cases hsection : sectionText? true text with
  | none => exact .inl (by rw [tableLines, hsection])
  | some rest =>
      rcases eq_append_of_sectionText? hsection with rfl | ⟨before, blanks, back, hends, hblanks, htext, rfl⟩
      · exact .inl (by rw [tableLines, hsection]; rfl)
      · -- The line in front of the first line feed is empty, and no head of a column.
        have hfirst : (lines ('\n' :: back)).dropWhile (!isColumnHeader ·) =
            (lines back).dropWhile (!isColumnHeader ·) := by
          rw [lines, linesFrom_lineFeed]
          rfl
        cases hheader : (lines back).dropWhile (!isColumnHeader ·) with
        | nil => exact .inl (by simp only [tableLines, hsection, hfirst, hheader])
        | cons header body =>
            have htable : tableLines text = body.takeWhile (!isSectionHeader ·) := by
              simp only [tableLines, hsection, hfirst, hheader]
            obtain ⟨front, hfront⟩ := hends.exists_lines_append (sectionLabel ++ (blanks ++ '\n' :: back))
            obtain ⟨announcement, skipped, hlines, hannounces, hskipped⟩ := exists_lines_announcement hblanks back
            have hback := List.takeWhile_append_dropWhile (p := (!isColumnHeader ·)) (l := lines back)
            have hbody := List.takeWhile_append_dropWhile (p := (!isSectionHeader ·)) (l := body)
            refine .inr ⟨{
              front := front
              announcement := announcement
              between := skipped ++ (lines back).takeWhile (!isColumnHeader ·)
              header := header
              table := body.takeWhile (!isSectionHeader ·)
              below := body.dropWhile (!isSectionHeader ·)
              lines_eq := ?_
              announces := hannounces
              heads := ?_
              headless_between := ?_
              unannounced_table := ?_
              announced_below := ?_ }, htable.symm⟩
            · rw [htext, hfront, hlines, hbody, List.append_assoc, ← hheader, hback]
            · exact of_mem_head?_dropWhile (p := isColumnHeader) (fun _ => isColumnHeader_iff) (by rw [hheader]; rfl)
            · intro m hm
              rcases List.mem_append.mp hm with hm | hm
              · intro hheads
                obtain ⟨c, hc, hdark⟩ := hheads.exists_dark
                rw [hskipped m hm c hc] at hdark
                cases hdark
              · exact not_of_mem_takeWhile (p := isColumnHeader) (fun _ => isColumnHeader_iff) hm
            · exact fun m hm => not_of_mem_takeWhile (p := isSectionHeader) (fun _ => isSectionHeader_iff) hm
            · exact fun m hm => of_mem_head?_dropWhile (p := isSectionHeader) (fun _ => isSectionHeader_iff) hm

/-- The lines of the table are lines of the text, in their order. -/
theorem tableLines_sublist (text : List Char) : (tableLines text).Sublist (lines text) := by
  rcases exists_tablePlace text with hnone | ⟨p, hp⟩
  · rw [hnone]
    exact List.nil_sublist _
  · rw [← hp, p.lines_eq_above]
    exact (List.sublist_append_left p.table p.below).trans (List.sublist_append_right p.above _)

end SnippetCost
