import SnippetCost.Proofs.Report.Section
import SnippetCost.Report.Parser

/-!
# The instruction table reads back

A `WrittenTable` is a report somebody wrote around an instruction table: a text in front that does not
announce the section, the announcement, lines of prose, the heads of the columns, the lines of the table,
and the end of the text or the next section.  The lines of the table are rows and, anywhere among them,
lines that are no rows.

Main statements:

- **`WrittenTable.tableLines_text`**: the reader finds the lines of the table, less an empty last one;
- **`WrittenTable.instructions_readReport`**: what it reads off them are the rows that were written, in
  their order and numbered from one.

The spacing, the flags and the lines that are no rows leave no trace in the records.
-/

namespace SnippetCost

open SnippetCost.Text

/-! ## The lines of the table -/

/-- A line of the table as it is written: a row, or a line that is none and announces no section. -/
inductive TableLine where
  | row (r : WrittenRow)
  | noise (text : List Char) (text_oneLine : OneLine text) (text_not_row : ¬IsRow text)
      (text_not_header : ¬IsSectionHeader text)

namespace TableLine

/-- The text of the line. -/
def text : TableLine → List Char
  | .row r => r.line
  | .noise text _ _ _ => text

/-- The row, if the line is one. -/
def row? : TableLine → Option WrittenRow
  | .row r => some r
  | .noise _ _ _ _ => none

theorem oneLine_text (l : TableLine) : OneLine l.text := by
  cases l with
  | row r => exact r.oneLine_line
  | noise text text_oneLine _ _ => exact text_oneLine

/-- No line of the table ends it. -/
theorem isSectionHeader_text (l : TableLine) : isSectionHeader l.text = false := by
  cases l with
  | row r => exact isSectionHeader_of_isRow r.isRow_line
  | noise text _ _ text_not_header =>
      rw [← isSectionHeader_iff, Bool.not_eq_true] at text_not_header
      exact text_not_header

end TableLine

/-- The records of the rows among the lines, numbered on from `order`. -/
def recordsFrom (order : Int) (body : List TableLine) : List InstructionRecord :=
  (body.filterMap TableLine.row?).mapIdx fun i r => r.record (order + i)

/-- The rows are read, each with its number, and no other line has one. -/
theorem readRows_text (order : Int) (body : List TableLine) :
    readRows order (body.map TableLine.text) = recordsFrom order body := by
  unfold recordsFrom
  induction body generalizing order with
  | nil => rfl
  | cons l body ih =>
      rw [List.map_cons, readRows]
      cases l with
      | row r =>
          have hnumber : ∀ i : Nat, order + 1 + (i : Int) = order + ((i : Int) + 1) := by
            intro i
            omega
          have hrow : (TableLine.row r).row? = some r := rfl
          rw [TableLine.text, r.parseRow?_line, List.filterMap_cons_some hrow, List.mapIdx_cons]
          simp [ih, hnumber]
      | noise text _ text_not_row _ =>
          have hnone : parseRow? text order = none := by
            rw [← isSome_parseRow?_iff order, Option.not_isSome_iff_eq_none] at text_not_row
            exact text_not_row
          rw [TableLine.text, hnone, List.filterMap_cons_none rfl]
          exact ih order

/-- An empty line at the end yields no record. -/
theorem readRows_append_empty (order : Int) (ls : List (List Char)) :
    readRows order (ls ++ [[]]) = readRows order ls := by
  rw [readRows_append]
  exact List.append_nil _

/-! ## A report around a table -/

/-- The announcement of another section and what follows it. -/
structure NextSection where
  header : List Char
  rest : List Char
  header_oneLine : OneLine header
  header_header : IsSectionHeader header
  rest_below : rest = [] ∨ ∃ more, rest = '\n' :: more

/-- A report as it is written around an instruction table. -/
structure WrittenTable where
  /-- The text in front of the section. -/
  before : List Char
  /-- The blanks behind the announcement of the section. -/
  behindLabel : List Char
  /-- The lines between the announcement and the heads of the columns. -/
  preamble : List (List Char)
  columnHeader : List Char
  body : List TableLine
  /-- What ends the table, unless the text does. -/
  next : Option NextSection
  before_quiet : ¬Announced before
  before_lines : EndsLine before
  behindLabel_space : IsSpace behindLabel
  preamble_oneLine : ∀ l ∈ preamble, OneLine l
  preamble_prose : ∀ l ∈ preamble, ¬IsColumnHeader l
  columnHeader_oneLine : OneLine columnHeader
  columnHeader_header : IsColumnHeader columnHeader

namespace WrittenTable

variable (t : WrittenTable)

/-- The text behind the lines of the table. -/
def ending : List Char :=
  match t.next with
  | none => []
  | some next => '\n' :: (next.header ++ next.rest)

/-- The text of the report. -/
def text : List Char :=
  t.before ++ (sectionLabel ++ (t.behindLabel ++
    (below (t.preamble ++ t.columnHeader :: t.body.map TableLine.text) ++ t.ending)))

/-- The records of the rows, in their order and numbered from one. -/
def records : List InstructionRecord :=
  recordsFrom 1 t.body

theorem isColumnHeader_columnHeader : isColumnHeader t.columnHeader = true :=
  isColumnHeader_iff.mpr t.columnHeader_header

theorem isColumnHeader_of_mem_preamble : ∀ l ∈ t.preamble, isColumnHeader l = false := by
  intro l hl
  rw [← Bool.not_eq_true, isColumnHeader_iff]
  exact t.preamble_prose l hl

theorem oneLine_of_mem_body : ∀ l ∈ t.body.map TableLine.text, OneLine l := by
  intro l hl
  obtain ⟨m, -, rfl⟩ := List.mem_map.mp hl
  exact m.oneLine_text

theorem isSectionHeader_of_mem_body : ∀ l ∈ t.body.map TableLine.text, isSectionHeader l = false := by
  intro l hl
  obtain ⟨m, -, rfl⟩ := List.mem_map.mp hl
  exact m.isSectionHeader_text

/-- The heads of the columns are no blank line. -/
theorem columnHeader_dark : ∃ c ∈ t.columnHeader, isBlank c = false := by
  obtain ⟨gap₁, gap₂, middle, trail, -, -, -, heq⟩ := t.columnHeader_header
  exact ⟨'[', by simp [heq], by decide⟩

theorem columnHeader_ne_nil : t.columnHeader ≠ [] := by
  obtain ⟨c, hc, -⟩ := t.columnHeader_dark
  exact List.ne_nil_of_mem hc

/-! ### Up to the table -/

/-- The reader goes on behind the announcement and the blank lines that follow it. -/
theorem exists_sectionText?_text : ∃ kept, kept <:+ t.preamble ∧
    sectionText? true t.text =
      some (below (kept ++ t.columnHeader :: t.body.map TableLine.text) ++ t.ending) := by
  have hpreamble := List.takeWhile_append_dropWhile (p := allBlank) (l := t.preamble)
  refine ⟨t.preamble.dropWhile allBlank, List.dropWhile_suffix allBlank, ?_⟩
  have hskipped : ∀ m ∈ t.preamble.takeWhile allBlank, ∀ c ∈ m, isBlank c = true := by
    intro m hm
    have hblank : allBlank m = true := List.mem_takeWhile_imp hm
    exact List.all_eq_true.mp hblank
  -- The first line that is kept is not blank: it is one of the preamble or the heads of the columns.
  obtain ⟨l, more, hkept, hl, hdark⟩ : ∃ l more,
      t.preamble.dropWhile allBlank ++ t.columnHeader :: t.body.map TableLine.text = l :: more ∧
        OneLine l ∧ ∃ c ∈ l, isBlank c = false := by
    cases hcase : t.preamble.dropWhile allBlank with
    | nil => exact ⟨_, _, rfl, t.columnHeader_oneLine, t.columnHeader_dark⟩
    | cons l kept =>
        have hmem : l ∈ t.preamble := by
          rw [← hpreamble, hcase]
          exact List.mem_append_right _ List.mem_cons_self
        have hblank : allBlank l = false :=
          head?_dropWhile_eq_false allBlank t.preamble l (by rw [hcase]; rfl)
        refine ⟨l, _, rfl, t.preamble_oneLine l hmem, ?_⟩
        simpa [allBlank] using hblank
  have hbehind := behindAnnouncement?_below t.behindLabel_space.isBlank hskipped hl hdark
    (below more ++ t.ending)
  have hlines : below (t.preamble ++ t.columnHeader :: t.body.map TableLine.text) =
      below (t.preamble.takeWhile allBlank) ++ '\n' :: (l ++ below more) := by
    rw [← below_cons, ← hkept, ← below_append, ← List.append_assoc, hpreamble]
  have htext : t.text = t.before ++ (sectionLabel ++ (t.behindLabel ++
      (below (t.preamble.takeWhile allBlank) ++ '\n' :: (l ++ (below more ++ t.ending))))) := by
    rw [text, hlines]
    simp only [List.append_assoc, List.cons_append]
  have hbegins : BeginsAnnounced (sectionLabel ++ (t.behindLabel ++
      (below (t.preamble.takeWhile allBlank) ++ '\n' :: (l ++ (below more ++ t.ending))))) := by
    rw [← isSome_behindAnnouncement?_iff, hbehind]
    rfl
  rw [htext, sectionText?_append t.before_quiet t.before_lines, sectionText?_of_begins hbegins, hbehind,
    hkept, below_cons]
  simp only [List.append_assoc, List.cons_append]

/-! ### The table -/

/-- The lines from the heads of the columns on: the table, and behind it nothing or the next section. -/
theorem exists_lines_columnHeader : ∃ ms rest,
    lines (t.columnHeader ++ (below (t.body.map TableLine.text) ++ t.ending)) =
      t.columnHeader :: (ms ++ rest) ∧
    (ms = t.body.map TableLine.text ∨ ms ++ [[]] = t.body.map TableLine.text) ∧
    ∀ l, rest.head? = some l → isSectionHeader l = true := by
  unfold ending
  cases t.next with
  | none =>
      obtain ⟨ms, hlines, hms⟩ :=
        exists_lines_eq_cons t.columnHeader_oneLine t.columnHeader_ne_nil t.oneLine_of_mem_body
      refine ⟨ms, [], ?_, hms, by simp⟩
      rw [List.append_nil, List.append_nil, hlines]
  | some next =>
      have hne : next.header ≠ [] := by
        obtain ⟨c, name, trail, -, -, -, heq⟩ := next.header_header
        rw [heq]
        exact List.cons_ne_nil c _
      obtain ⟨more, hmore⟩ := exists_lines_cons next.header_oneLine hne next.rest_below
      refine ⟨_, next.header :: more, ?_, .inl rfl, ?_⟩
      · rw [← List.append_assoc, lines_below_lineFeed t.columnHeader_oneLine t.oneLine_of_mem_body,
          hmore, List.cons_append]
      · intro l hl
        obtain rfl : next.header = l := by simpa using hl
        exact isSectionHeader_iff.mpr next.header_header

/-- **The table is found.**  Its lines are those that were written, less an empty last one. -/
theorem tableLines_text : tableLines t.text = t.body.map TableLine.text ∨
    tableLines t.text ++ [[]] = t.body.map TableLine.text := by
  obtain ⟨kept, hkept, hsection⟩ := t.exists_sectionText?_text
  obtain ⟨ms, rest, hlines, hms, hrest⟩ := t.exists_lines_columnHeader
  have hkeptLines : ∀ l ∈ kept, OneLine l := fun l hl => t.preamble_oneLine l (hkept.subset hl)
  have hall : lines (below (kept ++ t.columnHeader :: t.body.map TableLine.text) ++ t.ending) =
      ([] :: kept) ++ t.columnHeader :: (ms ++ rest) := by
    have hfirst : OneLine [] := by
      intro c hc
      cases hc
    rw [← hlines, ← lines_below_lineFeed hfirst hkeptLines]
    simp [below_append]
  have hprose : ∀ l ∈ [] :: kept, (!isColumnHeader l) = true := by
    intro l hl
    rw [Bool.not_eq_true']
    rcases List.mem_cons.mp hl with rfl | hl
    · rfl
    · exact t.isColumnHeader_of_mem_preamble l (hkept.subset hl)
  have hbody : ∀ l ∈ ms, (!isSectionHeader l) = true := by
    intro l hl
    rw [Bool.not_eq_true']
    refine t.isSectionHeader_of_mem_body l ?_
    rcases hms with hms | hms
    · exact hms ▸ hl
    · exact hms ▸ List.mem_append_left _ hl
  have htable : tableLines t.text = ms := by
    rw [tableLines, hsection]
    simp only [hall]
    rw [dropWhile_run hprose (by simp [t.isColumnHeader_columnHeader])]
    refine takeWhile_run hbody ?_
    intro l hl
    rw [hrest l hl]
    rfl
  rw [htable]
  exact hms

/-- **A table reads back.**  What is read off the report are the records of its rows, in their order and
numbered from one. -/
theorem instructions_readReport :
    (readReport (String.ofList t.text)).value.instructions = t.records := by
  have hread : (readReport (String.ofList t.text)).value.instructions =
      readRows 1 (tableLines t.text) := by
    simp [readReport, ParsedReport.ofText]
  rw [hread]
  rcases t.tableLines_text with htable | htable
  · rw [htable, readRows_text, records]
  · rw [← readRows_append_empty, htable, readRows_text, records]

/-! ### A table with a flag and a line of noise -/

/-- A row with a flag, one blank between the columns. -/
def returnRow : WrittenRow where
  uops := ['1']
  latency := ['5']
  throughput := "0.50".toList
  flags := [(['*'], [' '])]
  instruction := "ret".toList
  lead := [' ']
  behindUops := [' ']
  behindLatency := [' ']
  behindThroughput := [' ']
  trail := [' ']
  uops_digits := by decide
  latency_digits := by decide
  throughput_decimal := by decide
  flags_flag := List.forall_mem_singleton.mpr (.inl rfl)
  instruction_ne_nil := List.cons_ne_nil _ _
  instruction_trimmed := rfl
  instruction_oneLine := by decide
  instruction_firstWord := by decide
  lead_space := by decide
  behindUops_space := by decide
  behindLatency_space := by decide
  behindThroughput_space := by decide
  flags_space := List.forall_mem_singleton.mpr (by decide)
  trail_space := by decide

/-- A row without flags, the blanks of uneven width. -/
def addRow : WrittenRow where
  uops := ['2']
  latency := "10".toList
  throughput := "1.00".toList
  flags := []
  instruction := "add  x0, x1".toList
  lead := []
  behindUops := "   ".toList
  behindLatency := [' ']
  behindThroughput := "  ".toList
  trail := []
  uops_digits := by decide
  latency_digits := by decide
  throughput_decimal := by decide
  flags_flag := List.forall_mem_nil _
  instruction_ne_nil := List.cons_ne_nil _ _
  instruction_trimmed := rfl
  instruction_oneLine := by decide
  instruction_firstWord := by decide
  lead_space := by decide
  behindUops_space := by decide
  behindLatency_space := by decide
  behindThroughput_space := by decide
  flags_space := List.forall_mem_nil _
  trail_space := by decide

/-- A blank line in front of the heads of the columns, the two rows with a line of noise between them, and
another section. -/
def interspersed : WrittenTable where
  before := []
  behindLabel := [' ']
  preamble := [[]]
  columnHeader := "[1] [2] [3] Instructions:".toList
  body := [.row returnRow, .noise "--".toList (by decide) (by decide) (by decide), .row addRow]
  next := some
    { header := "Key:".toList
      rest := []
      header_oneLine := by decide
      header_header := by decide
      rest_below := .inl rfl }
  before_quiet := by decide
  before_lines := .inl rfl
  behindLabel_space := by decide
  preamble_oneLine := List.forall_mem_singleton.mpr (List.forall_mem_nil _)
  preamble_prose := List.forall_mem_singleton.mpr (by decide)
  columnHeader_oneLine := by decide
  columnHeader_header := by decide

/-- The text as it is written out, and the two rows read off it. -/
theorem instructions_readReport_interspersed :
    String.ofList interspersed.text =
      "Instruction Info: \n\n[1] [2] [3] Instructions:\n 1 5 0.50 * ret \n--\n" ++
        "2   10 1.00  add  x0, x1\nKey:" ∧
    (readReport (String.ofList interspersed.text)).value.instructions =
      [⟨1, "1", "5", "0.50", "ret"⟩, ⟨2, "2", "10", "1.00", "add  x0, x1"⟩] :=
  ⟨by decide, interspersed.instructions_readReport⟩

end WrittenTable

end SnippetCost
