import Mathlib.Data.List.Forall2
import SnippetCost.Proofs.Report.Flags
import SnippetCost.Proofs.Report.Numeral
import SnippetCost.Proofs.Report.Place
import SnippetCost.Report.Parser

/-!
# Every report is read

Reading a report fails for no text.  A line in the shape of a row always yields a record (`Yields`), because each
of its flags is found where it is searched; any other line yields none.

Main statements:

- **`parseRow?_eq_some_iff`**: the records that are read are those that lines yield;
- **`Yields.wellFormed`**: the columns of such a record are numerals that read, and its instruction is a trimmed
  piece of its line;
- **`wellFormed_readReport`**: for every text, and without one, the measures are what the readers make of the
  numbers behind their labels, and the records are numbered from one on and belong to lines of their own;
- **`origin_readReport`**: all of these lines stand in one table, below the heads of its columns, and no section is
  announced in it.  So they belong to the section with the table if and only if that section is still open at
  these heads (`not_origin_inTableSection`: it need not be).
-/

namespace SnippetCost

open SnippetCost.Text SnippetCost.Number

/-! ## Rows and records -/

/-- A line and the record it yields.  The flags of the text behind the three numbers are searched, each behind
the one before it, and what is left when the last has been found is the instruction, with blanks around it. -/
inductive Yields : List Char → InstructionRecord → Prop where
  | row {lead uops gap₁ latency gap₂ throughput gap₃ body trail left : List Char} {order : Int}
      (lead_blank : ∀ c ∈ lead, isBlank c = true)
      (uops_digits : IsDigits uops) (gap₁_blank : IsGap gap₁)
      (latency_digits : IsDigits latency) (gap₂_blank : IsGap gap₂)
      (throughput_decimal : IsDecimal throughput) (gap₃_blank : IsGap gap₃)
      (body_ne_nil : body ≠ []) (body_trimmed : trim body = body) (body_oneLine : '\n' ∉ body)
      (trail_blank : ∀ c ∈ trail, isBlank c = true)
      (found : behindAll? (leadingFlags (words body)) body = some left) :
      Yields
        (lead ++ (uops ++ (gap₁ ++ (latency ++ (gap₂ ++ (throughput ++ (gap₃ ++ (body ++ trail))))))))
        { order := order
          uops := String.ofList uops
          latency := String.ofList latency
          throughput := String.ofList throughput
          instruction := String.ofList (trim left) }

/-- A record that a line yields is read. -/
theorem Yields.parseRow?_eq_some {line : List Char} {record : InstructionRecord}
    (h : Yields line record) : parseRow? line record.order = some record := by
  cases h with
  | row hlead huops hgap₁ hlatency hgap₂ hthroughput hgap₃ hne htrim hfeed htrail hfound =>
      obtain ⟨left, hleft, hinstruction⟩ := behindAll?_leadingFlags hne htrim
      rw [hfound, Option.some.injEq] at hleft
      rw [parseRow?_columns hlead huops hgap₁ hlatency hgap₂ hthroughput hgap₃ hne
        (startsDark_of_trim_eq htrim) hfeed (trimEnd_of_trim_eq htrim) htrail, hleft, hinstruction]

/-- A line in the shape of a row yields a record. -/
theorem IsRow.exists_yields {line : List Char} (h : IsRow line) (order : Int) :
    ∃ record, Yields line record ∧ record.order = order := by
  cases h with
  | @columns lead uops gap₁ latency gap₂ throughput gap₃ body trail hlead huops hgap₁ hlatency hgap₂
      hthroughput hgap₃ hne hdark hfeed htrail =>
      -- The blanks at the end of the body belong to the end of the line.
      obtain ⟨blanks, hbody, hblanks⟩ := exists_trimEnd_append body
      obtain ⟨htrimNe, htrimDark⟩ := startsDark_trimEnd hne hdark
      have htrim : trim (trimEnd body) = trimEnd body :=
        (trim_blanks_append (List.forall_mem_nil _) htrimDark).trans (trimEnd_trimEnd body)
      have htrimFeed : '\n' ∉ trimEnd body := by
        intro hmem
        rw [hbody] at hfeed
        exact hfeed (List.mem_append_left blanks hmem)
      have hend : ∀ c ∈ blanks ++ trail, isBlank c = true := by
        rw [List.forall_mem_append]
        exact ⟨hblanks, htrail⟩
      obtain ⟨left, hfound, -⟩ := behindAll?_leadingFlags htrimNe htrim
      rw [hbody, List.append_assoc (trimEnd body)]
      exact ⟨_, .row hlead huops hgap₁ hlatency hgap₂ hthroughput hgap₃ htrimNe htrim htrimFeed hend hfound,
        rfl⟩

/-- The records that are read are those the lines yield. -/
theorem parseRow?_eq_some_iff {line : List Char} {order : Int} {record : InstructionRecord} :
    parseRow? line order = some record ↔ Yields line record ∧ record.order = order := by
  constructor
  · intro h
    obtain ⟨record', hyields, rfl⟩ := (isRow_of_parseRow?_eq_some h).exists_yields order
    rw [hyields.parseRow?_eq_some, Option.some.injEq] at h
    exact h ▸ ⟨hyields, rfl⟩
  · rintro ⟨hyields, rfl⟩
    exact hyields.parseRow?_eq_some

/-- What a line says of its record: numbers in the first three columns, and as the instruction a trimmed piece
of the line. -/
structure InstructionRecord.WellFormed (line : List Char) (r : InstructionRecord) : Prop where
  uops_digits : IsDigits r.uops.toList
  latency_digits : IsDigits r.latency.toList
  throughput_decimal : IsDecimal r.throughput.toList
  /-- Each of the three is a numeral for the reader of decimals. -/
  columns_read : ∀ column ∈ [r.uops, r.latency, r.throughput], ∃ x, readDecimal? column = some x
  instruction_ne_empty : r.instruction ≠ ""
  instruction_trimmed : trimmed r.instruction = r.instruction
  instruction_isInfix : r.instruction.toList <:+: line

theorem Yields.wellFormed {line : List Char} {record : InstructionRecord} (h : Yields line record) :
    record.WellFormed line := by
  cases h with
  | @row lead uops gap₁ latency gap₂ throughput gap₃ body trail left order hlead huops hgap₁ hlatency hgap₂
      hthroughput hgap₃ hne htrim hfeed htrail hfound =>
      obtain ⟨left', hleft, hinstruction⟩ := behindAll?_leadingFlags hne htrim
      rw [hfound, Option.some.injEq] at hleft
      subst hleft
      refine ⟨by simpa using huops, by simpa using hlatency, by simpa using hthroughput, ?_, ?_, ?_, ?_⟩
      · simp only [List.forall_mem_cons, List.not_mem_nil, false_implies, implies_true, and_true]
        exact ⟨exists_readDecimal?_decimal (.inl huops), exists_readDecimal?_decimal (.inl hlatency),
          exists_readDecimal?_decimal hthroughput⟩
      · rw [ne_eq, String.ofList_eq_empty_iff, hinstruction]
        exact dropFlags_ne_nil hne htrim
      · rw [trimmed, String.toList_ofList, hinstruction, trim_dropFlags hne htrim]
      · rw [String.toList_ofList, hinstruction]
        have hsuffix := (dropFlags_isSuffix hne htrim).isInfix
        refine hsuffix.trans ⟨lead ++ (uops ++ (gap₁ ++ (latency ++ (gap₂ ++ (throughput ++ gap₃))))),
          trail, ?_⟩
        simp only [List.append_assoc]

/-! ## Reading a report -/

/-- The records are those of some of the lines, in their order. -/
theorem exists_sublist_readRows (order : Int) (ls : List (List Char)) : ∃ rows,
    rows.Sublist ls ∧ List.Forall₂ Yields rows (readRows order ls) := by
  induction ls generalizing order with
  | nil => exact ⟨[], .refl _, .nil⟩
  | cons l ls ih =>
      rw [readRows]
      cases hrow : parseRow? l order with
      | none =>
          obtain ⟨rows, hsublist, hrows⟩ := ih order
          exact ⟨rows, hsublist.cons l, hrows⟩
      | some record =>
          obtain ⟨rows, hsublist, hrows⟩ := ih (order + 1)
          exact ⟨l :: rows, hsublist.cons_cons l, .cons (parseRow?_eq_some_iff.mp hrow).1 hrows⟩

/-- The records are numbered on from `order`. -/
theorem map_order_readRows (order : Int) (ls : List (List Char)) :
    (readRows order ls).map (·.order) =
      (List.range (readRows order ls).length).map fun i : Nat => order + i := by
  induction ls generalizing order with
  | nil => rfl
  | cons l ls ih =>
      rw [readRows]
      cases hrow : parseRow? l order with
      | none => exact ih order
      | some record =>
          have horder := (parseRow?_eq_some_iff.mp hrow).2
          have hnext : ∀ i : Nat, order + 1 + (i : Int) = order + ((i + 1 : Nat) : Int) := by
            intro i
            omega
          rw [List.map_cons, ih, horder, List.length_cons, List.range_succ_eq_map, List.map_cons, List.map_map]
          simp [hnext]

/-- Each record that is read is that of a line. -/
theorem exists_wellFormed_of_mem_readReport {text : String} {record : InstructionRecord}
    (h : record ∈ (readReport text).value.instructions) :
    ∃ row ∈ lines text.toList, record.WellFormed row := by
  obtain ⟨rows, hsublist, hrows⟩ := exists_sublist_readRows 1 (tableLines text.toList)
  obtain ⟨hlength, hyields⟩ := List.forall₂_iff_get.mp hrows
  obtain ⟨i, hi, rfl⟩ := List.getElem_of_mem h
  have hrow : i < rows.length := hlength ▸ hi
  exact ⟨rows[i], (tableLines_sublist _).subset (hsublist.subset (List.getElem_mem hrow)),
    (hyields i hrow hi).wellFormed⟩

/-- A report has no more records than lines. -/
theorem length_instructions_le_lines (text : String) :
    (readReport text).value.instructions.length ≤ (lines text.toList).length := by
  obtain ⟨rows, hsublist, hrows⟩ := exists_sublist_readRows 1 (tableLines text.toList)
  calc (readReport text).value.instructions.length = rows.length := hrows.length_eq.symm
    _ ≤ (lines text.toList).length := (hsublist.trans (tableLines_sublist text.toList)).length_le

/-- The number of a record is one of the first positive ones. -/
theorem exists_order_eq {text : String} {r : InstructionRecord}
    (h : r ∈ (readReport text).value.instructions) :
    ∃ n : Nat, r.order = n ∧ n ≤ (readReport text).value.instructions.length := by
  have horder : r.order ∈ (readReport text).value.instructions.map (·.order) := List.mem_map_of_mem h
  have horders : (readReport text).value.instructions.map (·.order) =
      (List.range (readReport text).value.instructions.length).map fun i : Nat => (1 : Int) + i :=
    map_order_readRows 1 _
  rw [horders, List.mem_map] at horder
  obtain ⟨i, hi, heq⟩ := horder
  rw [List.mem_range] at hi
  refine ⟨1 + i, ?_, by omega⟩
  rw [← heq]
  push_cast
  rfl

/-- What a report that is read has to do with the text it is read from. -/
structure ParsedReport.WellFormed (text : List Char) (report : ParsedReport) : Prop where
  /-- A measure is what the reader of its numbers makes of the first number behind its label, and missing if
  there is none or the reader refuses it. -/
  measures : ∀ m : Metric, report.summary.measure m =
    ((m.findNumber? true text).bind fun number => m.reading? (String.ofList number)).getD .unavailable
  /-- The records are numbered from one on. -/
  orders : report.instructions.map (·.order) =
    (List.range report.instructions.length).map fun i : Nat => 1 + (i : Int)
  /-- Each record is that of a line of its own, in the order of the text. -/
  rows : ∃ rows, rows.Sublist (lines text) ∧
    List.Forall₂ (fun row record => Yields row record ∧ record.WellFormed row) rows report.instructions

/-- **Reading never fails**, whatever the text is and even without one, and what is read is well formed. -/
theorem wellFormed_readReport (text : Option String) :
    (readReport (text.getD "")).value.WellFormed (text.getD "").toList where
  measures := fun m => (measure_extract _ m).trans (m.extract_eq _)
  orders := map_order_readRows 1 _
  rows := by
    obtain ⟨rows, hsublist, hrows⟩ := exists_sublist_readRows 1 (tableLines (text.getD "").toList)
    exact ⟨rows, hsublist.trans (tableLines_sublist _), hrows.imp fun _ _ h => ⟨h, h.wellFormed⟩⟩

/-! ## Where the records come from -/

/-- A record is that of a line, and its number that of the rows above this line. -/
theorem exists_of_mem_readRows {order : Int} {ls : List (List Char)} {record : InstructionRecord}
    (h : record ∈ readRows order ls) : ∃ before row after, ls = before ++ row :: after ∧
      Yields row record ∧ record.order = order + (readRows order before).length := by
  induction ls generalizing order with
  | nil => cases h
  | cons l ls ih =>
      rw [readRows] at h
      cases hrow : parseRow? l order with
      | none =>
          rw [hrow] at h
          obtain ⟨before, row, after, rfl, hyields, horder⟩ := ih h
          refine ⟨l :: before, row, after, rfl, hyields, ?_⟩
          rw [horder, readRows, hrow]
      | some first =>
          rw [hrow] at h
          rcases List.mem_cons.mp h with rfl | h
          · obtain ⟨hyields, horder⟩ := parseRow?_eq_some_iff.mp hrow
            exact ⟨[], l, ls, rfl, hyields, by rw [horder]; simp [readRows]⟩
          · obtain ⟨before, row, after, rfl, hyields, horder⟩ := ih h
            refine ⟨l :: before, row, after, rfl, hyields, ?_⟩
            rw [horder, readRows, hrow, List.length_cons]
            omega

/-- **The origin of the records.**  All that are read stand in one table, and it is decided above the table
whether they belong to its section. -/
theorem origin_readReport (text : String) :
    (readReport text).value.instructions = [] ∨
      ∃ p : TablePlace text.toList, (readReport text).value.instructions = readRows 1 p.table ∧
        ∀ record ∈ (readReport text).value.instructions, ∃ before row after,
          lines text.toList = p.above ++ before ++ row :: (after ++ p.below) ∧
          p.table = before ++ row :: after ∧ Yields row record ∧
          record.order = 1 + (readRows 1 before).length ∧
          (InTableSection (p.above ++ before) ↔ InTableSection p.opening) := by
  have hread : (readReport text).value.instructions = readRows 1 (tableLines text.toList) := rfl
  rcases exists_tablePlace text.toList with hnone | ⟨p, hp⟩
  · refine .inl ?_
    rw [hread, hnone]
    rfl
  · rw [← hp] at hread
    refine .inr ⟨p, hread, ?_⟩
    intro record hrecord
    rw [hread] at hrecord
    obtain ⟨before, row, after, htable, hyields, horder⟩ := exists_of_mem_readRows hrecord
    refine ⟨before, row, after, ?_, htable, hyields, horder, p.inTableSection_above_iff htable⟩
    rw [p.lines_eq_above, htable]
    simp

/-- A report whose section with the table ends at once, with the heads of columns in another section. -/
def foreignTable : String :=
  "Instruction Info:\nResources:\n[1] [2] [3] Instructions:\n 1 1 1 nop\n"

/-- The lines above the heads of its columns. -/
def foreignOpening : List (List Char) :=
  ["Instruction Info:".toList] ++ ["Resources:".toList]

/-- The heads of its columns. -/
def foreignHeads : List Char :=
  "[1] [2] [3] Instructions:".toList

theorem not_inTableSection_foreignOpening : ¬InTableSection foreignOpening := by
  have hheader : IsSectionHeader "Resources:".toList := by
    decide +kernel
  have hother : ¬IsAnnouncement "Resources:".toList := by
    rintro ⟨blanks, -, hlabel⟩
    cases (List.cons.inj hlabel).1
  exact not_inTableSection_concat hheader hother

/-- A record need not belong to the section with the table: the heads of the columns are looked for beyond the
end of this section. -/
theorem not_origin_inTableSection :
    ¬∀ (text : String), ∀ record ∈ (readReport text).value.instructions, ∃ above row below,
      lines text.toList = above ++ row :: below ∧ Yields row record ∧ InTableSection above := by
  intro h
  have hlines : lines foreignTable.toList = (foreignOpening ++ [foreignHeads]) ++ [" 1 1 1 nop".toList] := by
    decide +kernel
  have hread : (readReport foreignTable).value.instructions =
      [{ order := 1, uops := "1", latency := "1", throughput := "1", instruction := "nop" }] := by
    decide +kernel
  obtain ⟨above, row, below, heq, hyields, hsection⟩ :=
    h foreignTable _ (by rw [hread]; exact List.mem_singleton_self _)
  rw [hlines] at heq
  -- The last line alone is a row.
  have honly : ∀ l ∈ foreignOpening ++ [foreignHeads], (parseRow? l 1).isSome = false := by
    decide +kernel
  have habove : above = foreignOpening ++ [foreignHeads] := by
    rcases List.append_eq_append_iff.mp heq with ⟨middle, hmiddle, hlast⟩ | ⟨middle, hmiddle, hlast⟩
    · cases middle with
      | nil => rw [hmiddle, List.append_nil]
      | cons l middle => simp at hlast
    · cases middle with
      | nil => rw [hmiddle, List.append_nil]
      | cons l middle =>
          obtain ⟨rfl, -⟩ := List.cons.inj hlast
          have hrow := honly row (by rw [hmiddle]; simp)
          rw [hyields.parseRow?_eq_some] at hrow
          cases hrow
  have hheads : ∀ m ∈ [foreignHeads], ¬IsSectionHeader m := by
    decide +kernel
  rw [habove, inTableSection_append_iff hheads] at hsection
  exact not_inTableSection_foreignOpening hsection

end SnippetCost
