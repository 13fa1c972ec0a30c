import SnippetCost.Proofs.Display.Showing

/-!
# Which reports can be shown

Reading accepts a number of any length, and showing does not: the bar of a number is its part of the greatest in
its column, and a number that reaches the end of the range has no such part.  Here the two are put together, with
the border said by the digits of the report (`InstructionRecord.InRange`).

* **`shown_iff_inRange`**: the records of a report can be sorted by every column in both directions, and what comes
  of that can be shown exactly if each latency and each throughput is in range;
* **`not_shown_overlong`**: a latency of 309 nines is not, and it is read all the same.
-/

namespace SnippetCost

open SnippetCost.Text SnippetCost.Number

/-! ## Numbers in range -/

/-- Neither the latency nor the throughput of the record reaches the end of the range. -/
def InstructionRecord.InRange (r : InstructionRecord) : Prop :=
  magnitude r.latency.toList < rangeEnd ∧ magnitude r.throughput.toList < rangeEnd

/-- A column reads as infinity if it reaches the end of the range. -/
theorem readDecimal?_column_iff {column : String} (h : IsDecimal column.toList) :
    readDecimal? column = some (.infinite false) ↔ ¬magnitude column.toList < rangeEnd := by
  have hread := readDecimal?_eq_infinite_iff h
  rw [String.ofList_toList] at hread
  rw [hread, not_lt]

/-- The numbers that cannot be drawn are those out of range. -/
theorem InstructionRecord.WellFormed.overflows_iff {line : List Char} {r : InstructionRecord}
    (h : r.WellFormed line) : r.Overflows ↔ ¬r.InRange := by
  unfold Overflows InRange
  rw [readDecimal?_column_iff (.inl h.latency_digits), readDecimal?_column_iff h.throughput_decimal, not_and_or]

/-! ## Numbers of records -/

/-- No text has as many characters as there are whole numbers in range. -/
theorem textLimit_lt_rangeEnd : textLimit < rangeEnd := by
  decide +kernel

/-- A report has no more records than characters. -/
theorem length_instructions_le (text : String) :
    (readReport text).value.instructions.length ≤ text.length := by
  have hchars := length_lines_le text.toList
  rw [String.length_toList] at hchars
  exact (length_instructions_le_lines text).trans hchars

/-- The records of a text that there can be have numbers of the format. -/
theorem not_unplaced_of_mem_readReport {text : String} (bounded : text.length ≤ textLimit)
    {r : InstructionRecord} (h : r ∈ (readReport text).value.instructions) : ¬r.Unplaced := by
  obtain ⟨n, horder, hn⟩ := exists_order_eq h
  have hlength := length_instructions_le text
  have hlimit := textLimit_lt_rangeEnd
  have hfinite := Binary64.isFinite_ofInt_natCast (n := n) (by omega)
  intro unplaced
  rw [InstructionRecord.Unplaced, horder, hfinite] at unplaced
  cases unplaced

/-! ## Reports -/

section Report

variable {text : String}

/-- The records of a report are records of lines. -/
theorem exists_wellFormed_line {r : InstructionRecord} (h : r ∈ (readReport text).value.instructions) :
    ∃ line, r.WellFormed line := by
  obtain ⟨line, -, hline⟩ := exists_wellFormed_of_mem_readReport h
  exact ⟨line, hline⟩

/-- The records of a report can be sorted by every column. -/
theorem exists_sortRecords_readReport {column : SortColumn}
    (bounded : column = .order → text.length ≤ textLimit) (descending : Bool) :
    ∃ sorted, sortRecords (readReport text).value.instructions column descending = .ok sorted ∧
      sorted.Perm (readReport text).value.instructions := by
  refine exists_sortRecords_of_wellFormed (fun r hr => exists_wellFormed_line hr) ?_ descending
  intro hcolumn r hr
  exact not_unplaced_of_mem_readReport (bounded hcolumn) hr

/-- The records of a report, in whatever order, can be shown if all are in range, and not if one is not. -/
theorem table_of_perm {records : List InstructionRecord}
    (hperm : records.Perm (readReport text).value.instructions) :
    ((∀ r ∈ (readReport text).value.instructions, r.InRange) → ∃ table, instructionsTable records = .ok table) ∧
      ((∃ r ∈ (readReport text).value.instructions, ¬r.InRange) → instructionsTable records = .error noBar) := by
  have wellFormed : ∀ r ∈ records, ∃ line, r.WellFormed line :=
    fun r hr => exists_wellFormed_line (hperm.mem_iff.mp hr)
  have overflows : ∀ r ∈ records, (r.Overflows ↔ ¬r.InRange) := by
    intro r hr
    obtain ⟨line, hline⟩ := wellFormed r hr
    exact hline.overflows_iff
  obtain ⟨table_of_finite, error_of_overflow⟩ := table_of_wellFormed wellFormed
  constructor
  · intro inRange
    apply table_of_finite
    intro r hr hover
    exact (overflows r hr).mp hover (inRange r (hperm.mem_iff.mp hr))
  · rintro ⟨r, hr, hout⟩
    have hmem := hperm.mem_iff.mpr hr
    exact error_of_overflow ⟨r, hmem, (overflows r hmem).mpr hout⟩

end Report

/-- **Which reports can be shown.**  The records of a report are sorted by every column, in both directions, and the
table of what comes of that is there exactly if every latency and every throughput is in range; if one is not,
drawing it is what fails.  To be sorted by their numbers the records must be those of a text that there can be. -/
theorem shown_iff_inRange (text : String) (column : SortColumn) (descending : Bool)
    (bounded : column = .order → text.length ≤ textLimit) :
    ∃ sorted, sortRecords (readReport text).value.instructions column descending = .ok sorted ∧
      sorted.Perm (readReport text).value.instructions ∧
      ((∃ table, instructionsTable sorted = .ok table) ↔
        ∀ r ∈ (readReport text).value.instructions, r.InRange) ∧
      ((∃ r ∈ (readReport text).value.instructions, ¬r.InRange) →
        instructionsTable sorted = .error (.noInteger .undefined)) := by
  obtain ⟨sorted, hsorted, hperm⟩ := exists_sortRecords_readReport bounded descending
  obtain ⟨shown, fails⟩ := table_of_perm hperm
  refine ⟨sorted, hsorted, hperm, ⟨?_, shown⟩, fails⟩
  rintro ⟨table, htable⟩ r hr
  by_contra hout
  rw [fails ⟨r, hr, hout⟩] at htable
  cases htable

/-! ## A report that cannot be shown -/

/-- A row whose latency has so many digits, all of them nines. -/
def rowOfNines (digits : Nat) : List Char :=
  [' '] ++ (['1'] ++ ([' '] ++ (List.replicate digits '9' ++ ([' '] ++ (['1'] ++ ([' '] ++
    (['n', 'o', 'p'] ++ [])))))))

/-- The record of such a row. -/
def recordOfNines (digits : Nat) : InstructionRecord where
  order := 1
  uops := String.ofList ['1']
  latency := String.ofList (List.replicate digits '9')
  throughput := String.ofList ['1']
  instruction := String.ofList ['n', 'o', 'p']

/-- The text of a report with only that row. -/
def charsOfNines (digits : Nat) : List Char :=
  "Instruction Info:\n[1] [2] [3] Instructions:\n".toList ++ rowOfNines digits

/-- The report with that text. -/
def reportOfNines (digits : Nat) : String :=
  String.ofList (charsOfNines digits)

theorem parseRow?_rowOfNines {digits : Nat} (h : 0 < digits) :
    parseRow? (rowOfNines digits) 1 = some (recordOfNines digits) := by
  have hdigits : IsDigits (List.replicate digits '9') := by
    refine ⟨List.ne_nil_of_length_pos (by simpa using h), ?_⟩
    intro c hc
    rw [List.eq_of_mem_replicate hc]
    decide
  have hblank : ∀ c ∈ [' '], isBlank c = true := List.forall_mem_singleton.mpr (by decide)
  have hgap : IsGap [' '] := ⟨List.cons_ne_nil _ _, hblank⟩
  have hone : IsDigits ['1'] := by decide
  have hdark : StartsDark ['n', 'o', 'p'] := by
    rintro c ⟨⟩
    decide
  exact parseRow?_columns hblank hone hgap hdigits hgap (.inl hone) hgap (List.cons_ne_nil _ _) hdark
    (by decide) rfl (List.forall_mem_nil _) 1

/-- What such a report says, once it is known which lines its table has. -/
theorem instructions_reportOfNines {digits : Nat} (h : 0 < digits)
    (htable : tableLines (charsOfNines digits) = [rowOfNines digits]) :
    (readReport (reportOfNines digits)).value.instructions = [recordOfNines digits] := by
  have hread : (readReport (reportOfNines digits)).value.instructions =
      readRows 1 (tableLines (charsOfNines digits)) := by
    simp [readReport, ParsedReport.ofText, reportOfNines]
  rw [hread, htable, readRows, parseRow?_rowOfNines h]
  rfl

theorem inRange_recordOfNines_iff (digits : Nat) :
    (recordOfNines digits).InRange ↔ digitsValue (List.replicate digits '9') < rangeEnd := by
  have hpoint : '.' ∉ List.replicate digits '9' := by simp [List.mem_replicate]
  have hone : digitsValue ['1'] < rangeEnd := by decide +kernel
  unfold InstructionRecord.InRange recordOfNines
  rw [String.toList_ofList, String.toList_ofList, magnitude_of_pointless hpoint,
    magnitude_of_pointless (by decide), Nat.cast_lt, Nat.cast_lt]
  exact and_iff_left hone

/-- The greatest latency of nines that is in range. -/
theorem shown_iff_inRange_nines :
    (SortColumn.order = .order → (reportOfNines 308).length ≤ textLimit) ∧
    ∃ sorted table, sortRecords (readReport (reportOfNines 308)).value.instructions .order false = .ok sorted ∧
      instructionsTable sorted = .ok table := by
  have bounded : SortColumn.order = .order → (reportOfNines 308).length ≤ textLimit := by
    intro _
    rw [reportOfNines, String.length_ofList]
    decide +kernel
  have htable : tableLines (charsOfNines 308) = [rowOfNines 308] := by decide +kernel
  have hrange : digitsValue (List.replicate 308 '9') < rangeEnd := by decide +kernel
  obtain ⟨sorted, hsorted, -, hshown, -⟩ := shown_iff_inRange (reportOfNines 308) .order false bounded
  have inRange : ∀ r ∈ (readReport (reportOfNines 308)).value.instructions, r.InRange := by
    rw [instructions_reportOfNines (by decide) htable, List.forall_mem_singleton]
    exact (inRange_recordOfNines_iff 308).mpr hrange
  obtain ⟨table, htable⟩ := hshown.mpr inRange
  exact ⟨bounded, sorted, table, hsorted, htable⟩

/-- One digit more, and there is no table, though the record is sorted. -/
theorem not_shown_overlong : ¬∀ (text : String) (column : SortColumn) (descending : Bool),
    ∃ sorted table, sortRecords (readReport text).value.instructions column descending = .ok sorted ∧
      instructionsTable sorted = .ok table := by
  have hlines : tableLines (charsOfNines 309) = [rowOfNines 309] := by decide +kernel
  have hrange : ¬digitsValue (List.replicate 309 '9') < rangeEnd := by decide +kernel
  have hrecord : recordOfNines 309 ∈ (readReport (reportOfNines 309)).value.instructions := by
    rw [instructions_reportOfNines (by decide) hlines]
    exact List.mem_singleton_self _
  have bounded : SortColumn.latency = .order → (reportOfNines 309).length ≤ textLimit := by
    intro hcolumn
    cases hcolumn
  obtain ⟨sorted, hsorted, hperm⟩ := exists_sortRecords_readReport bounded false
  have hfails := (table_of_perm hperm).2
    ⟨_, hrecord, fun inRange => hrange ((inRange_recordOfNines_iff 309).mp inRange)⟩
  intro shown
  obtain ⟨sorted', table, hsorted', htable⟩ := shown (reportOfNines 309) .latency false
  obtain rfl : sorted = sorted' := Except.ok.inj (hsorted.symm.trans hsorted')
  rw [hfails] at htable
  cases htable

end SnippetCost
