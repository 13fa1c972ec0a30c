import SnippetCost.Proofs.Report.Instruction
import SnippetCost.Proofs.Report.Records

/-!
# Rows without an instruction

A row may end behind its columns: there is nothing on it any more, or nothing but the flags of optional columns
(`IsBare`).  Either way it has no instruction, but the reader keeps the last word behind the columns, whatever it is.

* **`instruction_of_isBare`**: a bare line without a flag yields no record and takes no number, in any report.  One
  with flags yields a record like any row, with the last flag for an instruction; and these are all the records
  whose instruction is made of flags;
* **`not_skipped_of_isBare`**: so a line that holds no instruction is not always passed over.
-/

namespace SnippetCost

open SnippetCost.Text

/-- A line with the three columns of a row, and nothing but these flags and blanks behind them. -/
inductive IsBare : (line : List Char) → (flags : List (List Char)) → Prop where
  | columns {lead uops gap₁ latency gap₂ throughput tail : List Char}
      (lead_blank : ∀ c ∈ lead, isBlank c = true)
      (uops_digits : IsDigits uops) (gap₁_blank : IsGap gap₁)
      (latency_digits : IsDigits latency) (gap₂_blank : IsGap gap₂)
      (throughput_decimal : IsDecimal throughput)
      (tail_starts : ∀ c ∈ tail.head?, isBlank c = true)
      (tail_flags : ∀ word ∈ words tail, IsFlag word) :
      IsBare (lead ++ (uops ++ (gap₁ ++ (latency ++ (gap₂ ++ (throughput ++ tail)))))) (words tail)

/-! ## Bare lines -/

/-- A text without words is blank. -/
theorem isBlank_of_words_eq_nil {cs : List Char} (h : words cs = []) : ∀ c ∈ cs, isBlank c = true := by
  rw [← List.takeWhile_append_dropWhile (p := isBlank) (l := cs),
    words_blanks (fun c hc => List.mem_takeWhile_imp hc)] at h
  have hnil : cs.dropWhile isBlank = [] := by
    by_contra hne
    exact words_ne_nil hne (head?_dropWhile_eq_false isBlank cs) h
  exact List.dropWhile_eq_nil_iff.mp hnil

/-- Behind a number no column ends where the text does. -/
theorem takeColumn?_number_only {withFraction : Bool} {number : List Char} (h : IsNumber withFraction number) :
    takeColumn? withFraction number = none := by
  have htake : takeNumber withFraction (number ++ []) = number := takeNumber_append h nofun
  rw [List.append_nil] at htake
  simp [takeColumn?, htake]

/-- A line that ends behind its columns yields no record. -/
theorem IsBare.parseRow?_eq_none {line : List Char} {flags : List (List Char)} (h : IsBare line flags)
    (hnone : flags = []) (order : Int) : parseRow? line order = none := by
  cases h with
  | @columns lead uops gap₁ latency gap₂ throughput tail hlead huops hgap₁ hlatency hgap₂ hthroughput hstarts
      hflags =>
      have hblank := isBlank_of_words_eq_nil hnone
      have dark₁ : StartsDark (uops ++ (gap₁ ++ (latency ++ (gap₂ ++ (throughput ++ tail))))) :=
        (startsDark_of_forall huops.isBlank_eq_false).append huops.1 _
      have dark₂ : StartsDark (latency ++ (gap₂ ++ (throughput ++ tail))) :=
        (startsDark_of_forall hlatency.isBlank_eq_false).append hlatency.1 _
      have dark₃ : StartsDark (throughput ++ tail) :=
        (startsDark_of_forall hthroughput.isBlank_eq_false).append hthroughput.ne_nil _
      unfold parseRow?
      rw [dropWhile_run hlead dark₁, takeColumn?_digits huops hgap₁ dark₂]
      simp only [Option.bind_eq_bind, Option.bind_some]
      rw [takeColumn?_digits hlatency hgap₂ dark₃]
      simp only [Option.bind_some]
      by_cases hend : tail = []
      · have hnumber : IsNumber true throughput := hthroughput
        rw [hend, List.append_nil, takeColumn?_number_only hnumber]
        rfl
      · have hcolumn : takeColumn? true (throughput ++ (tail ++ [])) = some (throughput, []) :=
          takeColumn?_decimal hthroughput ⟨hend, hblank⟩ nofun
        rw [List.append_nil] at hcolumn
        rw [hcolumn]
        rfl

/-- A line with flags behind its columns has the columns of a row. -/
theorem IsBare.exists_hasColumns {line : List Char} {flags : List (List Char)} (h : IsBare line flags)
    (hne : flags ≠ []) : ∃ uops latency throughput rest, HasColumns line uops latency throughput rest ∧
      words rest = flags ∧ ∀ word ∈ words rest, IsFlag word := by
  cases h with
  | @columns lead uops gap₁ latency gap₂ throughput tail hlead huops hgap₁ hlatency hgap₂ hthroughput hstarts
      hflags =>
      have hblanks : ∀ c ∈ tail.takeWhile isBlank, isBlank c = true := fun c hc => List.mem_takeWhile_imp hc
      have hdark := head?_dropWhile_eq_false isBlank tail
      have htail := List.takeWhile_append_dropWhile (p := isBlank) (l := tail)
      have hwords : words (tail.dropWhile isBlank) = words tail := by
        rw [← words_blanks hblanks, htail]
      have hrest : tail.dropWhile isBlank ≠ [] := by
        intro hnil
        rw [← hwords, hnil] at hne
        exact hne rfl
      have hgap : tail.takeWhile isBlank ≠ [] := by
        intro hnil
        rw [hnil, List.nil_append] at htail
        obtain ⟨c, cs, hcons⟩ := List.exists_cons_of_ne_nil hrest
        have hlight : isBlank c = true := hstarts c (by rw [← htail, hcons]; rfl)
        rw [hdark c (by rw [hcons]; rfl)] at hlight
        cases hlight
      refine ⟨uops, latency, throughput, _, ?_, hwords, by rwa [hwords]⟩
      have hcolumns := HasColumns.columns hlead huops hgap₁ hlatency hgap₂ hthroughput ⟨hgap, hblanks⟩ hrest hdark
      rwa [htail] at hcolumns

/-- A line with flags behind its columns yields a record, and the last of them is taken for the instruction. -/
theorem IsBare.parseRow?_eq_some {line flag : List Char} {flags : List (List Char)} (h : IsBare line flags)
    (hlast : flags.getLast? = some flag) (oneLine : '\n' ∉ line) (order : Int) :
    ∃ record, parseRow? line order = some record ∧ record.order = order ∧
      record.instruction = String.ofList flag ∧ IsFlag flag := by
  have hne : flags ≠ [] := by
    rintro rfl
    cases hlast
  obtain ⟨uops, latency, throughput, rest, hcolumns, rfl, hflags⟩ := h.exists_hasColumns hne
  obtain ⟨hrest, hdark⟩ := hcolumns.rest_starts
  obtain ⟨word, hword, hleft⟩ := exists_lastWord hrest hdark hflags
  rw [hlast, Option.some.injEq] at hword
  refine ⟨_, hcolumns.parseRow?_eq oneLine order, rfl, ?_, hflags flag (List.mem_of_getLast? hlast)⟩
  rw [hleft, hword]

/-! ## Records whose instruction is a flag -/

/-- The words of flags as they are written, and of what stands behind them. -/
theorem words_flagText_append {flags : List (List Char × List Char)} (hflags : ∀ f ∈ flags, IsFlag f.1 ∧ IsGap f.2)
    (rest : List Char) : words (flagText flags ++ rest) = flags.map Prod.fst ++ words rest := by
  induction flags with
  | nil => rfl
  | cons f flags ih =>
      obtain ⟨flag, gap⟩ := f
      rw [List.forall_mem_cons] at hflags
      obtain ⟨⟨hflag, hgap⟩, hflags⟩ := hflags
      rw [flagText_cons, List.append_assoc, List.append_assoc,
        words_word_append hflag.ne_nil hflag.isBlank_eq_false hgap.1 hgap.2, ih hflags]
      rfl

/-- Where flags are all that is left of a row when its flags are dropped, they are all that was there. -/
theorem Yields.exists_isBare {row : List Char} {record : InstructionRecord} (h : Yields row record)
    (hflags : ∀ word ∈ words record.instruction.toList, IsFlag word) : ∃ flags, IsBare row flags := by
  cases h with
  | @row lead uops gap₁ latency gap₂ throughput gap₃ body trail left order hlead huops hgap₁ hlatency hgap₂
      hthroughput hgap₃ hne htrim hfeed htrail hfound =>
      obtain ⟨left', hleft, hinstruction⟩ := behindAll?_leadingFlags hne htrim
      rw [hfound, Option.some.injEq] at hleft
      rw [String.toList_ofList, hleft, hinstruction] at hflags
      obtain ⟨dropped, hdropped, hsplit, -⟩ := exists_flagText hne (startsDark_of_trim_eq htrim)
      have htail : words (gap₃ ++ (body ++ trail)) = words body := by
        rw [words_blanks hgap₃.2, words_append_blanks body htrail]
      have hall : ∀ word ∈ words (gap₃ ++ (body ++ trail)), IsFlag word := by
        rw [htail, hsplit, words_flagText_append hdropped, List.forall_mem_append, List.forall_mem_map]
        exact ⟨fun f hf => (hdropped f hf).1, hflags⟩
      refine ⟨_, .columns hlead huops hgap₁ hlatency hgap₂ hthroughput ?_ hall⟩
      obtain ⟨b, more, heq, hb⟩ := hgap₃.head?_append (body ++ trail)
      rw [heq]
      rintro c ⟨⟩
      exact hb

/-- The record of a line with nothing but flags behind its columns has the last of them for its instruction. -/
theorem Yields.getLast?_of_isBare {row : List Char} {record : InstructionRecord} (h : Yields row record)
    (oneLine : '\n' ∉ row) {flags : List (List Char)} (hbare : IsBare row flags) :
    flags.getLast? = some record.instruction.toList ∧ IsFlag record.instruction.toList := by
  have hread := h.parseRow?_eq_some
  cases hlast : flags.getLast? with
  | none =>
      rw [hbare.parseRow?_eq_none (List.getLast?_eq_none_iff.mp hlast)] at hread
      cases hread
  | some flag =>
      obtain ⟨record', hread', -, hinstruction, hflag⟩ := hbare.parseRow?_eq_some hlast oneLine record.order
      rw [hread, Option.some.injEq] at hread'
      rw [hread', hinstruction, String.toList_ofList]
      exact ⟨rfl, hflag⟩

/-- The instruction of a record is made of flags exactly if there is nothing but flags behind the columns. -/
theorem Yields.isFlag_instruction_iff {row : List Char} {record : InstructionRecord} (h : Yields row record)
    (oneLine : '\n' ∉ row) :
    (∀ word ∈ words record.instruction.toList, IsFlag word) ↔ ∃ flags, IsBare row flags := by
  constructor
  · exact h.exists_isBare
  · rintro ⟨flags, hbare⟩
    obtain ⟨-, hflag⟩ := h.getLast?_of_isBare oneLine hbare
    rw [hflag.words_eq, List.forall_mem_singleton]
    exact hflag

/-! ## Reports with such rows -/

/-- A line that yields no record might as well not be there. -/
theorem readRows_append_cons_of_none {line : List Char} (h : ∀ order, parseRow? line order = none) (order : Int)
    (before after : List (List Char)) :
    readRows order (before ++ line :: after) = readRows order (before ++ after) := by
  rw [readRows_append, readRows_append, readRows, h]

/-- A line that yields a record takes the next number. -/
theorem readRows_append_cons_of_some {line : List Char} {order : Int} {before : List (List Char)}
    {record : InstructionRecord} (h : parseRow? line (order + (readRows order before).length) = some record)
    (after : List (List Char)) :
    readRows order (before ++ line :: after) =
      readRows order before ++ record :: readRows (order + (readRows order before).length + 1) after := by
  rw [readRows_append, readRows, h]

/-- The lines of the table hold no line feeds. -/
theorem lineFeed_not_mem_of_mem_tableLines {text line : List Char} (h : line ∈ tableLines text) : '\n' ∉ line :=
  (oneLine_of_mem_lines ((tableLines_sublist text).subset h)).lineFeed_not_mem

/-- **Rows without an instruction.**  A line that ends behind its columns yields no record, and one with flags behind
them yields one, with the last flag for its instruction.  So in a report only the former take no number, and the
records whose instruction is made of flags are those of the latter. -/
theorem instruction_of_isBare (text : String) :
    (∀ line, IsBare line [] → ∀ order, parseRow? line order = none) ∧
    (∀ line flags flag, IsBare line flags → flags.getLast? = some flag → '\n' ∉ line → ∀ order, ∃ record,
      parseRow? line order = some record ∧ record.order = order ∧ record.instruction = String.ofList flag) ∧
    (∀ record ∈ (readReport text).value.instructions, ∃ row ∈ tableLines text.toList, Yields row record ∧
      ((∀ word ∈ words record.instruction.toList, IsFlag word) ↔ ∃ flags, IsBare row flags)) ∧
    ∀ before line after flags, tableLines text.toList = before ++ line :: after → IsBare line flags →
      (flags = [] → (readReport text).value.instructions = readRows 1 (before ++ after)) ∧
      (flags ≠ [] → ∃ record : InstructionRecord, record.order = 1 + (readRows 1 before).length ∧
        flags.getLast? = some record.instruction.toList ∧
        (readReport text).value.instructions =
          readRows 1 before ++ record :: readRows (record.order + 1) after) := by
  refine ⟨?_, ?_, ?_, ?_⟩
  · exact fun line hbare => hbare.parseRow?_eq_none rfl
  · intro line flags flag hbare hlast oneLine order
    obtain ⟨record, hread, horder, hinstruction, -⟩ := hbare.parseRow?_eq_some hlast oneLine order
    exact ⟨record, hread, horder, hinstruction⟩
  · intro record hrecord
    obtain ⟨before, row, after, htable, hyields, -⟩ := exists_of_mem_readRows hrecord
    have hrow : row ∈ tableLines text.toList := by
      rw [htable]
      simp
    exact ⟨row, hrow, hyields, hyields.isFlag_instruction_iff (lineFeed_not_mem_of_mem_tableLines hrow)⟩
  · intro before line after flags htable hbare
    have hread : (readReport text).value.instructions = readRows 1 (before ++ line :: after) := by
      rw [← htable]
      rfl
    rw [hread]
    constructor
    · intro hnone
      exact readRows_append_cons_of_none (hbare.parseRow?_eq_none hnone) 1 before after
    · intro hsome
      obtain ⟨flag, hlast⟩ : ∃ flag, flags.getLast? = some flag := by
        rwa [← Option.isSome_iff_exists, List.getLast?_isSome]
      have oneLine : '\n' ∉ line := lineFeed_not_mem_of_mem_tableLines (by rw [htable]; simp)
      obtain ⟨record, hrow, horder, hinstruction, -⟩ :=
        hbare.parseRow?_eq_some hlast oneLine (1 + (readRows 1 before).length)
      refine ⟨record, horder, ?_, ?_⟩
      · rw [hlast, hinstruction, String.toList_ofList]
      · rw [readRows_append_cons_of_some hrow, horder]

/-- A row that is cut off behind its columns. -/
def cutOffRow : List Char :=
  [' '] ++ (['1'] ++ ([' '] ++ (['1'] ++ ([' '] ++ ("0.25".toList ++ [' '])))))

/-- A row that is cut off behind its flags. -/
def flaggedRow : List Char :=
  [' '] ++ (['1'] ++ ([' '] ++ (['3'] ++ ([' '] ++ ("1.00".toList ++ "  * U".toList)))))

/-- A row that is whole. -/
def wholeRow : List Char :=
  " 2 2 0.50 nop".toList

/-- A report with these three rows. -/
def cutOffReport : String :=
  "Instruction Info:\n[1] [2] [3] Instructions:\n 1 1 0.25 \n 1 3 1.00  * U\n 2 2 0.50 nop\n"

theorem isBare_cutOffRow : IsBare cutOffRow [] :=
  .columns (List.forall_mem_singleton.mpr rfl) (by decide) (by decide) (by decide) (by decide) (by decide)
    (by rintro c ⟨⟩; decide) (List.forall_mem_nil _)

theorem isBare_flaggedRow : IsBare flaggedRow [['*'], ['U']] :=
  .columns (List.forall_mem_singleton.mpr rfl) (by decide) (by decide) (by decide) (by decide) (by decide)
    (by rintro c ⟨⟩; decide) (by decide)

theorem instruction_of_isBare_cutOff :
    (IsBare cutOffRow [] ∧ parseRow? cutOffRow 4 = none) ∧
    (IsBare flaggedRow [['*'], ['U']] ∧ ∃ record, parseRow? flaggedRow 4 = some record ∧ record.order = 4 ∧
      record.instruction = "U") ∧
    tableLines cutOffReport.toList = [cutOffRow, flaggedRow, wholeRow] ∧
    (readReport cutOffReport).value.instructions = readRows 1 [flaggedRow, wholeRow] ∧
    ∃ record : InstructionRecord, record.order = 1 ∧ record.instruction.toList = ['U'] ∧
      (readReport cutOffReport).value.instructions = record :: readRows 2 [wholeRow] := by
  have htable : tableLines cutOffReport.toList = [cutOffRow, flaggedRow, wholeRow] := by
    decide +kernel
  obtain ⟨hnone, hsome, -, hlines⟩ := instruction_of_isBare cutOffReport
  obtain ⟨record, horder, hlast, hrecords⟩ :=
    (hlines [cutOffRow] flaggedRow [wholeRow] _ htable isBare_flaggedRow).2 (List.cons_ne_nil _ _)
  rw [readRows, hnone _ isBare_cutOffRow] at horder hrecords
  refine ⟨⟨isBare_cutOffRow, hnone _ isBare_cutOffRow 4⟩,
    ⟨isBare_flaggedRow, hsome _ _ ['U'] isBare_flaggedRow rfl (by decide) 4⟩, htable,
    (hlines [] cutOffRow [flaggedRow, wholeRow] _ htable isBare_cutOffRow).1 rfl, record, horder,
    (Option.some.inj hlast).symm, ?_⟩
  rw [hrecords, horder]
  rfl

/-- A line that holds no instruction is not always passed over: a flag is taken for one. -/
theorem not_skipped_of_isBare : ¬∀ line flags, IsBare line flags → ∀ order, parseRow? line order = none := by
  intro skipped
  have hread : (parseRow? flaggedRow 1).isSome = true := by
    decide
  rw [skipped flaggedRow _ isBare_flaggedRow 1] at hread
  cases hread

end SnippetCost
