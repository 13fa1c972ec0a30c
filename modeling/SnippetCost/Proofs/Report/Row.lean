import SnippetCost.Proofs.Report.Column
import SnippetCost.Proofs.Text.Lines

/-!
# Rows of the instruction table

`IsRow` says which lines have the shape of a row, without the reader: three numbers, blanks between them,
and behind them a text with something on it that is not blank.  Such a line yields a record and no other
line does (`isSome_parseRow?_iff`).

A `WrittenRow` is a row somebody wrote: its columns, the flags, the instruction, and the blanks between
them, whatever their number.  The reader finds the columns and the instruction again and drops the flags
(`parseRow?_line`).
-/

namespace SnippetCost

open SnippetCost.Text

/-! ## The grammar of a row -/

/-- A line in the shape of a row. -/
inductive IsRow : List Char → Prop where
  | columns {lead uops gap₁ latency gap₂ throughput gap₃ body trail : List Char}
      (lead_blank : ∀ c ∈ lead, isBlank c = true)
      (uops_digits : IsDigits uops) (gap₁_blank : IsGap gap₁)
      (latency_digits : IsDigits latency) (gap₂_blank : IsGap gap₂)
      (throughput_decimal : IsDecimal throughput) (gap₃_blank : IsGap gap₃)
      (body_ne_nil : body ≠ []) (body_dark : StartsDark body) (body_oneLine : '\n' ∉ body)
      (trail_blank : ∀ c ∈ trail, isBlank c = true) :
      IsRow (lead ++ (uops ++ (gap₁ ++ (latency ++ (gap₂ ++ (throughput ++ (gap₃ ++
        (body ++ trail))))))))

/-- A line that yields a record has the shape of a row. -/
theorem isRow_of_parseRow?_eq_some {line : List Char} {order : Int} {record : InstructionRecord}
    (h : parseRow? line order = some record) : IsRow line := by
  unfold parseRow? at h
  simp only [Option.bind_eq_bind, Option.bind_eq_some_iff, Prod.exists] at h
  obtain ⟨uops, cs₁, h₁, latency, cs₂, h₂, throughput, cs₃, h₃, h⟩ := h
  split at h
  · cases h
  · rename_i hrest
    rw [Bool.or_eq_true, not_or, List.isEmpty_iff, List.contains_iff_mem] at hrest
    obtain ⟨gap₁, hline, huops, hgap₁, -⟩ := eq_of_takeColumn?_eq_some h₁
    obtain ⟨gap₂, rfl, hlatency, hgap₂, -⟩ := eq_of_takeColumn?_eq_some h₂
    obtain ⟨gap₃, rfl, hthroughput, hgap₃, hdark⟩ := eq_of_takeColumn?_eq_some h₃
    obtain ⟨trail, htrim, htrail⟩ := exists_trimEnd_append cs₃
    have hbody : StartsDark (trimEnd cs₃) := by
      obtain ⟨c, body, hc⟩ := List.exists_cons_of_ne_nil hrest.1
      rw [htrim, hc] at hdark
      rw [hc]
      exact hdark
    rw [← List.takeWhile_append_dropWhile (p := isBlank) (l := line), hline, htrim]
    exact .columns (fun c hc => List.mem_takeWhile_imp hc) huops hgap₁ hlatency hgap₂ hthroughput
      hgap₃ hrest.1 hbody hrest.2 htrail

/-! ## Dropping flags -/

/-- Flags as they are written, each with the blanks behind it. -/
def flagText (flags : List (List Char × List Char)) : List Char :=
  flags.flatMap fun (flag, gap) => flag ++ gap

@[simp] theorem flagText_nil : flagText [] = [] := rfl

@[simp] theorem flagText_cons (flag gap : List Char) (flags : List (List Char × List Char)) :
    flagText ((flag, gap) :: flags) = flag ++ (gap ++ flagText flags) :=
  List.append_assoc flag gap (flagText flags)

/-- Flags and blanks, and something other than a blank behind them. -/
theorem startsDark_flagText {flags : List (List Char × List Char)}
    (hflags : ∀ f ∈ flags, IsFlag f.1 ∧ IsGap f.2) {rest : List Char} (hrest : StartsDark rest) :
    StartsDark (flagText flags ++ rest) := by
  cases flags with
  | nil => exact hrest
  | cons f flags =>
      obtain ⟨flag, gap⟩ := f
      have hf := (hflags _ List.mem_cons_self).1
      rw [flagText_cons, List.append_assoc]
      exact StartsDark.append hf.ne_nil (startsDark_of_forall hf.isBlank_eq_false) _

/-- Flags are dropped as long as something stands behind them. -/
theorem dropFlags_flagText_append {flags : List (List Char × List Char)}
    (hflags : ∀ f ∈ flags, IsFlag f.1 ∧ IsGap f.2) {rest : List Char} (hne : rest ≠ [])
    (hdark : StartsDark rest) :
    dropFlags (words (flagText flags ++ rest)) (flagText flags ++ rest) = dropFlags (words rest) rest := by
  induction flags with
  | nil => rfl
  | cons f flags ih =>
      obtain ⟨flag, gap⟩ := f
      rw [List.forall_mem_cons] at hflags
      obtain ⟨⟨hflag, hgap⟩, hflags⟩ := hflags
      have hstarts := startsDark_flagText hflags hdark
      -- Behind the flag there is another word, so it is not the last one.
      have hnext : ∃ next more, words (flagText flags ++ rest) = next :: more := by
        obtain ⟨c, cs, hc⟩ := List.exists_cons_of_ne_nil
          (List.append_ne_nil_of_right_ne_nil (flagText flags) hne)
        rw [hc] at hstarts ⊢
        exact ⟨_, _, words_cons (hstarts c rfl) cs⟩
      obtain ⟨next, more, hwords⟩ := hnext
      rw [flagText_cons, List.append_assoc, List.append_assoc,
        words_word_append hflag.ne_nil hflag.isBlank_eq_false hgap.1 hgap.2, hwords]
      have hbehind : (gap ++ (flagText flags ++ rest)).dropWhile isBlank = flagText flags ++ rest :=
        dropWhile_run hgap.2 hstarts
      rw [dropFlags, if_pos (isFlag_iff.mpr hflag), List.drop_left, hbehind, ← hwords]
      exact ih hflags

/-- All flags are dropped and nothing else, where the first word behind them is none. -/
theorem dropFlags_flagText {flags : List (List Char × List Char)}
    (hflags : ∀ f ∈ flags, IsFlag f.1 ∧ IsGap f.2) {instruction : List Char}
    (hne : instruction ≠ []) (hdark : StartsDark instruction)
    (hword : ¬IsFlag (instruction.takeWhile (!isBlank ·))) :
    dropFlags (words (flagText flags ++ instruction)) (flagText flags ++ instruction) =
      instruction := by
  rw [dropFlags_flagText_append hflags hne hdark]
  obtain ⟨c, cs, rfl⟩ := List.exists_cons_of_ne_nil hne
  rw [words_cons (hdark c rfl)]
  rw [← isFlag_iff] at hword
  unfold dropFlags
  split <;> simp_all

/-! ## Reading a row -/

/-- The first two columns are whole numbers. -/
theorem takeColumn?_digits {digits gap rest : List Char} (hdigits : IsDigits digits)
    (hgap : IsGap gap) (hrest : StartsDark rest) :
    takeColumn? false (digits ++ (gap ++ rest)) = some (digits, rest) :=
  takeColumn?_number hdigits hgap hrest

/-- The third one may have a fraction. -/
theorem takeColumn?_decimal {number gap rest : List Char} (hnumber : IsDecimal number)
    (hgap : IsGap gap) (hrest : StartsDark rest) :
    takeColumn? true (number ++ (gap ++ rest)) = some (number, rest) :=
  takeColumn?_number hnumber hgap hrest

/-- A line in the shape of a row yields a record: its three columns as they stand, and what the flags leave
of the text behind them. -/
theorem parseRow?_columns {lead uops gap₁ latency gap₂ throughput gap₃ body trail : List Char}
    (hlead : ∀ c ∈ lead, isBlank c = true) (huops : IsDigits uops) (hgap₁ : IsGap gap₁)
    (hlatency : IsDigits latency) (hgap₂ : IsGap gap₂) (hthroughput : IsDecimal throughput)
    (hgap₃ : IsGap gap₃) (hne : body ≠ []) (hdark : StartsDark body) (hfeed : '\n' ∉ body)
    (htrim : trimEnd body = body) (htrail : ∀ c ∈ trail, isBlank c = true) (order : Int) :
    parseRow? (lead ++ (uops ++ (gap₁ ++ (latency ++ (gap₂ ++ (throughput ++ (gap₃ ++
      (body ++ trail)))))))) order =
    some { order := order
           uops := String.ofList uops
           latency := String.ofList latency
           throughput := String.ofList throughput
           instruction := String.ofList (dropFlags (words body) body) } := by
  -- Behind each gap a column begins, so every column ends where the grammar has it end.
  have dark₁ : StartsDark (uops ++ (gap₁ ++ (latency ++ (gap₂ ++ (throughput ++ (gap₃ ++
      (body ++ trail))))))) :=
    (startsDark_of_forall huops.isBlank_eq_false).append huops.1 _
  have dark₂ : StartsDark (latency ++ (gap₂ ++ (throughput ++ (gap₃ ++ (body ++ trail))))) :=
    (startsDark_of_forall hlatency.isBlank_eq_false).append hlatency.1 _
  have dark₃ : StartsDark (throughput ++ (gap₃ ++ (body ++ trail))) :=
    (startsDark_of_forall hthroughput.isBlank_eq_false).append hthroughput.ne_nil _
  have hend : trimEnd (body ++ trail) = body := by
    rw [trimEnd_append_blanks _ htrail, htrim]
  unfold parseRow?
  rw [dropWhile_run hlead dark₁, takeColumn?_digits huops hgap₁ dark₂]
  simp only [Option.bind_eq_bind, Option.bind_some]
  rw [takeColumn?_digits hlatency hgap₂ dark₃]
  simp only [Option.bind_some]
  rw [takeColumn?_decimal hthroughput hgap₃ (hdark.append hne trail)]
  simp [hend, hne, hfeed]

/-- Trimming leaves the start of a text that begins with something other than a blank. -/
theorem startsDark_trimEnd {cs : List Char} (hne : cs ≠ []) (hdark : StartsDark cs) :
    trimEnd cs ≠ [] ∧ StartsDark (trimEnd cs) := by
  obtain ⟨blanks, hcs, hblanks⟩ := exists_trimEnd_append cs
  have htrim : trimEnd cs ≠ [] := by
    intro hnil
    rw [hnil, List.nil_append] at hcs
    obtain ⟨c, rest, hc⟩ := List.exists_cons_of_ne_nil hne
    have hblank : isBlank c = true := hblanks c (by rw [← hcs, hc]; exact List.mem_cons_self)
    rw [hdark c (by rw [hc]; rfl)] at hblank
    cases hblank
  refine ⟨htrim, ?_⟩
  intro c hc
  refine hdark c ?_
  rw [hcs]
  exact List.mem_head?_append_of_mem_head? hc

/-- The lines that yield a record are those in the shape of a row. -/
theorem isSome_parseRow?_iff {line : List Char} (order : Int) :
    (parseRow? line order).isSome = true ↔ IsRow line := by
  constructor
  · intro h
    obtain ⟨record, hrecord⟩ := Option.isSome_iff_exists.mp h
    exact isRow_of_parseRow?_eq_some hrecord
  · intro h
    cases h with
    | @columns lead uops gap₁ latency gap₂ throughput gap₃ body trail hlead huops hgap₁ hlatency hgap₂
        hthroughput hgap₃ hne hdark hfeed htrail =>
        -- The blanks at the end of the body belong to the end of the line.
        obtain ⟨blanks, hbody, hblanks⟩ := exists_trimEnd_append body
        obtain ⟨htrim, htrimDark⟩ := startsDark_trimEnd hne hdark
        have hend : ∀ c ∈ blanks ++ trail, isBlank c = true := by
          rw [List.forall_mem_append]
          exact ⟨hblanks, htrail⟩
        have htrimFeed : '\n' ∉ trimEnd body := by
          intro hmem
          rw [hbody] at hfeed
          exact hfeed (List.mem_append_left blanks hmem)
        rw [hbody, List.append_assoc (trimEnd body), parseRow?_columns hlead huops hgap₁ hlatency
          hgap₂ hthroughput hgap₃ htrim htrimDark htrimFeed (trimEnd_trimEnd body) hend]
        rfl

instance (line : List Char) : Decidable (IsRow line) :=
  decidable_of_iff _ (isSome_parseRow?_iff 0)

/-! ## Rows as they are written -/

/-- Blanks within a line. -/
def IsSpace (cs : List Char) : Prop :=
  ∀ c ∈ cs, isBlank c = true ∧ isLineBreak c = false

instance (cs : List Char) : Decidable (IsSpace cs) :=
  List.decidableBAll _ cs

/-- Space is blank. -/
theorem IsSpace.isBlank {cs : List Char} (h : IsSpace cs) : ∀ c ∈ cs, isBlank c = true :=
  fun c hc => (h c hc).1

/-- Space breaks no line. -/
theorem IsSpace.oneLine {cs : List Char} (h : IsSpace cs) : OneLine cs :=
  fun c hc => (h c hc).2

/-- Every character that breaks a line is blank. -/
theorem oneLine_of_isBlank_eq_false {cs : List Char} (h : ∀ c ∈ cs, isBlank c = false) :
    OneLine cs :=
  fun c hc => isLineBreak_of_not_isBlank (h c hc)

/-- A row as it is written on one line: what stands in its columns, and the blanks around and between
them. -/
structure WrittenRow where
  uops : List Char
  latency : List Char
  throughput : List Char
  /-- The flags, each with the blanks behind it. -/
  flags : List (List Char × List Char)
  instruction : List Char
  lead : List Char
  behindUops : List Char
  behindLatency : List Char
  behindThroughput : List Char
  trail : List Char
  uops_digits : IsDigits uops
  latency_digits : IsDigits latency
  throughput_decimal : IsDecimal throughput
  flags_flag : ∀ f ∈ flags, IsFlag f.1
  instruction_ne_nil : instruction ≠ []
  instruction_trimmed : trim instruction = instruction
  instruction_oneLine : OneLine instruction
  /-- The first word of the instruction could not be taken for one more flag. -/
  instruction_firstWord : ¬IsFlag (instruction.takeWhile (!isBlank ·))
  lead_space : IsSpace lead
  behindUops_space : behindUops ≠ [] ∧ IsSpace behindUops
  behindLatency_space : behindLatency ≠ [] ∧ IsSpace behindLatency
  behindThroughput_space : behindThroughput ≠ [] ∧ IsSpace behindThroughput
  flags_space : ∀ f ∈ flags, f.2 ≠ [] ∧ IsSpace f.2
  trail_space : IsSpace trail

namespace WrittenRow

/-- The line of a row. -/
def line (r : WrittenRow) : List Char :=
  r.lead ++ (r.uops ++ (r.behindUops ++ (r.latency ++ (r.behindLatency ++ (r.throughput ++
    (r.behindThroughput ++ ((flagText r.flags ++ r.instruction) ++ r.trail)))))))

/-- The record of a row that has a number among the rows. -/
def record (r : WrittenRow) (order : Int) : InstructionRecord where
  order := order
  uops := String.ofList r.uops
  latency := String.ofList r.latency
  throughput := String.ofList r.throughput
  instruction := String.ofList r.instruction

variable (r : WrittenRow)

/-- Behind every flag there is a gap. -/
theorem flags_isFlag_isGap : ∀ f ∈ r.flags, IsFlag f.1 ∧ IsGap f.2 := fun f hf =>
  ⟨r.flags_flag f hf, (r.flags_space f hf).1, (r.flags_space f hf).2.isBlank⟩

/-- Behind each of the columns there is one, too. -/
theorem isGap_behindUops : IsGap r.behindUops :=
  ⟨r.behindUops_space.1, r.behindUops_space.2.isBlank⟩

theorem isGap_behindLatency : IsGap r.behindLatency :=
  ⟨r.behindLatency_space.1, r.behindLatency_space.2.isBlank⟩

theorem isGap_behindThroughput : IsGap r.behindThroughput :=
  ⟨r.behindThroughput_space.1, r.behindThroughput_space.2.isBlank⟩

/-- Flags and gaps break no line. -/
theorem oneLine_flagText : OneLine (flagText r.flags) := by
  intro c hc
  obtain ⟨f, hf, hc⟩ := List.mem_flatMap.mp hc
  rcases List.mem_append.mp hc with hc | hc
  · exact oneLine_of_isBlank_eq_false (r.flags_flag f hf).isBlank_eq_false c hc
  · exact (r.flags_space f hf).2.oneLine c hc

/-- A row is one line. -/
theorem oneLine_line : OneLine r.line := by
  simp only [line, oneLine_append]
  exact ⟨r.lead_space.oneLine, oneLine_of_isBlank_eq_false r.uops_digits.isBlank_eq_false,
    r.behindUops_space.2.oneLine, oneLine_of_isBlank_eq_false r.latency_digits.isBlank_eq_false,
    r.behindLatency_space.2.oneLine,
    oneLine_of_isBlank_eq_false r.throughput_decimal.isBlank_eq_false,
    r.behindThroughput_space.2.oneLine, ⟨r.oneLine_flagText, r.instruction_oneLine⟩,
    r.trail_space.oneLine⟩

/-- What stands behind the three numbers begins with a flag or with the instruction. -/
theorem startsDark_body : StartsDark (flagText r.flags ++ r.instruction) :=
  startsDark_flagText r.flags_isFlag_isGap (startsDark_of_trim_eq r.instruction_trimmed)

/-- A row that somebody wrote has the shape of a row. -/
theorem isRow_line : IsRow r.line :=
  .columns r.lead_space.isBlank r.uops_digits r.isGap_behindUops r.latency_digits
    r.isGap_behindLatency r.throughput_decimal r.isGap_behindThroughput
    (List.append_ne_nil_of_right_ne_nil _ r.instruction_ne_nil) r.startsDark_body
    (oneLine_append.mpr ⟨r.oneLine_flagText, r.instruction_oneLine⟩).lineFeed_not_mem
    r.trail_space.isBlank

/-- **A row reads back.**  However it is spaced and whatever flags it has, its record is read. -/
theorem parseRow?_line (order : Int) : parseRow? r.line order = some (r.record order) := by
  have hne : flagText r.flags ++ r.instruction ≠ [] :=
    List.append_ne_nil_of_right_ne_nil _ r.instruction_ne_nil
  have hfeed : '\n' ∉ flagText r.flags ++ r.instruction :=
    (oneLine_append.mpr ⟨r.oneLine_flagText, r.instruction_oneLine⟩).lineFeed_not_mem
  have htrim : trimEnd (flagText r.flags ++ r.instruction) = flagText r.flags ++ r.instruction :=
    trimEnd_append r.instruction_ne_nil (trimEnd_of_trim_eq r.instruction_trimmed) _
  unfold line record
  rw [parseRow?_columns r.lead_space.isBlank r.uops_digits r.isGap_behindUops r.latency_digits
    r.isGap_behindLatency r.throughput_decimal r.isGap_behindThroughput hne r.startsDark_body hfeed
    htrim r.trail_space.isBlank]
  rw [dropFlags_flagText r.flags_isFlag_isGap r.instruction_ne_nil
    (startsDark_of_trim_eq r.instruction_trimmed) r.instruction_firstWord]

end WrittenRow

end SnippetCost
