import SnippetCost.Proofs.Json.Document
import SnippetCost.Proofs.Report.Numeral
import SnippetCost.Result.Basic

/-!
# Results as JSON texts

What a measure of a report is depends on the number behind its label alone (`Metric.Reads`).  One of the cases is
a ratio that is too large for the format: it is read, as infinity, and written as a word that is not in the grammar
of JSON.

* **`isDocument_jsonText_iff`**: the JSON text of a result is one of the grammar, with any indentation, exactly if
  no ratio of its report overflows; all that is not infinite is missing or a number that is not negative;
* **`not_isDocument_overlongRatio`**: there are reports with such a ratio.
-/

namespace SnippetCost

open SnippetCost.Text SnippetCost.Number

/-! ## What measures are -/

/-- What a measure is, by what stands behind its label. -/
inductive Metric.Reads (m : Metric) (text : List Char) : Measure → Prop where
  | missing (none : m.findNumber? true text = none) : m.Reads text .unavailable
  | overlong {number : List Char} (count : m.isRatio = false) (found : m.findNumber? true text = some number)
      (long : maxIntegerDigits < number.length) : m.Reads text .unavailable
  | count {number : List Char} (count : m.isRatio = false) (found : m.findNumber? true text = some number)
      (short : number.length ≤ maxIntegerDigits) : m.Reads text (.count (digitsValue number : Nat))
  | ratio {number : List Char} {units : Nat} (ratio : m.isRatio = true)
      (found : m.findNumber? true text = some number) (inRange : magnitude number < rangeEnd) :
      m.Reads text (.ratio (.finite false units))
  | infinite {number : List Char} (ratio : m.isRatio = true) (found : m.findNumber? true text = some number)
      (outOfRange : (rangeEnd : ℚ) ≤ magnitude number) : m.Reads text (.ratio (.infinite false))

/-- The measure is a ratio, and the number behind its label reaches the end of the range. -/
def Metric.Overflows (m : Metric) (text : List Char) : Prop :=
  m.isRatio = true ∧ ∃ number, m.findNumber? true text = some number ∧ (rangeEnd : ℚ) ≤ magnitude number

/-- The measure is missing, or a finite number. -/
def Measure.isFinite : Measure → Bool
  | .unavailable => true
  | .count _ => true
  | .ratio x => x.isFinite

/-- A count is missing only if it has too many digits. -/
theorem Metric.reads_count {m : Metric} {text number : List Char} (count : m.isRatio = false)
    (found : m.findNumber? true text = some number) :
    m.Reads text ((m.reading? (String.ofList number)).getD .unavailable) := by
  have hdigits : IsDigits number := by
    have hnumber := m.isNumber_of_findNumber? found
    rw [count] at hnumber
    exact hnumber
  rw [getD_reading?_count count hdigits]
  by_cases hlong : maxIntegerDigits < number.length
  · rw [if_pos hlong]
    exact .overlong count found hlong
  · rw [if_neg hlong]
    exact .count count found (Nat.not_lt.mp hlong)

/-- A ratio is never missing, but it may be infinite. -/
theorem Metric.reads_ratio {m : Metric} {text number : List Char} (ratio : m.isRatio = true)
    (found : m.findNumber? true text = some number) :
    m.Reads text ((m.reading? (String.ofList number)).getD .unavailable) := by
  have hdecimal : IsDecimal number := by
    have hnumber := m.isNumber_of_findNumber? found
    rw [ratio] at hnumber
    exact hnumber
  have hborder := readDecimal?_eq_infinite_iff hdecimal
  rw [reading?, ratio]
  rcases readDecimal?_decimal_eq hdecimal with ⟨units, hread⟩ | hread
  · have hrange : magnitude number < rangeEnd := by
      rw [← not_le, ← hborder, hread]
      simp
    rw [hread]
    exact .ratio ratio found hrange
  · rw [hread]
    exact .infinite ratio found (hborder.mp hread)

/-- Every measure of a report is one of these. -/
theorem Metric.reads_extract (m : Metric) (text : List Char) : m.Reads text (m.extract text) := by
  rw [m.extract_eq]
  cases hfound : m.findNumber? true text with
  | none => exact .missing hfound
  | some number =>
      rw [Option.bind_some]
      cases hratio : m.isRatio with
      | false => exact m.reads_count hratio hfound
      | true => exact m.reads_ratio hratio hfound

/-- A measure that is not finite is one that overflows. -/
theorem Metric.Reads.isFinite_eq_false_iff {m : Metric} {text : List Char} {measure : Measure}
    (h : m.Reads text measure) : measure.isFinite = false ↔ m.Overflows text := by
  -- No other case is both a ratio and out of range.
  have unfound : (∀ number, m.isRatio = true → m.findNumber? true text = some number →
      magnitude number < rangeEnd) → ¬m.Overflows text := by
    rintro hrange ⟨hratio, number, hfound, hborder⟩
    exact absurd (hrange number hratio hfound) (not_lt.mpr hborder)
  cases h with
  | missing hnone =>
      refine iff_of_false nofun (unfound ?_)
      intro number _ hfound
      rw [hnone] at hfound
      cases hfound
  | overlong hcount hfound hlong =>
      refine iff_of_false nofun (unfound ?_)
      intro number hratio _
      rw [hcount] at hratio
      cases hratio
  | count hcount hfound hshort =>
      refine iff_of_false nofun (unfound ?_)
      intro number hratio _
      rw [hcount] at hratio
      cases hratio
  | ratio hratio hfound hrange =>
      refine iff_of_false nofun (unfound ?_)
      intro number _ hfound'
      rw [hfound, Option.some.injEq] at hfound'
      rwa [← hfound']
  | infinite hratio hfound hborder => exact iff_of_true rfl ⟨hratio, _, hfound, hborder⟩

/-- If it is not finite it is infinite, and never undefined. -/
theorem Metric.Reads.eq_infinite {m : Metric} {text : List Char} {measure : Measure}
    (h : m.Reads text measure) (hfinite : measure.isFinite = false) : measure = .ratio (.infinite false) := by
  cases h with
  | infinite => rfl
  | _ => cases hfinite

/-! ## What results are written as -/

@[simp] theorem Measure.isFinite_json (measure : Measure) : measure.json.isFinite = measure.isFinite := by
  cases measure <;> rfl

theorem Summary.isFinite_json (s : Summary) :
    s.json.isFinite = true ↔ ∀ m, (s.measure m).isFinite = true := by
  simp only [Summary.json, Json.isFinite, Json.fieldsFinite, Measure.isFinite_json, Bool.and_eq_true, and_true]
  constructor
  · rintro ⟨_, _, _, _, _, _, _, _⟩ m
    cases m <;> assumption
  · intro h
    exact ⟨h .totalCycles, h .blockThroughput, h .iterations, h .instructionCount, h .totalUops,
      h .dispatchWidth, h .uopsPerCycle, h .ipc⟩

theorem InstructionRecord.isFinite_json (r : InstructionRecord) : r.json.isFinite = true := rfl

/-- Only the measures of a result are decimals. -/
theorem AnalysisResult.isFinite_json (r : AnalysisResult) :
    r.json.isFinite = true ↔ ∀ m, (r.summary.measure m).isFinite = true := by
  have hrecords : Json.itemsFinite (r.instructions.map InstructionRecord.json) = true := by
    rw [Json.itemsFinite_eq_all, List.all_map, List.all_eq_true]
    intro record _
    exact record.isFinite_json
  have hmeasures : r.json.isFinite = true ↔ r.summary.totalCycles.isFinite = true ∧
      r.summary.blockThroughput.isFinite = true ∧ r.summary.json.isFinite = true := by
    simp [AnalysisResult.json, Json.isFinite, Json.fieldsFinite, hrecords]
  rw [hmeasures, Summary.isFinite_json]
  constructor
  · rintro ⟨-, -, h⟩
    exact h
  · intro h
    exact ⟨h .totalCycles, h .blockThroughput, h⟩

/-- A result is written as JSON exactly if its measures are finite. -/
theorem AnalysisResult.isDocument_iff_isFinite (r : AnalysisResult) (indent : Option Nat) :
    Json.IsDocument (r.jsonText indent).toList ↔ ∀ m, (r.summary.measure m).isFinite = true := by
  rw [jsonText, Json.isDocument_render_iff, r.isFinite_json]

theorem reads_readReport (text : String) (m : Metric) :
    m.Reads text.toList ((readReport text).value.summary.measure m) := by
  rw [measure_readReport]
  exact m.reads_extract text.toList

/-- The result of a target, with any instructions and texts, that has the measures of a report. -/
def resultOf (text targetId targetLabel assembly report : String) (instructions : List InstructionRecord) :
    AnalysisResult :=
  { targetId := targetId
    targetLabel := targetLabel
    summary := (readReport text).value.summary
    instructions := instructions
    assembly := assembly
    report := report }

/-- A ratio that overflows keeps a result from being written as JSON, and nothing else does. -/
theorem isDocument_resultOf_iff (text targetId targetLabel assembly report : String)
    (instructions : List InstructionRecord) (indent : Option Nat) :
    Json.IsDocument ((resultOf text targetId targetLabel assembly report instructions).jsonText indent).toList ↔
      ∀ m : Metric, ¬m.Overflows text.toList := by
  rw [AnalysisResult.isDocument_iff_isFinite]
  apply forall_congr'
  intro m
  rw [← (reads_readReport text m).isFinite_eq_false_iff, Bool.not_eq_false]
  rfl

/-- **Which results are written as JSON**, and what the measures of a report are. -/
theorem isDocument_jsonText_iff (text : String) :
    (∀ m : Metric, m.Reads text.toList ((readReport text).value.summary.measure m)) ∧
      (∀ m : Metric, ((readReport text).value.summary.measure m).isFinite = false ↔
        m.Overflows text.toList) ∧
      ∀ (targetId targetLabel assembly report : String) (instructions : List InstructionRecord)
        (indent : Option Nat),
        Json.IsDocument
            ((resultOf text targetId targetLabel assembly report instructions).jsonText indent).toList ↔
          ∀ m : Metric, ¬m.Overflows text.toList := by
  refine ⟨reads_readReport text, ?_, ?_⟩
  · intro m
    exact (reads_readReport text m).isFinite_eq_false_iff
  · intro targetId targetLabel assembly report instructions indent
    exact isDocument_resultOf_iff text targetId targetLabel assembly report instructions indent

/-- A ratio of 309 digits behind its first one. -/
def charsOfOverlongRatio : List Char :=
  "IPC: 1".toList ++ List.replicate 309 '0'

/-- A report with such a ratio. -/
def overlongRatio : String :=
  String.ofList charsOfOverlongRatio

theorem overflows_overlongRatio : Metric.ipc.Overflows overlongRatio.toList := by
  have hfound : Metric.ipc.findNumber? true charsOfOverlongRatio = some ('1' :: List.replicate 309 '0') := by
    decide +kernel
  have hlarge : rangeEnd ≤ digitsValue ('1' :: List.replicate 309 '0') := by
    decide +kernel
  have hpoint : '.' ∉ '1' :: List.replicate 309 '0' := by
    decide +kernel
  rw [overlongRatio, String.toList_ofList]
  refine ⟨rfl, '1' :: List.replicate 309 '0', hfound, ?_⟩
  rw [magnitude_of_pointless hpoint, Nat.cast_le]
  exact hlarge

/-- A ratio can be infinite, and no result with it is written as JSON. -/
theorem not_isDocument_overlongRatio :
    (readReport overlongRatio).value.summary.measure .ipc = .ratio (.infinite false) ∧
      ∀ (targetId targetLabel assembly report : String) (instructions : List InstructionRecord)
        (indent : Option Nat),
        ¬Json.IsDocument
          ((resultOf overlongRatio targetId targetLabel assembly report instructions).jsonText indent).toList := by
  have hreads := reads_readReport overlongRatio .ipc
  refine ⟨hreads.eq_infinite (hreads.isFinite_eq_false_iff.mpr overflows_overlongRatio), ?_⟩
  intro targetId targetLabel assembly report instructions indent hdocument
  rw [isDocument_resultOf_iff] at hdocument
  exact hdocument .ipc overflows_overlongRatio

end SnippetCost
