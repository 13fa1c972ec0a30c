import SnippetCost.Proofs.Report.Labelled

/-!
# Measures from other lines

The blanks between a label and its number may hold line feeds.  So a label at the end of its line takes the number
that the next line with anything on it begins with, whatever that line is about.

* **`measure_of_not_borrows`**: a measure is missing or on the line of its label, unless the first label that counts
  is cut off in this way; and if it is, the lines in between hold nothing but blanks.
* **`not_onLine_borrowedReport`**: a report in which a measure is the number of another line.

The first number alone decides: behind one on the line of its label, labels may be cut off.
-/

namespace SnippetCost

open SnippetCost.Text

/-- Any text is some lines and a beginning of one more. -/
theorem exists_endsLine_append (cs : List Char) :
    ∃ front lead, cs = front ++ lead ∧ EndsLine front ∧ '\n' ∉ lead := by
  induction cs with
  | nil => exact ⟨[], [], rfl, .inl rfl, List.not_mem_nil⟩
  | cons c cs ih =>
      obtain ⟨front, lead, rfl, hfront, hlead⟩ := ih
      rcases hfront with rfl | ⟨start, rfl⟩
      · by_cases hc : c = '\n'
        · exact ⟨[c], lead, rfl, .inr ⟨[], by rw [hc, List.nil_append]⟩, hlead⟩
        · refine ⟨[], c :: lead, rfl, .inl rfl, ?_⟩
          simpa [Ne.symm hc] using hlead
      · exact ⟨c :: (start ++ ['\n']), lead, rfl, .inr ⟨c :: start, rfl⟩, hlead⟩

namespace Metric

/-- The number behind the first label that counts stands below the line of the label. -/
def Borrows (m : Metric) (text : List Char) : Prop :=
  ∃ before gap number after, m.FirstNumber text before gap number after ∧ '\n' ∈ gap

section Borrowed

variable {m : Metric} {text before gap number after : List Char}

/-- Otherwise it is the first number on the line of a label. -/
theorem FirstNumber.firstOnLine (h : m.FirstNumber text before gap number after) (own : ¬m.Borrows text) :
    m.FirstOnLine text before gap number after where
  labels := ⟨h.labels, fun hfeed => own ⟨before, gap, number, after, h, hfeed⟩⟩
  whole := h.whole
  first := fun _ _ _ hlabels => h.first _ _ _ hlabels.toLabels

/-- Behind a label that is cut off, nothing but blanks stands up to its number. -/
theorem FirstNumber.exists_gap_eq (h : m.FirstNumber text before gap number after) (hfeed : '\n' ∈ gap) :
    ∃ trail between lead, gap = trail ++ '\n' :: (between ++ lead) ∧ '\n' ∉ trail ∧ EndsLine between ∧ '\n' ∉ lead ∧
      ∀ c ∈ trail ++ (between ++ lead), isBlank c = true := by
  obtain ⟨trail, below, rfl, htrail⟩ := List.eq_append_cons_of_mem hfeed
  obtain ⟨between, lead, rfl, hbetween, hlead⟩ := exists_endsLine_append below
  refine ⟨trail, between, lead, rfl, htrail, hbetween, hlead, ?_⟩
  intro c hc
  refine h.labels.gap_blank.2 c ?_
  rw [List.mem_append, List.mem_cons]
  exact (List.mem_append.mp hc).imp_right .inr

end Borrowed

end Metric

/-- **No number of another line.**  Unless the number behind the first label that counts stands below the line of the
label, a measure that is not missing is the first number on the line of a label of it, and without such a line the
measure is missing.  If it stands below, the measure is that number all the same: behind the label its line is blank,
and so are the lines in between and what stands in front of the number on its own line. -/
theorem measure_of_not_borrows (text : String) (m : Metric) :
    (¬m.Borrows text.toList →
      ((readReport text).value.summary.measure m ≠ .unavailable →
        ∃ before gap number after, m.FirstOnLine text.toList before gap number after ∧
          m.Converts number ((readReport text).value.summary.measure m)) ∧
      ((∀ before gap rest, ¬m.LabelsOnLine text.toList before gap rest) →
        (readReport text).value.summary.measure m = .unavailable)) ∧
    ∀ before gap number after, m.FirstNumber text.toList before gap number after → '\n' ∈ gap →
      m.Converts number ((readReport text).value.summary.measure m) ∧
      ∃ trail between lead, gap = trail ++ '\n' :: (between ++ lead) ∧ '\n' ∉ trail ∧ EndsLine between ∧
        '\n' ∉ lead ∧ ∀ c ∈ trail ++ (between ++ lead), isBlank c = true := by
  rw [measure_readReport]
  constructor
  · intro hown
    have hpresent : m.extract text.toList ≠ .unavailable → ∃ before gap number after,
        m.FirstOnLine text.toList before gap number after ∧ m.Converts number (m.extract text.toList) := by
      intro hne
      obtain ⟨before, gap, number, after, hfirst⟩ := Metric.exists_firstNumber_of_extract_ne hne
      exact ⟨before, gap, number, after, hfirst.firstOnLine hown, hfirst.converts⟩
    refine ⟨hpresent, ?_⟩
    intro hnone
    by_contra hne
    obtain ⟨before, gap, number, after, hfirst, -⟩ := hpresent hne
    exact hnone _ _ _ hfirst.labels
  · intro before gap number after hfirst hfeed
    exact ⟨hfirst.converts, hfirst.exists_gap_eq hfeed⟩

/-- A report that is cut off behind a label, with another line below. -/
def borrowedReport : String :=
  "Total Cycles:\n\n5 things\n"

/-- No label of it has a number on its line. -/
theorem not_labelsOnLine_borrowedReport (m : Metric) (before gap rest : List Char) :
    ¬m.LabelsOnLine borrowedReport.toList before gap rest := by
  intro hlabels
  obtain ⟨name, hname, -⟩ := m.exists_label_eq
  have hcolons : "Total Cycles".toList ++ ':' :: "\n\n5 things\n".toList =
      (before ++ name) ++ ':' :: (gap ++ rest) := by
    have heq := hlabels.text_eq
    rw [hname] at heq
    simpa [borrowedReport] using heq
  obtain ⟨-, -, hbehind⟩ := (List.append_cons_inj_of_notMem (by decide) (by decide)).mp hcolons
  obtain ⟨c, cs, rfl⟩ := List.exists_cons_of_ne_nil hlabels.gap_blank.1
  obtain rfl : '\n' = c := (List.cons.inj hbehind).1
  exact hlabels.on_line List.mem_cons_self

/-- **A borrowed number.**  A measure that is not missing need not stand on the line of a label. -/
theorem not_onLine_borrowedReport :
    ¬∀ (text : String) (m : Metric), (readReport text).value.summary.measure m ≠ .unavailable →
      ∃ before gap number after, m.LabelsOnLine text.toList before gap (number ++ after) ∧
        m.Converts number ((readReport text).value.summary.measure m) := by
  intro h
  have hread : (readReport borrowedReport).value.summary.measure .totalCycles = .count 5 := by
    decide +kernel
  obtain ⟨before, gap, number, after, hlabels, -⟩ := h borrowedReport .totalCycles (by
    rw [hread]
    exact nofun)
  exact not_labelsOnLine_borrowedReport _ before gap _ hlabels

end SnippetCost
