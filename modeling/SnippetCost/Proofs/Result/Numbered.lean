import SnippetCost.Proofs.Number.Order
import SnippetCost.Proofs.Report.Records
import SnippetCost.Proofs.Result.Arrangement

/-!
# The arrangements of a result

A result is arranged as it should be if its records have numbers of their own that the 64-bit format has, and if
their columns read as numbers that are defined (`Numbered`).  The records of a report are of this kind
(`numbered_readReport`) and come in issue order.

**`AnalysisResult.arranged`** puts this together: a result is sorted by every column in both directions, the issue
order does not depend on how the records come, and for a report it is the order of the report, which sorting by
the numbers gives back.
-/

namespace SnippetCost

open SnippetCost.Text SnippetCost.Number

/-- Records with numbers of their own that the 64-bit format has, and with columns that are defined numbers. -/
structure Numbered (records : List InstructionRecord) : Prop where
  distinct : (records.map (·.order)).Nodup
  order_le : ∀ r ∈ records, r.order.natAbs ≤ 2 ^ 53
  columns_read : ∀ r ∈ records, ∀ column ∈ [r.uops, r.latency, r.throughput],
    ∃ x, readDecimal? column = some x ∧ x ≠ .nan

section Numbered

variable {records : List InstructionRecord}

/-- The number of a record as the key it is in the column of the numbers. -/
theorem sortKey_order {r : InstructionRecord} (h : r.order.natAbs ≤ 2 ^ 53) :
    r.sortKey .order = .ok (.number (Binary64.ofInt r.order)) := by
  have hfinite : (Binary64.ofInt r.order).isFinite = true := by
    rw [Binary64.ofInt_eq h]
    rfl
  rw [InstructionRecord.sortKey, numberOfInt, if_pos hfinite]
  rfl

/-- Such records have a place in every column. -/
theorem Numbered.sortable (h : Numbered records) (column : SortColumn) : ∀ r ∈ records, r.Sortable column := by
  intro r hr
  have hcolumns := h.columns_read r hr
  simp only [List.forall_mem_cons] at hcolumns
  obtain ⟨huops, hlatency, hthroughput, -⟩ := hcolumns
  cases column with
  | order =>
      refine ⟨_, sortKey_order (h.order_le r hr), ?_⟩
      rw [Binary64.ofInt_eq (h.order_le r hr)]
      rfl
  | uops => exact exists_ordered_of_read huops
  | latency => exact exists_ordered_of_read hlatency
  | throughput => exact exists_ordered_of_read hthroughput
  | instruction => exact ⟨_, rfl, rfl⟩

/-- Records that come in the order of their column of numbers come in issue order. -/
theorem InstructionRecord.Precedes.order_lt {r s : InstructionRecord} (h : r.Precedes .order false s)
    (hr : r.order.natAbs ≤ 2 ^ 53) (hs : s.order.natAbs ≤ 2 ^ 53) : r.order < s.order := by
  have atMost : ∀ {a b : InstructionRecord}, a.order.natAbs ≤ 2 ^ 53 → b.order.natAbs ≤ 2 ^ 53 →
      (a.AtMost .order b ↔ a.order ≤ b.order) := by
    intro a b ha hb
    rw [← not_lt, ← decide_eq_false_iff_not, ← Binary64.ofInt_lt_ofInt hb ha,
      atMost_iff_before (sortKey_order ha) (sortKey_order hb), SortKey.before]
  have hle : r.order ≤ s.order := (atMost hr hs).mp (h.rises rfl)
  by_contra hnot
  exact hnot (h.ties (h.rises rfl) ((atMost hs hr).mpr (not_lt.mp hnot)))

/-- Sorted by their numbers the records are in issue order. -/
theorem Numbered.sortRecords_order (h : Numbered records) :
    sortRecords records .order false = .ok (inIssueOrder records) := by
  obtain ⟨sorted, hsorted, hperm, harranged⟩ := exists_sortRecords_pairwise (h.sortable .order) h.distinct false
  have hrising : sorted.Pairwise fun r s => r.order < s.order := harranged.imp_of_mem fun hr hs hprecedes =>
    hprecedes.order_lt (h.order_le _ (hperm.mem_iff.mp hr)) (h.order_le _ (hperm.mem_iff.mp hs))
  rw [hsorted, eq_of_pairwise_order hrising (pairwise_inIssueOrder h.distinct)
    (hperm.trans (inIssueOrder_perm records).symm)]

/-- The records of a report come in issue order. -/
theorem pairwise_order_readReport (text : String) :
    (readReport text).value.instructions.Pairwise fun r s => r.order < s.order := by
  have horders : (readReport text).value.instructions.map (·.order) =
      (List.range (readReport text).value.instructions.length).map fun i : Nat => (1 : Int) + i :=
    map_order_readRows 1 _
  rw [← List.pairwise_map (f := fun r : InstructionRecord => r.order), horders, List.pairwise_map]
  exact List.pairwise_lt_range.imp fun hlt => by omega

/-- **The records of a report are such records**, if it has no more lines than the format has whole numbers in a
row. -/
theorem numbered_readReport {text : String} (h : (lines text.toList).length ≤ 2 ^ 53) :
    Numbered (readReport text).value.instructions where
  distinct := List.pairwise_map.mpr ((pairwise_order_readReport text).imp fun hlt => hlt.ne)
  order_le := by
    intro r hr
    obtain ⟨n, horder, hn⟩ := exists_order_eq hr
    rw [horder, Int.natAbs_natCast]
    exact hn.trans ((length_instructions_le_lines text).trans h)
  columns_read := by
    intro r hr
    obtain ⟨line, -, hline⟩ := exists_wellFormed_of_mem_readReport hr
    simp only [List.forall_mem_cons]
    exact ⟨exists_defined_of_isDecimal (.inl hline.uops_digits),
      exists_defined_of_isDecimal (.inl hline.latency_digits),
      exists_defined_of_isDecimal hline.throughput_decimal, List.forall_mem_nil _⟩

end Numbered

/-! ## Results -/

theorem SortColumn.ofName?_name (column : SortColumn) : ofName? column.name = some column := by
  cases column with
  | order => rfl
  | uops => rfl
  | latency => rfl
  | throughput => rfl
  | instruction => rfl

/-- A column is known by its name. -/
theorem AnalysisResult.sortedBy_name (r : AnalysisResult) (column : SortColumn) (descending : Bool) :
    r.sortedBy column.name descending = sortRecords r.instructions column descending := by
  rw [sortedBy, column.ofName?_name]

/-- **How the records of a result are arranged**: by each column and in both directions, as `Precedes` says, and
in issue order, from however they come.  Those of a report are arranged so, and come in issue order. -/
theorem AnalysisResult.arranged (r : AnalysisResult) :
    (Numbered r.instructions →
      (∀ (column : SortColumn) (descending : Bool), ∃ sorted, r.sortedBy column.name descending = .ok sorted ∧
        sorted.Perm r.instructions ∧ sorted.Pairwise (InstructionRecord.Precedes column descending)) ∧
      r.issueOrder.Perm r.instructions ∧
      (r.issueOrder.Pairwise fun s t => s.order < t.order) ∧
      ∀ permuted : AnalysisResult, permuted.instructions.Perm r.instructions →
        permuted.issueOrder = r.issueOrder) ∧
    (∀ text : String, (lines text.toList).length ≤ 2 ^ 53 →
      r.instructions = (readReport text).value.instructions →
      Numbered r.instructions ∧ r.issueOrder = r.instructions ∧
        r.sortedBy "order" false = .ok r.instructions) := by
  constructor
  · intro numbered
    refine ⟨fun column descending => ?_, inIssueOrder_perm _, pairwise_inIssueOrder numbered.distinct, ?_⟩
    · rw [r.sortedBy_name]
      exact exists_sortRecords_pairwise (numbered.sortable column) numbered.distinct descending
    · exact fun permuted hperm => inIssueOrder_eq_of_perm numbered.distinct hperm
  · intro text bounded hread
    have numbered : Numbered r.instructions := hread ▸ numbered_readReport bounded
    have issued : inIssueOrder r.instructions = r.instructions :=
      inIssueOrder_eq_self (hread ▸ pairwise_order_readReport text)
    refine ⟨numbered, issued, ?_⟩
    rw [← SortColumn.name, r.sortedBy_name, numbered.sortRecords_order, issued]

/-- A report with two rows that have the same latency and throughput. -/
def tiedReport : String :=
  "Instruction Info:\n[1] [2] [3] Instructions:\n 1 3 1 leal\n 1 3 1.00 retq\n"

/-- The result it is read as. -/
def tiedResult : AnalysisResult where
  targetId := "generic"
  targetLabel := "Generic"
  summary := {}
  instructions :=
    [{ order := 1, uops := "1", latency := "3", throughput := "1", instruction := "leal" },
     { order := 2, uops := "1", latency := "3", throughput := "1.00", instruction := "retq" }]

/-- Both rows in a column in which they tie, although its texts differ, so that they stay in issue order; turned round; and
as the report has them. -/
theorem AnalysisResult.arranged_tied :
    (Numbered tiedResult.instructions ∧
      (∀ r ∈ tiedResult.instructions, ∀ s ∈ tiedResult.instructions, r.AtMost .throughput s) ∧
      tiedResult.sortedBy "throughput" true = .ok tiedResult.instructions ∧
      tiedResult.instructions.reverse.Perm tiedResult.instructions ∧
      { tiedResult with instructions := tiedResult.instructions.reverse }.issueOrder = tiedResult.issueOrder) ∧
    (lines tiedReport.toList).length ≤ 2 ^ 53 ∧
      tiedResult.instructions = (readReport tiedReport).value.instructions ∧
      tiedResult.issueOrder = tiedResult.instructions ∧
      tiedResult.sortedBy "order" false = .ok tiedResult.instructions := by
  have bounded : (lines tiedReport.toList).length ≤ 2 ^ 53 := by decide +kernel
  have hread : tiedResult.instructions = (readReport tiedReport).value.instructions := by decide +kernel
  obtain ⟨arranged, reported⟩ := tiedResult.arranged
  obtain ⟨numbered, issued, byOrder⟩ := reported tiedReport bounded hread
  obtain ⟨columns, -, -, recovered⟩ := arranged numbered
  have tied : ∀ r ∈ tiedResult.instructions, ∀ s ∈ tiedResult.instructions, r.AtMost .throughput s := by
    have one : ∀ r ∈ tiedResult.instructions, r.numberIn .throughput = some (.ofInt 1) := by decide +kernel
    exact fun r hr s hs => .number (one r hr) (one s hs) (by decide +kernel)
  obtain ⟨sorted, hsorted, hsame, precede⟩ := columns .throughput true
  have rising : sorted.Pairwise fun r s => r.order < s.order := precede.imp_of_mem fun hr hs h =>
    h.ties (tied _ (hsame.mem_iff.mp hr) _ (hsame.mem_iff.mp hs)) (tied _ (hsame.mem_iff.mp hs) _ (hsame.mem_iff.mp hr))
  obtain rfl : sorted = tiedResult.instructions := eq_of_pairwise_order rising (by decide) hsame
  have hperm := List.reverse_perm tiedResult.instructions
  exact ⟨⟨numbered, tied, hsorted, hperm, recovered _ hperm⟩, bounded, hread, issued, byOrder⟩

end SnippetCost
