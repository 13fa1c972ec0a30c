import SnippetCost.Proofs.Display.Bars
import SnippetCost.Proofs.Report.Records
import SnippetCost.Proofs.Result.Sorting

/-!
# Reports that can be shown

The columns of a report are numerals that read, but a numeral may stand for a number that is too large for the
64-bit format.  Such a number has a place in the order of its column and no bar.

* **`exists_sortRecords_of_wellFormed`**: the records of a report are sorted by every column, and by their
  numbers in the report if these are numbers of the format;
* **`table_of_wellFormed`**: they are shown exactly if no latency and no throughput is too large.
-/

namespace SnippetCost

open SnippetCost.Number

/-- The number of the record in its report is too large for the format. -/
def InstructionRecord.Unplaced (r : InstructionRecord) : Prop :=
  (Binary64.ofInt r.order).isFinite = false

/-- A column reads as a number without a sign. -/
theorem readsUnsigned_of_isDecimal {column : String} (h : IsDecimal column.toList) :
    ReadsUnsigned column := by
  have hread := readDecimal?_decimal_eq h
  rw [String.ofList_toList] at hread
  rcases hread with ⟨units, hread⟩ | hread
  · exact ⟨_, hread, .finite units⟩
  · exact ⟨_, hread, .infinite⟩

section WellFormed

variable {line : List Char} {r : InstructionRecord}

/-- A record of a line has its place in every column. -/
theorem InstructionRecord.WellFormed.sortable (h : r.WellFormed line) {column : SortColumn}
    (placed : column = .order → ¬r.Unplaced) : r.Sortable column := by
  cases column with
  | order =>
      have hfinite : (Binary64.ofInt r.order).isFinite = true := Bool.not_eq_false _ ▸ placed rfl
      have hkey : r.sortKey .order = .ok (.number (Binary64.ofInt r.order)) := by
        rw [sortKey, numberOfInt, if_pos hfinite]
        rfl
      refine ⟨_, hkey, ?_⟩
      cases hx : Binary64.ofInt r.order with
      | nan =>
          rw [hx] at hfinite
          cases hfinite
      | infinite negative => rfl
      | finite negative units => rfl
  | uops => exact exists_ordered_of_read (exists_defined_of_isDecimal (.inl h.uops_digits))
  | latency => exact exists_ordered_of_read (exists_defined_of_isDecimal (.inl h.latency_digits))
  | throughput => exact exists_ordered_of_read (exists_defined_of_isDecimal h.throughput_decimal)
  | instruction => exact ⟨_, rfl, rfl⟩

end WellFormed

section Report

variable {records : List InstructionRecord} (wellFormed : ∀ r ∈ records, ∃ line, r.WellFormed line)

include wellFormed

/-- **Records of lines can be sorted**, and by their order if that is a number of the format. -/
theorem exists_sortRecords_of_wellFormed {column : SortColumn}
    (placed : column = .order → ∀ r ∈ records, ¬r.Unplaced) (descending : Bool) :
    ∃ sorted, sortRecords records column descending = .ok sorted ∧ sorted.Perm records := by
  refine exists_sortRecords_eq (fun r hr => ?_) descending
  obtain ⟨line, hline⟩ := wellFormed r hr
  exact hline.sortable fun horder => placed horder r hr

omit wellFormed in
/-- A number in the report that is too large keeps the records from being sorted by it. -/
theorem exists_sortRecords_order_error (unplaced : ∃ r ∈ records, r.Unplaced) (descending : Bool) :
    ∃ fault, sortRecords records .order descending = .error fault := by
  obtain ⟨r, hr, hunplaced⟩ := unplaced
  have hkey : r.sortKey .order = .error .outOfRange := by
    rw [InstructionRecord.sortKey, numberOfInt, if_neg (by rw [hunplaced]; exact Bool.false_ne_true)]
    rfl
  exact exists_sortRecords_error ⟨r, hr, hkey⟩ descending

/-- **Records of lines can be shown** exactly if none of their numbers is too large. -/
theorem table_of_wellFormed :
    ((∀ r ∈ records, ¬r.Overflows) → ∃ table, instructionsTable records = .ok table) ∧
      ((∃ r ∈ records, r.Overflows) → instructionsTable records = .error noBar) := by
  have unsigned : ∀ r ∈ records, ReadsUnsigned r.latency ∧ ReadsUnsigned r.throughput := by
    intro r hr
    obtain ⟨line, hline⟩ := wellFormed r hr
    exact ⟨readsUnsigned_of_isDecimal (.inl hline.latency_digits),
      readsUnsigned_of_isDecimal hline.throughput_decimal⟩
  exact ⟨exists_instructionsTable_eq unsigned, instructionsTable_eq_error unsigned⟩

end Report

end SnippetCost
