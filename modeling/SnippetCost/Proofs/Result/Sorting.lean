import Mathlib.Data.List.Basic
import SnippetCost.Result.Sorting

/-!
# Records that can be sorted

A record has a place in a column where its key is there and stands in an order with others.  Records that have
one are sorted, and none is lost or made up (`exists_sortRecords_eq`); one without a key keeps all of them from
being sorted (`exists_sortRecords_error`).
-/

namespace SnippetCost

/-- The record has a key for the column that stands in an order. -/
def InstructionRecord.Sortable (r : InstructionRecord) (column : SortColumn) : Prop :=
  ∃ key, r.sortKey column = .ok key ∧ key.isOrdered = true

/-- A column that reads as a defined number is a key that stands in an order. -/
theorem exists_ordered_of_read {text : String} (h : ∃ x, Number.readDecimal? text = some x ∧ x ≠ .nan) :
    ∃ key, (numberOf text).map SortKey.number = .ok key ∧ key.isOrdered = true := by
  obtain ⟨x, hread, hx⟩ := h
  refine ⟨.number x, by rw [numberOf, hread]; rfl, ?_⟩
  simpa [SortKey.isOrdered] using hx

theorem inIssueOrder_perm (records : List InstructionRecord) : (inIssueOrder records).Perm records :=
  List.mergeSort_perm ..

section Keys

variable {column : SortColumn}

/-- Each of the records gets its key. -/
theorem exists_withKeys_eq {records : List InstructionRecord} (h : ∀ r ∈ records, r.Sortable column) :
    ∃ keyed, withKeys column records = .ok keyed ∧ keyed.map (·.2) = records ∧
      ∀ k ∈ keyed, k.1.isOrdered = true := by
  induction records with
  | nil => exact ⟨[], rfl, rfl, List.forall_mem_nil _⟩
  | cons r records ih =>
      rw [List.forall_mem_cons] at h
      obtain ⟨key, hkey, hordered⟩ := h.1
      obtain ⟨keyed, hkeyed, hrecords, hall⟩ := ih h.2
      refine ⟨(key, r) :: keyed, ?_, ?_, ?_⟩
      · rw [withKeys, hkey, hkeyed]
        rfl
      · rw [List.map_cons, hrecords]
      · rw [List.forall_mem_cons]
        exact ⟨hordered, hall⟩

/-- One record without a key keeps all from getting theirs. -/
theorem exists_withKeys_error {records : List InstructionRecord} {fault : ValueFault}
    (h : ∃ r ∈ records, r.sortKey column = .error fault) : ∃ fault', withKeys column records = .error fault' := by
  induction records with
  | nil =>
      obtain ⟨r, hr, -⟩ := h
      cases hr
  | cons r records ih =>
      cases hkey : r.sortKey column with
      | error fault' => exact ⟨fault', by rw [withKeys, hkey]; rfl⟩
      | ok key =>
          have hrest : ∃ r ∈ records, r.sortKey column = .error fault := by
            obtain ⟨r', hr', hfault⟩ := h
            rcases List.mem_cons.mp hr' with rfl | hr'
            · rw [hkey] at hfault
              cases hfault
            · exact ⟨r', hr', hfault⟩
          obtain ⟨fault', hfault'⟩ := ih hrest
          exact ⟨fault', by rw [withKeys, hkey, hfault']; rfl⟩

/-- Keys that stand in an order are sorted by merging. -/
theorem sortKeyed_perm {keyed : List (SortKey × InstructionRecord)}
    (h : ∀ k ∈ keyed, k.1.isOrdered = true) (descending : Bool) :
    (sortKeyed keyed descending).Perm keyed := by
  unfold sortKeyed
  rw [if_pos (List.all_eq_true.mpr h)]
  cases descending with
  | true => exact List.mergeSort_perm ..
  | false => exact List.mergeSort_perm ..

/-- **Sorting loses nothing.**  Records with a place in the column are sorted by it, and they are the same
records. -/
theorem exists_sortRecords_eq {records : List InstructionRecord} (h : ∀ r ∈ records, r.Sortable column)
    (descending : Bool) :
    ∃ sorted, sortRecords records column descending = .ok sorted ∧ sorted.Perm records := by
  have hissue := inIssueOrder_perm records
  have hsortable : ∀ r ∈ inIssueOrder records, r.Sortable column := fun r hr => h r (hissue.mem_iff.mp hr)
  obtain ⟨keyed, hkeyed, hrecords, hall⟩ := exists_withKeys_eq hsortable
  refine ⟨(sortKeyed keyed descending).map (·.2), ?_, ?_⟩
  · rw [sortRecords, hkeyed]
    rfl
  · have hperm := (sortKeyed_perm hall descending).map (·.2)
    rw [hrecords] at hperm
    exact hperm.trans hissue

/-- **A record without a key is not passed over.** -/
theorem exists_sortRecords_error {records : List InstructionRecord} {fault : ValueFault}
    (h : ∃ r ∈ records, r.sortKey column = .error fault) (descending : Bool) :
    ∃ fault', sortRecords records column descending = .error fault' := by
  obtain ⟨r, hr, hfault⟩ := h
  obtain ⟨fault', hkeys⟩ := exists_withKeys_error ⟨r, (inIssueOrder_perm records).mem_iff.mpr hr, hfault⟩
  exact ⟨fault', by rw [sortRecords, hkeys]; rfl⟩

end Keys

end SnippetCost
