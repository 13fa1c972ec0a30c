import SnippetCost.Proofs.Number.Order
import SnippetCost.Proofs.Order.Stable
import SnippetCost.Proofs.Result.Sorting

/-!
# How records are arranged

Sorting by a column puts the records into issue order first and sorts that by the column, so records that agree in
the column follow each other in issue order, whether the column goes up or down.  What they agree in is the number
that a column stands for and not its text: `1` and `1.00` are a tie.

* **`inIssueOrder_eq_of_perm`**: the issue order does not depend on how the records come;
* **`exists_sortRecords_pairwise`**: the arrangement by a column (`InstructionRecord.Precedes`).

Both are about records with numbers of their own.
-/

namespace SnippetCost

open SnippetCost.Number

/-! ## Ranks of keys -/

/-- The place of a key among those of its kind. -/
def SortKey.rank : SortKey → WithBot (WithTop ℤ) ⊕ₗ String
  | .number x => toLex (.inl x.rank)
  | .text s => toLex (.inr s)

section Keys

variable {column : SortColumn} {r s : InstructionRecord} {key key' : SortKey}

/-- The instruction is a text. -/
theorem sortKey_eq_text (h : r.sortKey .instruction = .ok key) : key = .text r.instruction := by
  cases h
  rfl

/-- Every other column is a number. -/
theorem exists_sortKey_eq_number (hcolumn : column ≠ .instruction) (h : r.sortKey column = .ok key) :
    ∃ x, key = .number x := by
  have number : ∀ read : Except ValueFault Binary64, read.map SortKey.number = .ok key →
      ∃ x, key = .number x := by
    intro read hread
    cases read with
    | error fault => cases hread
    | ok x => exact ⟨x, (Except.ok.inj hread).symm⟩
  cases column with
  | order => exact number (numberOfInt r.order) h
  | uops => exact number (numberOf r.uops) h
  | latency => exact number (numberOf r.latency) h
  | throughput => exact number (numberOf r.throughput) h
  | instruction => exact absurd rfl hcolumn

/-- **The keys of a column go by their ranks.** -/
theorem before_eq_rank (h : r.sortKey column = .ok key) (hkey : key.isOrdered = true)
    (h' : s.sortKey column = .ok key') (hkey' : key'.isOrdered = true) :
    key.before key' = decide (key.rank < key'.rank) := by
  by_cases hcolumn : column = .instruction
  · subst hcolumn
    rw [sortKey_eq_text h, sortKey_eq_text h']
    simp [SortKey.before, SortKey.rank]
  · obtain ⟨x, rfl⟩ := exists_sortKey_eq_number hcolumn h
    obtain ⟨y, rfl⟩ := exists_sortKey_eq_number hcolumn h'
    have hx : x ≠ .nan := by simpa [SortKey.isOrdered] using hkey
    have hy : y ≠ .nan := by simpa [SortKey.isOrdered] using hkey'
    simp [SortKey.before, SortKey.rank, Binary64.lt_eq_rank hx hy]

/-- Each record is given the key it has. -/
theorem sortKey_of_mem_withKeys {records : List InstructionRecord}
    {keyed : List (SortKey × InstructionRecord)} (h : withKeys column records = .ok keyed) :
    ∀ k ∈ keyed, k.2.sortKey column = .ok k.1 := by
  induction records generalizing keyed with
  | nil =>
      cases h
      exact List.forall_mem_nil _
  | cons r records ih =>
      rw [withKeys] at h
      cases hkey : r.sortKey column with
      | error fault =>
          rw [hkey] at h
          cases h
      | ok key =>
          cases hrest : withKeys column records with
          | error fault =>
              rw [hkey, hrest] at h
              cases h
          | ok rest =>
              rw [hkey, hrest] at h
              cases h
              rw [List.forall_mem_cons]
              exact ⟨hkey, ih hrest⟩

end Keys

/-! ## Issue order -/

section IssueOrder

variable {records : List InstructionRecord}

/-- Records with numbers of their own are put into the order of these. -/
theorem pairwise_inIssueOrder (distinct : (records.map (·.order)).Nodup) :
    (inIssueOrder records).Pairwise fun r s => r.order < s.order := by
  have hsorted : (inIssueOrder records).Pairwise fun r s =>
      r.order ≤ s.order ∧ (r.order = s.order → r.order ≠ s.order) :=
    pairwise_sortBy (fun _ _ _ _ => rfl) (List.pairwise_map.mp distinct)
  exact hsorted.imp fun ⟨hle, hne⟩ => lt_of_le_of_ne hle fun heq => hne heq heq

/-- There is one list of given records in which their numbers rise. -/
theorem eq_of_pairwise_order {records' : List InstructionRecord}
    (h : records.Pairwise fun r s => r.order < s.order) (h' : records'.Pairwise fun r s => r.order < s.order)
    (hperm : records.Perm records') : records = records' :=
  hperm.eq_of_pairwise (fun _ _ _ _ hlt hgt => absurd hgt hlt.asymm) h h'

/-- **The issue order is recoverable** from any arrangement of the records. -/
theorem inIssueOrder_eq_of_perm {permuted : List InstructionRecord} (distinct : (records.map (·.order)).Nodup)
    (hperm : permuted.Perm records) : inIssueOrder permuted = inIssueOrder records := by
  have hdistinct : (permuted.map (·.order)).Nodup := (hperm.map _).nodup_iff.mpr distinct
  exact eq_of_pairwise_order (pairwise_inIssueOrder hdistinct) (pairwise_inIssueOrder distinct)
    (((inIssueOrder_perm permuted).trans hperm).trans (inIssueOrder_perm records).symm)

/-- Records whose numbers rise are in issue order. -/
theorem inIssueOrder_eq_self (h : records.Pairwise fun r s => r.order < s.order) :
    inIssueOrder records = records := by
  have hdistinct : (records.map (·.order)).Nodup := List.pairwise_map.mpr (h.imp fun hlt => hlt.ne)
  exact eq_of_pairwise_order (pairwise_inIssueOrder hdistinct) h (inIssueOrder_perm records)

end IssueOrder

/-! ## Arrangements by a column -/

namespace InstructionRecord

/-- The number that a record has in a column of numbers. -/
def numberIn (r : InstructionRecord) : SortColumn → Option Binary64
  | .order => some (.ofInt r.order)
  | .uops => readDecimal? r.uops
  | .latency => readDecimal? r.latency
  | .throughput => readDecimal? r.throughput
  | .instruction => none

/-- The column says no more of `r` than of `s`: its number is no greater, or the instruction stands no later in the order of
texts by their characters. -/
inductive AtMost (column : SortColumn) (r s : InstructionRecord) : Prop where
  | number {x y : Binary64} (hr : r.numberIn column = some x) (hs : s.numberIn column = some y)
      (le : y.lt x = false) : AtMost column r s
  | text (hcolumn : column = .instruction) (le : r.instruction.toList ≤ s.instruction.toList) : AtMost column r s

/-- Two records in the order of a column, and where it says the same of both, in issue order. -/
structure Precedes (column : SortColumn) (descending : Bool) (r s : InstructionRecord) : Prop where
  rises : descending = false → r.AtMost column s
  falls : descending = true → s.AtMost column r
  ties : r.AtMost column s → s.AtMost column r → r.order < s.order

end InstructionRecord

section Column

variable {column : SortColumn}

/-- The key in a column of numbers is the number. -/
theorem numberIn_of_sortKey {r : InstructionRecord} {x : Binary64} (h : r.sortKey column = .ok (.number x)) :
    r.numberIn column = some x := by
  have read : ∀ text, (numberOf text).map SortKey.number = .ok (.number x) → readDecimal? text = some x := by
    intro text hread
    unfold numberOf at hread
    cases hx : readDecimal? text with
    | none =>
        rw [hx] at hread
        cases hread
    | some x' =>
        rw [hx] at hread
        cases hread
        rfl
  cases column with
  | order =>
      have hnumber : (numberOfInt r.order).map SortKey.number = .ok (.number x) := h
      unfold numberOfInt at hnumber
      generalize hofInt : Binary64.ofInt r.order = y at hnumber
      dsimp only at hnumber
      split at hnumber
      · obtain rfl : y = x := SortKey.number.inj (Except.ok.inj hnumber)
        exact congrArg some hofInt
      · cases hnumber
  | uops => exact read _ h
  | latency => exact read _ h
  | throughput => exact read _ h
  | instruction => cases h

/-- Records are compared in a column as their keys are. -/
theorem atMost_iff_before {r s : InstructionRecord} {key key' : SortKey} (h : r.sortKey column = .ok key)
    (h' : s.sortKey column = .ok key') : r.AtMost column s ↔ key'.before key = false := by
  by_cases hcolumn : column = .instruction
  · subst hcolumn
    rw [sortKey_eq_text h, sortKey_eq_text h', SortKey.before, decide_eq_false_iff_not, not_lt,
      String.le_iff_toList_le]
    constructor
    · rintro (⟨hnone⟩ | ⟨-, le⟩)
      · cases hnone
      · exact le
    · exact .text rfl
  · obtain ⟨x, rfl⟩ := exists_sortKey_eq_number hcolumn h
    obtain ⟨y, rfl⟩ := exists_sortKey_eq_number hcolumn h'
    have hx := numberIn_of_sortKey h
    have hy := numberIn_of_sortKey h'
    constructor
    · rintro (⟨hr, hs, le⟩ | ⟨htext, -⟩)
      · obtain rfl := Option.some.inj (hx.symm.trans hr)
        obtain rfl := Option.some.inj (hy.symm.trans hs)
        exact le
      · exact absurd htext hcolumn
    · exact .number hx hy

/-- So they are compared by the ranks of these. -/
theorem atMost_iff_rank {r s : InstructionRecord} {key key' : SortKey} (h : r.sortKey column = .ok key)
    (hkey : key.isOrdered = true) (h' : s.sortKey column = .ok key') (hkey' : key'.isOrdered = true) :
    r.AtMost column s ↔ key.rank ≤ key'.rank := by
  rw [← not_lt, ← decide_eq_false_iff_not, ← before_eq_rank h' hkey' h hkey]
  exact atMost_iff_before h h'

/-- Records with keys that come in issue order are arranged by the keys. -/
theorem pairwise_sortKeyed {keyed : List (SortKey × InstructionRecord)}
    (keys : ∀ k ∈ keyed, k.2.sortKey column = .ok k.1) (ordered : ∀ k ∈ keyed, k.1.isOrdered = true)
    (issued : keyed.Pairwise fun a b => a.2.order < b.2.order) (descending : Bool) :
    (sortKeyed keyed descending).Pairwise fun a b => a.2.Precedes column descending b.2 := by
  have agree : ∀ a ∈ keyed, ∀ b ∈ keyed, a.1.before b.1 = decide (a.1.rank < b.1.rank) := fun a ha b hb =>
    before_eq_rank (keys a ha) (ordered a ha) (keys b hb) (ordered b hb)
  have hmem : ∀ k ∈ sortKeyed keyed descending, k ∈ keyed := fun k hk =>
    (sortKeyed_perm ordered descending).mem_iff.mp hk
  have atMost : ∀ a ∈ keyed, ∀ b ∈ keyed, (a.2.AtMost column b.2 ↔ a.1.rank ≤ b.1.rank) := fun a ha b hb =>
    atMost_iff_rank (keys a ha) (ordered a ha) (keys b hb) (ordered b hb)
  have hsorted : (sortKeyed keyed descending).Pairwise fun a b =>
      (descending = false → a.1.rank ≤ b.1.rank) ∧ (descending = true → b.1.rank ≤ a.1.rank) ∧
        (a.1.rank = b.1.rank → a.2.order < b.2.order) := by
    unfold sortKeyed
    rw [if_pos (List.all_eq_true.mpr ordered)]
    cases descending with
    | false => exact (pairwise_sortBy agree issued).imp fun ⟨hle, htie⟩ => ⟨fun _ => hle, nofun, htie⟩
    | true => exact (pairwise_sortDescendingBy agree issued).imp fun ⟨hle, htie⟩ => ⟨nofun, fun _ => hle, htie⟩
  refine hsorted.imp_of_mem fun {a b} ha hb ⟨hrise, hfall, htie⟩ => ?_
  have hab := atMost a (hmem a ha) b (hmem b hb)
  have hba := atMost b (hmem b hb) a (hmem a ha)
  constructor
  · exact fun h => hab.mpr (hrise h)
  · exact fun h => hba.mpr (hfall h)
  · exact fun hle hge => htie (le_antisymm (hab.mp hle) (hba.mp hge))

/-- **Sorting arranges.**  Records with a place in the column and with numbers of their own. -/
theorem exists_sortRecords_pairwise {records : List InstructionRecord} (h : ∀ r ∈ records, r.Sortable column)
    (distinct : (records.map (·.order)).Nodup) (descending : Bool) :
    ∃ sorted, sortRecords records column descending = .ok sorted ∧ sorted.Perm records ∧
      sorted.Pairwise (InstructionRecord.Precedes column descending) := by
  obtain ⟨sorted, hsorted, hperm⟩ := exists_sortRecords_eq h descending
  refine ⟨sorted, hsorted, hperm, ?_⟩
  obtain ⟨keyed, hkeyed, hrecords, ordered⟩ :=
    exists_withKeys_eq fun r hr => h r ((inIssueOrder_perm records).mem_iff.mp hr)
  have issued := pairwise_inIssueOrder distinct
  rw [← hrecords, List.pairwise_map] at issued
  rw [sortRecords, hkeyed] at hsorted
  rw [← Except.ok.inj hsorted, List.pairwise_map]
  exact pairwise_sortKeyed (sortKey_of_mem_withKeys hkeyed) ordered issued descending

end Column

end SnippetCost
