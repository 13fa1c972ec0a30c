import SnippetCost.Display.Tables
import SnippetCost.Proofs.Number.Magnitude

/-!
# Bars that can be drawn

A bar is made in three steps, each of them rounded: the part that a number is of the greatest in its column, twelve
times that, and the nearest integer.  Every step keeps the order, zero and the whole, and so does the number of full
blocks (`blocksBeside_mono`, `blocksBeside_le`, `blocksBeside_self`).  It depends on the units of the two numbers alone
(`bar_eq`).

A number that is too large to be finite is the greatest of its column; its part of the greatest is undefined, and there
is no bar for it (`bar_eq_error`).  Beside it every finite number has a bar (`exists_bar_eq`).  So an instruction table
can be shown exactly if its latencies and throughputs are finite (`exists_instructionsTable_eq`,
`instructionsTable_eq_error`).
-/

namespace SnippetCost

open Number

namespace Number.Binary64

/-! ## Unsigned numbers -/

/-- Finite or too large to be, but neither undefined nor with a minus sign. -/
inductive IsUnsigned : Binary64 → Prop where
  | finite (units : Nat) : IsUnsigned (.finite false units)
  | infinite : IsUnsigned (.infinite false)

theorem IsUnsigned.ne_nan {x : Binary64} (h : x.IsUnsigned) : x ≠ .nan := by
  rintro rfl
  cases h

/-- Unsigned numbers have a greatest one, or zero above them. -/
theorem maximum_isUnsigned {xs : List Binary64} (hxs : ∀ x ∈ xs, x.IsUnsigned) :
    (maximum .zero xs).IsUnsigned ∧ ∀ x ∈ xs, (maximum .zero xs).lt x = false := by
  refine ⟨maximum_of_forall (.finite 0) hxs, fun x hx => ?_⟩
  exact maximum_lt_eq_false .zero (fun y hy => (hxs y hy).ne_nan) hx

end Number.Binary64

open Binary64

/-! ## How many blocks -/

/-- The part that a number is of a peak, in units; none of a peak that is zero. -/
def partOf (peak units : Nat) : Nat :=
  if 0 < peak then roundUnits (units * unitsPerOne) peak else 0

/-- The number of full blocks for a part of the whole. -/
def blocksOf (part : Nat) : Nat :=
  roundHalfEven (roundUnits (part * (12 * unitsPerOne)) unitsPerOne) unitsPerOne

/-- The number of full blocks of a number beside a peak, both given by their units. -/
def blocksBeside (peak units : Nat) : Nat :=
  blocksOf (partOf peak units)

/-- A bar of twelve places: so many full blocks, and blanks behind them. -/
def barOf (full : Nat) : String :=
  String.ofList (List.replicate full '█' ++ List.replicate (12 - full) ' ')

theorem partOf_mono (peak : Nat) {m n : Nat} (h : m ≤ n) : partOf peak m ≤ partOf peak n := by
  unfold partOf
  split
  · rename_i hpeak
    exact roundUnits_mono hpeak (Nat.mul_le_mul_right _ h)
  · exact le_rfl

theorem partOf_le {peak units : Nat} (h : units ≤ peak) : partOf peak units ≤ unitsPerOne := by
  unfold partOf
  split
  · rename_i hpeak
    have hquotient : units * unitsPerOne ≤ 1 * unitsPerOne * peak := by
      rw [Nat.one_mul, Nat.mul_comm]
      exact Nat.mul_le_mul_left _ h
    have hround := roundUnits_le (by decide) hpeak hquotient
    rwa [Nat.one_mul] at hround
  · exact Nat.zero_le _

/-- A number is the whole of itself. -/
theorem partOf_self {peak : Nat} (h : 0 < peak) : partOf peak peak = unitsPerOne := by
  have hgrid : gridStep unitsPerOne ∣ unitsPerOne := by
    have hones := gridStep_dvd_ones (n := 1) (by decide)
    rwa [Nat.one_mul] at hones
  rw [partOf, if_pos h, Nat.mul_comm]
  exact roundUnits_mul h hgrid

theorem blocksOf_mono {m n : Nat} (h : m ≤ n) : blocksOf m ≤ blocksOf n :=
  roundHalfEven_mono _ (roundUnits_mono unitsPerOne_pos (Nat.mul_le_mul_right _ h))

theorem blocksOf_one : blocksOf unitsPerOne = 12 := by
  decide +kernel

theorem blocksOf_zero : blocksOf 0 = 0 := by
  decide +kernel

theorem blocksOf_le {part : Nat} (h : part ≤ unitsPerOne) : blocksOf part ≤ 12 := by
  calc blocksOf part ≤ blocksOf unitsPerOne := blocksOf_mono h
    _ = 12 := blocksOf_one

/-- **The blocks keep the order** of the numbers. -/
theorem blocksBeside_mono (peak : Nat) {m n : Nat} (h : m ≤ n) : blocksBeside peak m ≤ blocksBeside peak n :=
  blocksOf_mono (partOf_mono peak h)

/-- **No bar is too long** beside a peak that is not below its number. -/
theorem blocksBeside_le {peak units : Nat} (h : units ≤ peak) : blocksBeside peak units ≤ 12 :=
  blocksOf_le (partOf_le h)

/-- **The peak fills its bar.** -/
theorem blocksBeside_self {peak : Nat} (h : 0 < peak) : blocksBeside peak peak = 12 := by
  rw [blocksBeside, partOf_self h, blocksOf_one]

/-- Beside a peak of zero all bars are empty. -/
theorem blocksBeside_zero (units : Nat) : blocksBeside 0 units = 0 :=
  blocksOf_zero

/-- A half goes to the even neighbour: one and a half to two, and four and a half to four. -/
example : blocksBeside 8 1 = 2 ∧ blocksBeside 8 3 = 4 := by
  decide +kernel

/-! ## One bar -/

theorem numberOfInt_barWidth : numberOfInt barWidth = .ok (.finite false (12 * unitsPerOne)) := by
  decide +kernel

theorem fullBlocks_eq {width : Int} {columns : Binary64} (h : numberOfInt width = .ok columns)
    (value : String) (peak : Binary64) : fullBlocks value peak width =
      ((fractionOf value peak).mul columns).round.mapError ValueFault.noInteger := by
  unfold fullBlocks
  rw [h]
  rfl

/-- A character so many times, where that is not more than a text can hold. -/
theorem repeated_natCast {c : Char} {count : Nat} (h : count ≤ textLimit) :
    repeated c count = .ok (List.replicate count c) := by
  unfold repeated
  rw [if_neg (by omega), Int.toNat_natCast]

section Bar

variable {value : String} {peak : Binary64}

/-- A bar once the number of its full blocks is known. -/
theorem bar_eq_of_fullBlocks {full : Nat} (hfull : full ≤ 12) (h : fullBlocks value peak barWidth = .ok full) :
    bar value peak barWidth = .ok (barOf full) := by
  have hblanks : barWidth - (full : Int) = ((12 - full : Nat) : Int) := by
    unfold barWidth
    omega
  unfold bar
  rw [h]
  change (do
    let blocks ← repeated '█' full
    let blanks ← repeated ' ' (barWidth - full)
    return String.ofList (blocks ++ blanks)) = _
  rw [hblanks, repeated_natCast (hfull.trans (by decide)), repeated_natCast ((Nat.sub_le _ _).trans (by decide))]
  rfl

/-- The bar for a part of the whole. -/
theorem bar_of_fraction (hpart : (fractionOf value peak).IsMagnitude)
    (hle : (fractionOf value peak).units ≤ unitsPerOne) :
    bar value peak barWidth = .ok (barOf (blocksOf (fractionOf value peak).units)) := by
  have hcolumns : (Binary64.finite false (12 * unitsPerOne)).IsMagnitude := isMagnitude_finite nofun
  have hbound : (fractionOf value peak).units * (12 * unitsPerOne) ≤ 12 * unitsPerOne * unitsPerOne := by
    rw [Nat.mul_comm]
    exact Nat.mul_le_mul_left _ hle
  obtain ⟨hproduct, hunits⟩ := hpart.mul hcolumns (by decide) hbound
  apply bar_eq_of_fullBlocks (blocksOf_le hle)
  rw [fullBlocks_eq numberOfInt_barWidth, hproduct.round_eq, hunits]
  rfl

section Magnitude

variable {x : Binary64} (read : readDecimal? value = some x) (hx : x.IsMagnitude) (hpeak : peak.IsMagnitude)
  (le_peak : x.units ≤ peak.units)

include read hx hpeak le_peak

/-- The part that a magnitude is of a peak that is not below it. -/
theorem fractionOf_magnitude :
    (fractionOf value peak).IsMagnitude ∧ (fractionOf value peak).units = partOf peak.units x.units := by
  unfold fractionOf partOf
  rw [hpeak.isPositive_eq, read]
  by_cases h : 0 < peak.units
  · rw [if_pos (decide_eq_true h), if_pos h]
    exact hx.div hpeak h le_peak
  · rw [if_neg (by simpa using h), if_neg h]
    exact ⟨isMagnitude_zero, rfl⟩

/-- **A magnitude has a bar** beside a peak that is not below it. -/
theorem bar_eq : bar value peak barWidth = .ok (barOf (blocksBeside peak.units x.units)) := by
  obtain ⟨hpart, hunits⟩ := fractionOf_magnitude read hx hpeak le_peak
  rw [bar_of_fraction hpart (hunits.trans_le (partOf_le le_peak)), hunits]
  rfl

end Magnitude

/-- **A finite number has a bar** beside an unsigned peak that is not below it. -/
theorem exists_bar_eq {units : Nat} (read : readDecimal? value = some (.finite false units))
    (hpeak : peak.IsUnsigned) (le_peak : peak.lt (.finite false units) = false) :
    ∃ shown, bar value peak barWidth = .ok shown := by
  have hvalue : (Binary64.finite false units).IsMagnitude := isMagnitude_finite nofun
  cases hpeak with
  | finite n =>
      have hn : (Binary64.finite false n).IsMagnitude := isMagnitude_finite nofun
      rw [hn.lt_eq hvalue, decide_eq_false_iff_not, Nat.not_lt] at le_peak
      exact ⟨_, bar_eq read hvalue hn le_peak⟩
  | infinite =>
      have hzero : fractionOf value (.infinite false) = .zero := by
        unfold fractionOf
        rw [read]
        rfl
      refine ⟨_, bar_of_fraction ?_ ?_⟩
      · rw [hzero]
        exact isMagnitude_zero
      · rw [hzero]
        exact Nat.zero_le _

/-- The part that a number too large has of another one is undefined. -/
theorem fractionOf_infinite (read : readDecimal? value = some (.infinite false)) :
    fractionOf value (.infinite false) = .nan := by
  unfold fractionOf
  rw [read]
  rfl

/-- Why a number that is too large has no bar. -/
def noBar : ValueFault := .noInteger .undefined

theorem bar_eq_error (read : readDecimal? value = some (.infinite false)) :
    bar value (.infinite false) barWidth = .error noBar := by
  have hblocks : fullBlocks value (.infinite false) barWidth = .error noBar := by
    rw [fullBlocks_eq numberOfInt_barWidth, fractionOf_infinite read]
    rfl
  unfold bar
  rw [hblocks]
  rfl

end Bar

/-! ## The table -/

/-- A text that reads as an unsigned number. -/
def ReadsUnsigned (text : String) : Prop :=
  ∃ x, readDecimal? text = some x ∧ x.IsUnsigned

/-- The numbers of a column of texts that all read as one. -/
theorem numbersOf_eq {texts : List String} (h : ∀ text ∈ texts, (readDecimal? text).isSome) :
    numbersOf texts = .ok (texts.filterMap readDecimal?) := by
  induction texts with
  | nil => rfl
  | cons text texts ih =>
      rw [List.forall_mem_cons] at h
      obtain ⟨x, hread⟩ := Option.isSome_iff_exists.mp h.1
      rw [List.filterMap_cons_some hread]
      unfold numbersOf numberOf
      rw [hread, ih h.2]
      rfl

/-- The numbers of a column of unsigned numbers. -/
theorem exists_numbersOf_eq {texts : List String} (h : ∀ text ∈ texts, ReadsUnsigned text) :
    ∃ xs, numbersOf texts = .ok xs ∧ (∀ x ∈ xs, x.IsUnsigned) ∧
      ∀ text ∈ texts, ∃ x ∈ xs, readDecimal? text = some x := by
  have hsome : ∀ text ∈ texts, (readDecimal? text).isSome := by
    intro text htext
    obtain ⟨x, hread, -⟩ := h text htext
    exact Option.isSome_of_eq_some hread
  refine ⟨_, numbersOf_eq hsome, fun x hx => ?_, fun text htext => ?_⟩
  · obtain ⟨text, htext, hread⟩ := List.mem_filterMap.mp hx
    obtain ⟨y, hreadY, hy⟩ := h text htext
    rw [hread] at hreadY
    cases hreadY
    exact hy
  · obtain ⟨x, hread, -⟩ := h text htext
    exact ⟨x, List.mem_filterMap.mpr ⟨text, htext, hread⟩, hread⟩

/-- What becomes of a cell: it is there for a finite number, and not for one that is too large. -/
structure CellBeside (peak : Binary64) (text : String) : Prop where
  ok_of_finite : readDecimal? text ≠ some (.infinite false) → ∃ cell, barCell text peak = .ok cell
  error_of_infinite : readDecimal? text = some (.infinite false) → barCell text peak = .error noBar

/-- The cells of a column of unsigned numbers, beside the greatest of them. -/
theorem exists_cellBeside {texts : List String} (h : ∀ text ∈ texts, ReadsUnsigned text) :
    ∃ xs, numbersOf texts = .ok xs ∧ ∀ text ∈ texts, CellBeside (.maximum .zero xs) text := by
  obtain ⟨xs, hnumbers, hunsigned, hmem⟩ := exists_numbersOf_eq h
  obtain ⟨hpeak, hle⟩ := maximum_isUnsigned hunsigned
  refine ⟨xs, hnumbers, fun text htext => ?_⟩
  obtain ⟨x, hx, hread⟩ := hmem text htext
  have hnot := hle x hx
  generalize maximum .zero xs = peak at hpeak hnot
  cases hunsigned x hx with
  | finite units =>
      obtain ⟨shown, hbar⟩ := exists_bar_eq hread hpeak hnot
      refine ⟨fun _ => ?_, fun hinfinite => ?_⟩
      · rw [barCell, hbar]
        exact ⟨_, rfl⟩
      · rw [hread] at hinfinite
        cases hinfinite
  | infinite =>
      refine ⟨fun hfinite => absurd hread hfinite, fun _ => ?_⟩
      cases hpeak with
      | finite n => cases hnot
      | infinite =>
          rw [barCell, bar_eq_error hread]
          rfl

/-- A number that the instruction table draws is too large to be finite. -/
def InstructionRecord.Overflows (r : InstructionRecord) : Prop :=
  readDecimal? r.latency = some (.infinite false) ∨ readDecimal? r.throughput = some (.infinite false)

section Rows

variable {peakLatency peakThroughput : Binary64} {records : List InstructionRecord}

/-- Rows without numbers that are too large are there. -/
theorem exists_instructionRows_eq
    (cells : ∀ r ∈ records, CellBeside peakLatency r.latency ∧ CellBeside peakThroughput r.throughput)
    (bounded : ∀ r ∈ records, ¬r.Overflows) :
    ∃ rows, instructionRows peakLatency peakThroughput records = .ok rows := by
  induction records with
  | nil => exact ⟨[], rfl⟩
  | cons r records ih =>
      rw [List.forall_mem_cons] at cells bounded
      obtain ⟨latency, hlatency⟩ := cells.1.1.ok_of_finite fun h => bounded.1 (.inl h)
      obtain ⟨throughput, hthroughput⟩ := cells.1.2.ok_of_finite fun h => bounded.1 (.inr h)
      obtain ⟨rows, hrows⟩ := ih cells.2 bounded.2
      rw [instructionRows, hlatency, hthroughput, hrows]
      exact ⟨_, rfl⟩

/-- The first row with a number that is too large is the last one to be tried. -/
theorem instructionRows_eq_error
    (cells : ∀ r ∈ records, CellBeside peakLatency r.latency ∧ CellBeside peakThroughput r.throughput)
    (overflow : ∃ r ∈ records, r.Overflows) :
    instructionRows peakLatency peakThroughput records = .error noBar := by
  induction records with
  | nil =>
      obtain ⟨r, hr, -⟩ := overflow
      cases hr
  | cons r records ih =>
      rw [List.forall_mem_cons] at cells
      obtain ⟨⟨latencyCell, throughputCell⟩, cells⟩ := cells
      by_cases hlatency : readDecimal? r.latency = some (.infinite false)
      · rw [instructionRows, latencyCell.error_of_infinite hlatency]
        rfl
      obtain ⟨latency, hlatencyCell⟩ := latencyCell.ok_of_finite hlatency
      by_cases hthroughput : readDecimal? r.throughput = some (.infinite false)
      · rw [instructionRows, hlatencyCell, throughputCell.error_of_infinite hthroughput]
        rfl
      obtain ⟨throughput, hthroughputCell⟩ := throughputCell.ok_of_finite hthroughput
      have hrest : ∃ r ∈ records, r.Overflows := by
        obtain ⟨r', hr', hover⟩ := overflow
        rcases List.mem_cons.mp hr' with rfl | hr'
        · exact absurd hover (not_or.mpr ⟨hlatency, hthroughput⟩)
        · exact ⟨r', hr', hover⟩
      rw [instructionRows, hlatencyCell, hthroughputCell, ih cells hrest]
      rfl

end Rows

section Table

variable {records : List InstructionRecord}
  (unsigned : ∀ r ∈ records, ReadsUnsigned r.latency ∧ ReadsUnsigned r.throughput)

include unsigned

/-- The table of records with unsigned numbers is there if its rows are. -/
theorem exists_instructionsTable_rows : ∃ peakLatency peakThroughput,
    (∀ r ∈ records, CellBeside peakLatency r.latency ∧ CellBeside peakThroughput r.throughput) ∧
      (∀ rows, instructionRows peakLatency peakThroughput records = .ok rows →
        ∃ table, instructionsTable records = .ok table) ∧
      ∀ fault, instructionRows peakLatency peakThroughput records = .error fault →
        instructionsTable records = .error fault := by
  obtain ⟨xs, hxs, hlatency⟩ := exists_cellBeside
    (List.forall_mem_map.mpr fun r hr => (unsigned r hr).1)
  obtain ⟨ys, hys, hthroughput⟩ := exists_cellBeside
    (List.forall_mem_map.mpr fun r hr => (unsigned r hr).2)
  refine ⟨.maximum .zero xs, .maximum .zero ys, fun r hr => ?_, fun rows hrows => ?_, fun fault hrows => ?_⟩
  · exact ⟨hlatency _ (List.mem_map_of_mem hr), hthroughput _ (List.mem_map_of_mem hr)⟩
  · unfold instructionsTable
    simp only [hxs, hys, hrows, bind, Except.bind]
    exact ⟨_, rfl⟩
  · unfold instructionsTable
    simp only [hxs, hys, hrows, bind, Except.bind]

/-- **Finite columns can be shown.** -/
theorem exists_instructionsTable_eq (bounded : ∀ r ∈ records, ¬r.Overflows) :
    ∃ table, instructionsTable records = .ok table := by
  obtain ⟨peakLatency, peakThroughput, cells, table_of_rows, -⟩ := exists_instructionsTable_rows unsigned
  obtain ⟨rows, hrows⟩ := exists_instructionRows_eq cells bounded
  exact table_of_rows rows hrows

/-- **A number that is too large cannot be shown.** -/
theorem instructionsTable_eq_error (overflow : ∃ r ∈ records, r.Overflows) :
    instructionsTable records = .error noBar := by
  obtain ⟨peakLatency, peakThroughput, cells, -, error_of_rows⟩ := exists_instructionsTable_rows unsigned
  exact error_of_rows _ (instructionRows_eq_error cells overflow)

end Table

end SnippetCost
