import SnippetCost.Proofs.Display.Bars

/-!
# Bars in proportion

What the bars of a column say about its numbers, where all of these are finite and none is below zero.  A greater or
equal number has at least as many blocks, a positive number that no other one is above fills its bar, and a column of
zeros has no blocks at all (`InProportion`).  Zero may have a minus sign, and a number may be spelled in many ways.

* **`bars_instructionsTable`**: the instruction table of such records is there, with one row for each of them in the
  order given, and the bars of either column are in proportion to its numbers.

That the blocks are the nearest to the exact part is not said, for the part is rounded before it is multiplied.
-/

namespace SnippetCost

open Number Number.Binary64

/-! ## A column -/

/-- A text that reads as a finite number which is not below zero. -/
def ReadsMagnitude (text : String) : Prop :=
  ∃ x ∈ readDecimal? text, x.IsMagnitude

instance (text : String) : Decidable (ReadsMagnitude text) :=
  inferInstanceAs (Decidable (∃ x ∈ readDecimal? text, x.IsMagnitude))

/-- No text of the column reads as a greater number. -/
def Greatest (column : List String) (x : Binary64) : Prop :=
  ∀ text ∈ column, ∀ y ∈ readDecimal? text, x.lt y = false

/-- No text of the column reads as a number above zero. -/
def Flat (column : List String) : Prop :=
  ∀ text ∈ column, ∀ x ∈ readDecimal? text, x.isPositive = false

instance (column : List String) (x : Binary64) : Decidable (Greatest column x) :=
  inferInstanceAs (Decidable (∀ text ∈ column, ∀ y ∈ readDecimal? text, x.lt y = false))

instance (column : List String) : Decidable (Flat column) :=
  inferInstanceAs (Decidable (∀ text ∈ column, ∀ x ∈ readDecimal? text, x.isPositive = false))

/-- The bars of a column go as its numbers do, where `blocks` says how many of its twelve places a text fills. -/
structure InProportion (column : List String) (blocks : String → Nat) : Prop where
  le_width : ∀ text ∈ column, blocks text ≤ 12
  mono : ∀ s ∈ column, ∀ t ∈ column, ∀ x ∈ readDecimal? s, ∀ y ∈ readDecimal? t,
    y.lt x = false → blocks s ≤ blocks t
  full : ∀ text ∈ column, ∀ x ∈ readDecimal? text, x.isPositive = true → Greatest column x → blocks text = 12
  empty : Flat column → ∀ text ∈ column, blocks text = 0

/-- A cell with a bar of so many full blocks, and the value behind it. -/
def barredCell (full : Nat) (value : String) : String :=
  "[orange1]" ++ barOf full ++ "[/orange1] " ++ value

/-- The greatest number of a column, and zero if it is empty. -/
def peakOf (column : List String) : Binary64 :=
  .maximum .zero (column.filterMap readDecimal?)

/-- The blocks of a text in a column. -/
def blocksIn (column : List String) (text : String) : Nat :=
  blocksBeside (peakOf column).units ((readDecimal? text).elim 0 units)

theorem blocksIn_eq {column : List String} {text : String} {x : Binary64} (read : x ∈ readDecimal? text) :
    blocksIn column text = blocksBeside (peakOf column).units x.units := by
  rw [blocksIn, Option.mem_def.mp read, Option.elim_some]

theorem ReadsMagnitude.isMagnitude {text : String} (h : ReadsMagnitude text) {x : Binary64}
    (read : x ∈ readDecimal? text) : x.IsMagnitude := by
  obtain ⟨y, hy, hmagnitude⟩ := h
  rwa [Option.mem_unique read hy]

section Column

variable {column : List String} (magnitudes : ∀ text ∈ column, ReadsMagnitude text)

include magnitudes

theorem isMagnitude_of_mem_filterMap : ∀ x ∈ column.filterMap readDecimal?, x.IsMagnitude := by
  intro x hx
  obtain ⟨text, htext, read⟩ := List.mem_filterMap.mp hx
  exact (magnitudes text htext).isMagnitude read

theorem isMagnitude_peakOf : (peakOf column).IsMagnitude :=
  (maximum_isMagnitude (isMagnitude_of_mem_filterMap magnitudes)).1

theorem units_le_peakOf {text : String} (htext : text ∈ column) {x : Binary64} (read : x ∈ readDecimal? text) :
    x.units ≤ (peakOf column).units :=
  (maximum_isMagnitude (isMagnitude_of_mem_filterMap magnitudes)).2 x (List.mem_filterMap.mpr ⟨text, htext, read⟩)

/-- The greatest number of a column that is not empty stands in it. -/
theorem exists_reads_peakOf {text : String} (htext : text ∈ column) :
    ∃ top ∈ column, peakOf column ∈ readDecimal? top := by
  obtain ⟨x, read, -⟩ := magnitudes text htext
  have hx : x ∈ column.filterMap readDecimal? := List.mem_filterMap.mpr ⟨text, htext, read⟩
  exact List.mem_filterMap.mp (maximum_mem .zero (List.ne_nil_of_mem hx))

/-- A number of the column that is not below another one has at least as many blocks. -/
theorem blocksIn_le_blocksIn {s t : String} (hs : s ∈ column) (ht : t ∈ column) {x y : Binary64}
    (readX : x ∈ readDecimal? s) (readY : y ∈ readDecimal? t) (hlt : y.lt x = false) :
    blocksIn column s ≤ blocksIn column t := by
  have hx := (magnitudes s hs).isMagnitude readX
  have hy := (magnitudes t ht).isMagnitude readY
  rw [hy.lt_eq hx, decide_eq_false_iff_not, Nat.not_lt] at hlt
  rw [blocksIn_eq readX, blocksIn_eq readY]
  exact blocksBeside_mono _ hlt

/-- A positive number that no other one is above has a full bar. -/
theorem blocksIn_of_greatest {text : String} (htext : text ∈ column) {x : Binary64} (read : x ∈ readDecimal? text)
    (hpositive : x.isPositive = true) (greatest : Greatest column x) : blocksIn column text = 12 := by
  -- Neither is the number above the peak, nor the peak, which a text of the column writes, above the number.
  obtain ⟨top, htop, readTop⟩ := exists_reads_peakOf magnitudes htext
  have hx := (magnitudes text htext).isMagnitude read
  have hnot := greatest top htop _ readTop
  rw [hx.lt_eq (isMagnitude_peakOf magnitudes), decide_eq_false_iff_not, Nat.not_lt] at hnot
  rw [hx.isPositive_eq, decide_eq_true_iff] at hpositive
  have hpeak : (peakOf column).units = x.units := Nat.le_antisymm hnot (units_le_peakOf magnitudes htext read)
  rw [blocksIn_eq read, hpeak]
  exact blocksBeside_self hpositive

/-- In a column of zeros all bars are empty. -/
theorem blocksIn_of_flat (flat : Flat column) {text : String} (htext : text ∈ column) : blocksIn column text = 0 := by
  obtain ⟨top, htop, readTop⟩ := exists_reads_peakOf magnitudes htext
  have hzero := flat top htop _ readTop
  rw [(isMagnitude_peakOf magnitudes).isPositive_eq, decide_eq_false_iff_not, Nat.not_lt, Nat.le_zero] at hzero
  rw [blocksIn, hzero]
  exact blocksBeside_zero _

theorem blocksIn_le {text : String} (htext : text ∈ column) : blocksIn column text ≤ 12 := by
  obtain ⟨x, read, -⟩ := magnitudes text htext
  rw [blocksIn_eq read]
  exact blocksBeside_le (units_le_peakOf magnitudes htext read)

/-- **The bars of a column are in proportion** to its numbers. -/
theorem inProportion_blocksIn : InProportion column (blocksIn column) where
  le_width _ htext := blocksIn_le magnitudes htext
  mono _ hs _ ht _ readX _ readY hlt := blocksIn_le_blocksIn magnitudes hs ht readX readY hlt
  full _ htext _ read hpositive greatest := blocksIn_of_greatest magnitudes htext read hpositive greatest
  empty flat _ htext := blocksIn_of_flat magnitudes flat htext

theorem numbersOf_column : numbersOf column = .ok (column.filterMap readDecimal?) := by
  refine numbersOf_eq fun text htext => ?_
  obtain ⟨x, read, -⟩ := magnitudes text htext
  exact Option.isSome_of_mem read

/-- The cells of a column beside its greatest number. -/
theorem barCell_peakOf {text : String} (htext : text ∈ column) :
    barCell text (peakOf column) = .ok (barredCell (blocksIn column text) text) := by
  obtain ⟨x, read, hx⟩ := magnitudes text htext
  rw [barCell, bar_eq read hx (isMagnitude_peakOf magnitudes) (units_le_peakOf magnitudes htext read),
    ← blocksIn_eq read]
  rfl

end Column

/-! ## The table -/

/-- The rows of the table are those of the records, in the order given. -/
theorem instructionRows_eq {peakLatency peakThroughput : Binary64}
    {latencyCell throughputCell : InstructionRecord → String} {records : List InstructionRecord}
    (latency : ∀ r ∈ records, barCell r.latency peakLatency = .ok (latencyCell r))
    (throughput : ∀ r ∈ records, barCell r.throughput peakThroughput = .ok (throughputCell r)) :
    instructionRows peakLatency peakThroughput records = .ok (records.map fun r =>
      [toString r.order, r.uops, latencyCell r, throughputCell r, Text.escapeMarkup r.instruction]) := by
  induction records with
  | nil => rfl
  | cons r records ih =>
      rw [List.forall_mem_cons] at latency throughput
      rw [instructionRows, latency.1, throughput.1, ih latency.2 throughput.2]
      rfl

/-- The table once its rows are known: the cells under a header are what stands at its place in the rows. -/
theorem exists_table_of_rows {records : List InstructionRecord} {xs ys : List Binary64} {rows : List (List String)}
    (hxs : numbersOf (records.map (·.latency)) = .ok xs) (hys : numbersOf (records.map (·.throughput)) = .ok ys)
    (hrows : instructionRows (.maximum .zero xs) (.maximum .zero ys) records = .ok rows) :
    ∃ table, instructionsTable records = .ok table ∧
      table.columns.map (fun c => (c.header, c.cells)) =
        ["#", "uOps", "Latency", "Throughput", "Instruction"].mapIdx fun i header =>
          (header, rows.map fun row => row.getD i "") := by
  unfold instructionsTable
  simp only [hxs, hys, hrows, bind, Except.bind]
  exact ⟨_, rfl, rfl⟩

/-- The headers of the instruction table and the cells under them: one for each record, in the order given, with so
many full blocks for a latency and for a throughput. -/
def barredColumns (latencyBlocks throughputBlocks : String → Nat) (records : List InstructionRecord) :
    List (String × List String) :=
  [("#", records.map fun r => toString r.order),
   ("uOps", records.map fun r => r.uops),
   ("Latency", records.map fun r => barredCell (latencyBlocks r.latency) r.latency),
   ("Throughput", records.map fun r => barredCell (throughputBlocks r.throughput) r.throughput),
   ("Instruction", records.map fun r => Text.escapeMarkup r.instruction)]

/-- **Bars in proportion.**  Of records whose latencies and throughputs are finite and not below zero there is an
instruction table.  It has one row for each record, in the order given, and the bars of either column are in proportion
to its numbers. -/
theorem bars_instructionsTable {records : List InstructionRecord}
    (magnitudes : ∀ r ∈ records, ReadsMagnitude r.latency ∧ ReadsMagnitude r.throughput) :
    ∃ table latencyBlocks throughputBlocks, instructionsTable records = .ok table ∧
      table.columns.map (fun c => (c.header, c.cells)) = barredColumns latencyBlocks throughputBlocks records ∧
      InProportion (records.map (·.latency)) latencyBlocks ∧
      InProportion (records.map (·.throughput)) throughputBlocks := by
  have latencies : ∀ text ∈ records.map (·.latency), ReadsMagnitude text :=
    List.forall_mem_map.mpr fun r hr => (magnitudes r hr).1
  have throughputs : ∀ text ∈ records.map (·.throughput), ReadsMagnitude text :=
    List.forall_mem_map.mpr fun r hr => (magnitudes r hr).2
  have hrows := instructionRows_eq
    (fun r hr => barCell_peakOf latencies (List.mem_map_of_mem hr))
    (fun r hr => barCell_peakOf throughputs (List.mem_map_of_mem hr))
  obtain ⟨table, htable, hcolumns⟩ :=
    exists_table_of_rows (numbersOf_column latencies) (numbersOf_column throughputs) hrows
  refine ⟨table, _, _, htable, ?_, inProportion_blocksIn latencies, inProportion_blocksIn throughputs⟩
  rw [hcolumns]
  simp [barredColumns]

/-- Records with a tie at the top, zeros of both signs, the least positive number, and throughputs that are all zero. -/
def unevenRecords : List InstructionRecord :=
  [⟨1, "1", "8.0", "0", "vaddps"⟩, ⟨2, "2", "-0.0", "-0", "[nop]"⟩, ⟨3, "1", "5e-324", "0.00", "mov"⟩,
   ⟨4, "1", " 8", "0e5", "ret"⟩]

/-- Both spellings of the greatest latency have a full bar, and no throughput has a block. -/
theorem bars_instructionsTable_uneven :
    (∀ r ∈ unevenRecords, ReadsMagnitude r.latency ∧ ReadsMagnitude r.throughput) ∧
    ∃ table latencyBlocks throughputBlocks, instructionsTable unevenRecords = .ok table ∧
      table.columns.map (fun c => (c.header, c.cells)) = barredColumns latencyBlocks throughputBlocks unevenRecords ∧
      latencyBlocks "8.0" = 12 ∧ latencyBlocks " 8" = 12 ∧ latencyBlocks "-0.0" ≤ latencyBlocks "5e-324" ∧
      ∀ r ∈ unevenRecords, throughputBlocks r.throughput = 0 := by
  have magnitudes : ∀ r ∈ unevenRecords, ReadsMagnitude r.latency ∧ ReadsMagnitude r.throughput := by
    decide +kernel
  have eight_read : finite false (8 * unitsPerOne) ∈ readDecimal? "8.0" ∧
      finite false (8 * unitsPerOne) ∈ readDecimal? " 8" := by
    decide +kernel
  have eight_greatest : Greatest (unevenRecords.map (·.latency)) (finite false (8 * unitsPerOne)) := by
    decide +kernel
  have zeros : Flat (unevenRecords.map (·.throughput)) := by
    decide +kernel
  obtain ⟨table, latencyBlocks, throughputBlocks, htable, hcolumns, hlatency, hthroughput⟩ :=
    bars_instructionsTable magnitudes
  refine ⟨magnitudes, table, latencyBlocks, throughputBlocks, htable, hcolumns, ?_, ?_, ?_, fun r hr => ?_⟩
  · exact hlatency.full _ (by decide) _ eight_read.1 (by decide +kernel) eight_greatest
  · exact hlatency.full _ (by decide) _ eight_read.2 (by decide +kernel) eight_greatest
  · exact hlatency.mono _ (by decide) _ (by decide) (finite true 0) (by decide +kernel) (finite false 1)
      (by decide +kernel) (by decide +kernel)
  · exact hthroughput.empty zeros _ (List.mem_map_of_mem hr)

end SnippetCost
