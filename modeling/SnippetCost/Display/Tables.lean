import SnippetCost.Analysis.Matrix
import SnippetCost.Display.Bar
import SnippetCost.Display.Output
import SnippetCost.Text.Markup
import SnippetCost.Toolchain.Config

/-!
# Tables

The tables in which catalogs, tools, results and comparisons are shown.  The texts of results, and the
names of targets beside them, are escaped; what catalogs and tools say of themselves is not.
-/

namespace SnippetCost

/-- A table from the heads of its columns and its rows. -/
def Table.ofRows (title : String) (columns : List Column) (rows : List (List String)) : Table where
  title := title
  columns := columns.mapIdx fun i column => { column with cells := rows.map fun row => row.getD i "" }

/-- A column without cells. -/
def Column.headed (header : String) (style : String) (justify : Justify) : Column :=
  { header := header, style := style, justify := justify, cells := [] }

/-- A list of targets. -/
def targetsTable (title : String) (targets : List Target) : Table :=
  .ofRows title
    [{ Column.headed "Id" "cyan" .left with noWrap := true }, .headed "Label" "" .left,
     .headed "Family" "" .left, .headed "Cross target" "dim" .left]
    (targets.map fun t => [t.id, t.label, t.family, t.crossTriple.getD ""])

/-- The tools, where they are and what they say their version is. -/
def toolsTable (path? version? : Tool → Option String) : Table :=
  .ofRows "Toolchain"
    [.headed "Tool" "cyan" .left, .headed "Path" "" .left, .headed "Version" "" .left]
    (Tool.all.map fun t =>
      [t.name, (given? (path? t)).getD "[red]not found[/red]", (version? t).getD ""])

/-- The summary of a result. -/
def summaryTable (r : AnalysisResult) : Table :=
  { Table.ofRows ("CPU Target: " ++ Text.escapeMarkup r.targetLabel)
      [.headed "Metric" "bold" .left, .headed "Value" "" .right]
      [["Total Cycles", r.summary.totalCycles.text],
       ["Block RThroughput", r.summary.blockThroughput.text],
       ["Instructions", toString r.instructions.length],
       ["Iterations", r.summary.iterations.text],
       ["uOps Per Cycle", r.summary.uopsPerCycle.text],
       ["IPC", r.summary.ipc.text]] with
    showHeader := false }

/-! ## The instruction table -/

/-- The numbers of a column of texts, or what is wrong with the first that is none. -/
def numbersOf : List String → Except ValueFault (List Number.Binary64)
  | [] => .ok []
  | text :: texts => do
    let x ← numberOf text
    let xs ← numbersOf texts
    return x :: xs

/-- A cell with a bar: the bar, and the value behind it. -/
def barCell (value : String) (peak : Number.Binary64) : Except ValueFault String := do
  let bar ← bar value peak barWidth
  return "[orange1]" ++ bar ++ "[/orange1] " ++ value

/-- The rows of the instruction table, given the greatest latency and throughput. -/
def instructionRows (peakLatency peakThroughput : Number.Binary64) :
    List InstructionRecord → Except ValueFault (List (List String))
  | [] => .ok []
  | r :: rs => do
    let latency ← barCell r.latency peakLatency
    let throughput ← barCell r.throughput peakThroughput
    let rest ← instructionRows peakLatency peakThroughput rs
    return [toString r.order, r.uops, latency, throughput, Text.escapeMarkup r.instruction] :: rest

/-- The instruction table, its rows in the order given. -/
def instructionsTable (records : List InstructionRecord) : Except ValueFault Table := do
  let latencies ← numbersOf (records.map (·.latency))
  let throughputs ← numbersOf (records.map (·.throughput))
  let rows ← instructionRows (.maximum .zero latencies) (.maximum .zero throughputs) records
  return .ofRows "Instruction Performance"
    [.headed "#" "" .right, .headed "uOps" "" .right, .headed "Latency" "" .left,
     .headed "Throughput" "" .left, .headed "Instruction" "green" .left]
    rows

/-! ## Comparisons -/

/-- The row of one outcome under the label of its target. -/
def outcomeRow (label : String) (outcome : Except AnalysisError AnalysisResult) : List String :=
  match outcome with
  | .ok r =>
    [Text.escapeMarkup label, r.summary.totalCycles.text, r.summary.blockThroughput.text,
     toString r.instructions.length, "[green]ok[/green]"]
  | .error e =>
    let status := match e with
      | .failed fault => fault.failure.stage.name ++ " failed"
      | .rejected _ => "failed"
    [Text.escapeMarkup label, "-", "-", "-", "[red]" ++ status ++ "[/red]"]

/-- The comparison of the outcomes for several targets; a target without a label goes by its id. -/
def matrixTable (label? : String → Option String) (outcomes : List MatrixOutcome) : Table :=
  .ofRows "Target comparison"
    [.headed "Target" "cyan" .left, .headed "Total Cycles" "" .right,
     .headed "Block RThroughput" "" .right, .headed "Instructions" "" .right,
     .headed "Status" "" .left]
    (outcomes.map fun o => outcomeRow ((label? o.targetId).getD o.targetId) o.outcome)

end SnippetCost
