import SnippetCost.Json.Printer
import SnippetCost.Report.Measure

/-!
# Results

The outcome of one analysis: the target it was for, what the simulator's report says, and the two texts
it was made from.
-/

namespace SnippetCost

/-- The outcome of one analysis. -/
structure AnalysisResult where
  targetId : String
  targetLabel : String
  summary : Summary
  instructions : List InstructionRecord
  assembly : String := ""
  report : String := ""
  deriving DecidableEq, Repr

namespace AnalysisResult

/-- The result in one line. -/
def headline (r : AnalysisResult) : String :=
  "Latency: " ++ r.summary.totalCycles.text ++ " cycles | Throughput: " ++
    r.summary.blockThroughput.text

/-- The JSON value of a result. -/
def json (r : AnalysisResult) : Json :=
  .record
    [("target", .text r.targetId),
     ("cpu_target", .text r.targetLabel),
     ("total_cycles", r.summary.totalCycles.json),
     ("block_throughput", r.summary.blockThroughput.json),
     ("summary", r.summary.json),
     ("instructions", .list (r.instructions.map InstructionRecord.json)),
     ("assembly", .text r.assembly),
     ("full_report", .text r.report)]

/-- The JSON text of a result. -/
def jsonText (r : AnalysisResult) (indent : Option Nat) : String :=
  r.json.render indent

end AnalysisResult

end SnippetCost
