import SnippetCost.Json.Value
import SnippetCost.Number.Shortest

/-!
# Measures and records

What is read off a report: eight measures, each of which may be missing, and one record for each
instruction.  That a measure is missing is not a number and never shown as one.
-/

namespace SnippetCost

/-- A measure: missing, a count, or a ratio. -/
inductive Measure where
  | unavailable
  | count (n : Int)
  | ratio (x : Number.Binary64)
  deriving DecidableEq, Repr

namespace Measure

/-- What is shown in place of a missing measure. -/
def unavailableText : String := "N/A"

/-- The text of a measure. -/
def text : Measure → String
  | .unavailable => unavailableText
  | .count n => toString n
  | .ratio x => x.text

/-- The JSON form of a measure. -/
def json : Measure → Json
  | .unavailable => .text unavailableText
  | .count n => .integer n
  | .ratio x => .decimal x

end Measure

/-- The measures of a report. -/
structure Summary where
  totalCycles : Measure := .unavailable
  blockThroughput : Measure := .unavailable
  iterations : Measure := .unavailable
  instructionCount : Measure := .unavailable
  totalUops : Measure := .unavailable
  dispatchWidth : Measure := .unavailable
  uopsPerCycle : Measure := .unavailable
  ipc : Measure := .unavailable
  deriving DecidableEq, Repr

/-- The JSON form of a summary. -/
def Summary.json (s : Summary) : Json :=
  .record
    [("total_cycles", s.totalCycles.json),
     ("block_throughput", s.blockThroughput.json),
     ("iterations", s.iterations.json),
     ("instruction_count", s.instructionCount.json),
     ("total_uops", s.totalUops.json),
     ("dispatch_width", s.dispatchWidth.json),
     ("uops_per_cycle", s.uopsPerCycle.json),
     ("ipc", s.ipc.json)]

/-- One row of the instruction table.  The columns keep the text they have in the report. -/
structure InstructionRecord where
  order : Int
  uops : String
  latency : String
  throughput : String
  instruction : String
  deriving DecidableEq, Repr

/-- The JSON form of a record. -/
def InstructionRecord.json (r : InstructionRecord) : Json :=
  .record
    [("order", .integer r.order),
     ("uops", .text r.uops),
     ("latency", .text r.latency),
     ("throughput", .text r.throughput),
     ("instruction", .text r.instruction)]

/-- What is read off a report. -/
structure ParsedReport where
  summary : Summary
  instructions : List InstructionRecord
  deriving DecidableEq, Repr

end SnippetCost
