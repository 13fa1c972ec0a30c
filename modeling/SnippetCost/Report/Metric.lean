import SnippetCost.Number.Literal
import SnippetCost.Report.Measure
import SnippetCost.Text.Blank
import SnippetCost.Text.DecimalDigit

/-!
# Labelled numbers

A measure of a report is a number behind a label.  The label is searched from the start of the text; the
first place counts where it is followed by blank characters and then a digit, and most labels count only
at the start of a line.  The blank characters may include line breaks.
-/

namespace SnippetCost

open SnippetCost.Text

/-- The measures of a report, in the order in which they are read. -/
inductive Metric where
  | iterations
  | instructionCount
  | totalCycles
  | totalUops
  | dispatchWidth
  | uopsPerCycle
  | ipc
  | blockThroughput
  deriving DecidableEq, Repr

namespace Metric

/-- All measures, in the order in which they are read. -/
def all : List Metric :=
  [.iterations, .instructionCount, .totalCycles, .totalUops, .dispatchWidth, .uopsPerCycle, .ipc,
   .blockThroughput]

/-- The name of a measure in messages. -/
def name : Metric → String
  | .iterations => "iterations"
  | .instructionCount => "instruction_count"
  | .totalCycles => "total_cycles"
  | .totalUops => "total_uops"
  | .dispatchWidth => "dispatch_width"
  | .uopsPerCycle => "uops_per_cycle"
  | .ipc => "ipc"
  | .blockThroughput => "block_throughput"

/-- The label of a measure in reports. -/
def label : Metric → String
  | .iterations => "Iterations:"
  | .instructionCount => "Instructions:"
  | .totalCycles => "Total Cycles:"
  | .totalUops => "Total uOps:"
  | .dispatchWidth => "Dispatch Width:"
  | .uopsPerCycle => "uOps Per Cycle:"
  | .ipc => "IPC:"
  | .blockThroughput => "Block RThroughput:"

/-- Does the label count only at the start of a line? -/
def startsLine : Metric → Bool
  | .totalCycles | .blockThroughput => false
  | _ => true

/-- Is the number a ratio, which may have a fraction? -/
def isRatio : Metric → Bool
  | .uopsPerCycle | .ipc | .blockThroughput => true
  | _ => false

end Metric

/-- What follows a text at the start of another one, if it stands there. -/
def afterText? : List Char → List Char → Option (List Char)
  | [], cs => some cs
  | _ :: _, [] => none
  | a :: as, c :: cs => if a = c then afterText? as cs else none

/-- The fraction at the start of a text: a point and digits, or nothing. -/
def takeFraction : List Char → List Char
  | '.' :: cs =>
    let digits := cs.takeWhile isDigit
    if digits.isEmpty then [] else '.' :: digits
  | _ => []

/-- The number at the start of a text: digits, and a fraction if there may be one. -/
def takeNumber (withFraction : Bool) (cs : List Char) : List Char :=
  let whole := cs.takeWhile isDigit
  if withFraction && !whole.isEmpty then whole ++ takeFraction (cs.dropWhile isDigit) else whole

/-- The number behind blank characters, at least one of them. -/
def numberBehindBlanks? (withFraction : Bool) (cs : List Char) : Option (List Char) :=
  let number := takeNumber withFraction (cs.dropWhile isBlank)
  if (cs.takeWhile isBlank).isEmpty || number.isEmpty then none else some number

namespace Metric

/-- The number of the measure if its label stands at the start of the text. -/
def numberHere? (m : Metric) (cs : List Char) : Option (List Char) :=
  (afterText? m.label.toList cs).bind (numberBehindBlanks? m.isRatio)

/-- The number of the measure in a text, the start of which is that of a line or not. -/
def findNumber? (m : Metric) (atLineStart : Bool) : List Char → Option (List Char)
  | [] => none
  | c :: cs =>
    match (if atLineStart || !m.startsLine then m.numberHere? (c :: cs) else none) with
    | some number => some number
    | none => findNumber? m (c == '\n') cs

/-- The number a run of digits stands for.  A count with too many digits is not read. -/
def convert (m : Metric) (number : List Char) : Measure :=
  if m.isRatio then
    ((Number.readMagnitude? false number).map Measure.ratio).getD .unavailable
  else
    ((Number.natOfDigits? number).map fun n => Measure.count n).getD .unavailable

/-- The measure as the text reports it. -/
def extract (m : Metric) (text : List Char) : Measure :=
  match m.findNumber? true text with
  | some number => m.convert number
  | none => .unavailable

end Metric

/-- All measures of a text. -/
def Summary.extract (text : List Char) : Summary where
  totalCycles := Metric.totalCycles.extract text
  blockThroughput := Metric.blockThroughput.extract text
  iterations := Metric.iterations.extract text
  instructionCount := Metric.instructionCount.extract text
  totalUops := Metric.totalUops.extract text
  dispatchWidth := Metric.dispatchWidth.extract text
  uopsPerCycle := Metric.uopsPerCycle.extract text
  ipc := Metric.ipc.extract text

end SnippetCost
