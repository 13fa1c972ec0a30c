import SnippetCost.Number.Literal
import SnippetCost.Result.Basic
import SnippetCost.Order.RunMerge
import SnippetCost.Order.Stable
import SnippetCost.Text.Quoted

/-!
# Sorting the instruction table

The records can be sorted for display by any of their columns.  A numeric column is compared as numbers
of the 64-bit format, the instruction by code points; records that agree in the column stay in issue
order, whichever way the column is sorted.  A column with an undefined number in it has no order, so there
the arrangement is the one that merging runs arrives at.
-/

namespace SnippetCost

/-- The columns the table can be sorted by. -/
inductive SortColumn where
  | order
  | uops
  | latency
  | throughput
  | instruction
  deriving DecidableEq, Repr

namespace SortColumn

/-- All columns, in the order in which they are offered. -/
def all : List SortColumn := [.order, .uops, .latency, .throughput, .instruction]

/-- The name of a column. -/
def name : SortColumn → String
  | .order => "order"
  | .uops => "uops"
  | .latency => "latency"
  | .throughput => "throughput"
  | .instruction => "instruction"

/-- The column with a name. -/
def ofName? (name : String) : Option SortColumn :=
  all.find? (·.name == name)

end SortColumn

/-- Why the records cannot be sorted or shown. -/
inductive ValueFault where
  | unknownColumn (name : String)
  /-- The text of a column is no number. -/
  | notNumeric (text : String)
  /-- A number is out of the range of the 64-bit format. -/
  | outOfRange
  | noInteger (reason : Number.Binary64.NoInteger)
  /-- A bar would be longer than any text can be. -/
  | tooLong
  deriving DecidableEq, Repr

/-- The message about records that cannot be sorted or shown. -/
def ValueFault.message : ValueFault → String
  | .unknownColumn name =>
    "Cannot sort by " ++ Text.quoted name ++ ". Valid: " ++
      ", ".intercalate (SortColumn.all.map SortColumn.name)
  | .notNumeric text => "could not convert string to float: " ++ Text.quoted text
  | .outOfRange => "int too large to convert to float"
  | .noInteger reason => reason.message
  | .tooLong => "cannot fit 'int' into an index-sized integer"

/-- The number a text stands for. -/
def numberOf (text : String) : Except ValueFault Number.Binary64 :=
  match Number.readDecimal? text with
  | some x => .ok x
  | none => .error (.notNumeric text)

/-- The number nearest to an integer, if it is in range. -/
def numberOfInt (n : Int) : Except ValueFault Number.Binary64 :=
  let x := Number.Binary64.ofInt n
  if x.isFinite then .ok x else .error .outOfRange

/-- What records are compared by. -/
inductive SortKey where
  | number (x : Number.Binary64)
  | text (s : String)
  deriving DecidableEq, Repr

/-- The order of keys.  Keys of different kinds do not meet. -/
def SortKey.before : SortKey → SortKey → Bool
  | .number x, .number y => x.lt y
  | .text s, .text t => s < t
  | _, _ => false

/-- Does the key stand in an order with other keys?  An undefined number does not. -/
def SortKey.isOrdered : SortKey → Bool
  | .number x => x != .nan
  | .text _ => true

namespace InstructionRecord

/-- The key of a record for a column. -/
def sortKey (r : InstructionRecord) : SortColumn → Except ValueFault SortKey
  | .order => (numberOfInt r.order).map .number
  | .uops => (numberOf r.uops).map .number
  | .latency => (numberOf r.latency).map .number
  | .throughput => (numberOf r.throughput).map .number
  | .instruction => .ok (.text r.instruction)

end InstructionRecord

/-- The records with their keys, in order, or what is wrong with the first that has none. -/
def withKeys (column : SortColumn) :
    List InstructionRecord → Except ValueFault (List (SortKey × InstructionRecord))
  | [] => .ok []
  | r :: rs => do
    let key ← r.sortKey column
    let rest ← withKeys column rs
    return (key, r) :: rest

/-- Records in issue order. -/
def inIssueOrder (records : List InstructionRecord) : List InstructionRecord :=
  sortBy (fun r s => decide (r.order < s.order)) records

/-- Records with keys in the order of the keys, or in the opposite one. -/
def sortKeyed (keyed : List (SortKey × InstructionRecord)) (descending : Bool) :
    List (SortKey × InstructionRecord) :=
  let before := fun (a b : SortKey × InstructionRecord) => a.1.before b.1
  if keyed.all (·.1.isOrdered) then
    if descending then sortDescendingBy before keyed else sortBy before keyed
  else if descending then sortDescendingByRuns before keyed
  else sortByRuns before keyed

/-- Records sorted by a column; those that agree in it stay in issue order. -/
def sortRecords (records : List InstructionRecord) (column : SortColumn) (descending : Bool) :
    Except ValueFault (List InstructionRecord) := do
  let keyed ← withKeys column (inIssueOrder records)
  return (sortKeyed keyed descending).map (·.2)

namespace AnalysisResult

/-- The records in issue order. -/
def issueOrder (r : AnalysisResult) : List InstructionRecord :=
  inIssueOrder r.instructions

/-- The records sorted by the column with a name. -/
def sortedBy (r : AnalysisResult) (column : String) (descending : Bool) :
    Except ValueFault (List InstructionRecord) :=
  match SortColumn.ofName? column with
  | some column => sortRecords r.instructions column descending
  | none => .error (.unknownColumn column)

end AnalysisResult

end SnippetCost
