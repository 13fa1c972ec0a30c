import SnippetCost.Report.Row
import SnippetCost.Report.Section
import SnippetCost.World.Trace

/-!
# Reading a report

Reading never fails: a measure that is not there is missing, a line of the table that is no row is passed
over, and both are only remarked on.
-/

namespace SnippetCost

/-- The remarks on the measures that are missing. -/
def missingRemarks (text : List Char) : List String :=
  (Metric.all.filter fun m => m.extract text == .unavailable).map fun m =>
    "Report has no " ++ m.name ++ " field"

/-- The records of the rows among some lines, numbered on from `order`. -/
def readRows (order : Int) : List (List Char) → List InstructionRecord
  | [] => []
  | line :: rest =>
    match parseRow? line order with
    | some record => record :: readRows (order + 1) rest
    | none => readRows order rest

/-- Reading goes on behind some lines with the number behind theirs. -/
theorem readRows_append (order : Int) (before after : List (List Char)) :
    readRows order (before ++ after) =
      readRows order before ++ readRows (order + (readRows order before).length) after := by
  induction before generalizing order with
  | nil => simp [readRows]
  | cons line before ih =>
      rw [List.cons_append, readRows, readRows]
      cases parseRow? line order with
      | none => exact ih order
      | some record =>
          have hnext : order + 1 + ((readRows (order + 1) before).length : Int) =
              order + ((readRows (order + 1) before).length + 1 : Nat) := by
            omega
          simp only [ih, List.cons_append, List.length_cons, hnext]

/-- The remarks on the lines that are neither rows nor blank. -/
def skippedRemarks (lines : List (List Char)) : List String :=
  (lines.filter fun line => (parseRow? line 0).isNone && !Text.allBlank line).map fun line =>
    "Skipping unrecognized table line: " ++ String.ofList (Text.quotedChars line)

/-- What a report says. -/
def ParsedReport.ofText (text : List Char) : ParsedReport where
  summary := Summary.extract text
  instructions := readRows 1 (tableLines text)

/-- Reads a report, remarking on what is missing and what is passed over. -/
def readReport (text : String) : Traced ParsedReport := do
  Traced.logAll .debug (missingRemarks text.toList)
  Traced.logAll .debug (skippedRemarks (tableLines text.toList))
  return .ofText text.toList

end SnippetCost
