import SnippetCost.Analysis.Matrix

/-!
# Exit codes

A run that is let through ends with zero, or with a code that says at which stage it failed: that of the
first failure, where there are several.
-/

namespace SnippetCost

/-- The command was carried out. -/
def successCode : Nat := 0

/-- The request was rejected. -/
def rejectedCode : Nat := 2

/-- A stage failed. -/
def Stage.exitCode : Stage → Nat
  | .compile => 3
  | .simulate => 4
  | .workspaceSetup => 5
  | .cleanup => 1

/-- An analysis gave no result. -/
def AnalysisError.exitCode : AnalysisError → Nat
  | .rejected _ => rejectedCode
  | .failed fault => fault.failure.stage.exitCode

/-- Several analyses are over. -/
def exitCodeOf : List MatrixOutcome → Nat
  | [] => successCode
  | o :: os =>
    match o.outcome with
    | .ok _ => exitCodeOf os
    | .error e => e.exitCode

end SnippetCost
