import SnippetCost.Analysis.Run
import SnippetCost.Target.Curated
import SnippetCost.World.Surroundings

/-!
# Analysing a snippet in one call

The configuration is read off the environment, the host is asked what it is, and the catalog is the given
one unless that is missing or empty.
-/

namespace SnippetCost

/-- Why a snippet is not analysed, or gives no result. -/
inductive SnippetError where
  | badTimeLimit (error : BadTimeLimit)
  | analysis (error : AnalysisError)
  | broken (fault : CallFault)
  deriving DecidableEq, Repr

/-- What comes of a snippet whose analysis is over. -/
def Outcome.answer : Outcome → Except SnippetError AnalysisResult
  | .ok result => .ok result
  | .error e => .error (.analysis e)
  | .broken fault => .error (.broken fault)

/-- The catalog to use: the given one if it has targets, else the curated one. -/
def chosenCatalog (given : Option Catalog) : Catalog :=
  (given.filter (·.size != 0)).getD .curated

/-- Analyses a source for the target with an id, in the surroundings it is called in. -/
def analyzeSnippet (s : Surroundings) (given : Option Catalog) (source : SourceText) (id : String) :
    Traced (Except SnippetError AnalysisResult) := do
  match Config.ofEnvironment s.environment s.lookUp with
  | .error e => return .error (.badTimeLimit e)
  | .ok config =>
    let host ← Host.detect s.machine
    let conclusion ← Analyzer.analyze ⟨chosenCatalog given, config, host⟩ s.world source id
    return conclusion.outcome.answer

end SnippetCost
