/-!
# The stages of an analysis
-/

namespace SnippetCost

/-- The steps of an analysis that can fail on their own. -/
inductive Stage where
  | workspaceSetup
  | compile
  | simulate
  | cleanup
  deriving DecidableEq, Repr

/-- The name of a stage in messages and reports. -/
def Stage.name : Stage → String
  | .workspaceSetup => "workspaceSetup"
  | .compile => "compile"
  | .simulate => "simulate"
  | .cleanup => "cleanup"

end SnippetCost
