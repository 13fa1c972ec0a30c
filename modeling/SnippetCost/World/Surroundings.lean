import SnippetCost.World.Basic

/-!
# Surroundings

All a run can see before it starts an analysis: the machine, the environment's variables, where
executables are found; and the world it will run in.
-/

namespace SnippetCost

/-- What a run finds around it. -/
structure Surroundings where
  world : World
  /-- The system's answer to what machine it is. -/
  machine : Except OsError String
  /-- The value of an environment variable, if it is set. -/
  environment : String → Option String
  /-- Where an executable of a name is found. -/
  lookUp : String → Option String

end SnippetCost
