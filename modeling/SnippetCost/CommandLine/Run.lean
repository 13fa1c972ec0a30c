import SnippetCost.CommandLine.Analyze

/-!
# A run of the program

The command line is read; if it leads to a command the log level is chosen, the user's way of sorting is
asked for, and the command is carried out.
-/

namespace SnippetCost

/-- The least level that is logged. -/
def levelOf (verbosity : Nat) : LogLevel :=
  match verbosity with
  | 0 => .warning
  | 1 => .info
  | _ => .debug

namespace Session

/-- Asks for the user's way of sorting; without it texts are sorted by code points. -/
def requestCollation (s : Session) : Traced Unit := do
  Traced.event .collationRequested
  match s.collationFault with
  | none => return ()
  | some fault => Traced.log .debug ("Keeping default collation: " ++ fault)

/-- Carries out a command. -/
def perform (s : Session) : Command → Traced Aftermath
  | .targets settings => s.listTargets settings
  | .tools => s.listTools
  | .analyze input settings => s.analyze input settings

/-- Runs the program on a command line. -/
def run (s : Session) (words : List String) : Traced Aftermath :=
  match readCommandLine words with
  | .error detour => return { ending := .diverted detour, files := s.files }
  | .ok invocation => do
    Traced.event (.levelChosen (levelOf invocation.verbosity))
    s.requestCollation
    s.perform invocation.command

end Session

end SnippetCost
