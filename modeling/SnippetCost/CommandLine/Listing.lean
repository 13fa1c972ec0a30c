import SnippetCost.Analysis.Detection
import SnippetCost.CommandLine.ExitCode
import SnippetCost.CommandLine.Session
import SnippetCost.Display.Tables
import SnippetCost.Target.Curated

/-!
# The commands that list

One command lists targets: the whole catalog, or what can be analysed from the host or from a machine the
user names.  The other one lists the tools, and succeeds if both are there.  The texts in their tables are put there
as they come, so it may be that the console takes some of them for markup and makes no sense of it.
-/

namespace SnippetCost

/-- What stands for a machine without a name. -/
def Host.machineText (h : Host) : String :=
  if h.machine = "" then "unknown" else h.machine

/-- The host, or the machine that stands for it. -/
def TargetsSettings.host (settings : TargetsSettings) (s : Surroundings) : Traced Host :=
  match settings.machine with
  | some machine => Host.ofMachine machine
  | none => Host.detect s.machine

/-- What a command breaks down over that asks for a version in vain. -/
def VersionFault.breakdown : VersionFault → Breakdown
  | .malformed e => .malformedText e
  | .refused fault => .call fault

namespace Session

/-- Shows a table, and ends with an exit code. -/
def list (s : Session) (table : Table) (code : Nat) : Traced Aftermath :=
  match s.markupFault table with
  | some message => return s.fail (.markup message)
  | none => do
    Traced.display .out (.table table)
    return s.exit code

/-- Lists targets. -/
def listTargets (s : Session) (settings : TargetsSettings) : Traced Aftermath := do
  if settings.everything then
    s.list (targetsTable "All CPU targets" (sortForDisplay Catalog.curated.targets)) successCode
  else
    let host ← settings.host s.surroundings
    let targets := host.compatible Catalog.curated.targets
    s.list (targetsTable ("CPU targets for host " ++ host.machineText) (sortForDisplay targets)) successCode

/-- Asks tools for their versions, one after the other, until one of them cannot be asked or does not answer in
valid text. -/
def askVersions (s : Session) :
    List (Tool × String) → Traced (Except VersionFault (List (Tool × Option String)))
  | [] => return .ok []
  | (tool, path) :: tools => do
    match ← s.surroundings.world.toolVersion path with
    | .error e => return .error e
    | .ok version =>
      let rest ← askVersions s tools
      return rest.map ((tool, version) :: ·)

/-- Lists the tools. -/
def listTools (s : Session) : Traced Aftermath := do
  let found := Tool.detectAll s.surroundings.lookUp
  match ← s.askVersions found with
  | .error e => return s.fail e.breakdown
  | .ok versions =>
    s.list (toolsTable (found.lookup ·) fun t => (versions.lookup t).join)
      (if found.length = Tool.all.length then successCode else 1)

end Session

end SnippetCost
