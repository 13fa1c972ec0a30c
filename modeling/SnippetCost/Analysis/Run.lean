import SnippetCost.Analysis.Tool
import SnippetCost.Host
import SnippetCost.Report.Parser
import SnippetCost.Result.Basic
import SnippetCost.Snippet.Composition
import SnippetCost.Snippet.Source
import SnippetCost.Target.Catalog
import SnippetCost.Toolchain.Config

/-!
# An analysis

An analysis checks the source, writes the compilation unit into a fresh workspace, compiles it, has the
assembly simulated, removes the workspace and reads the report.  The first stage that fails ends it, and so does
a call that is none; the workspace is removed in any case.
-/

namespace SnippetCost

/-- The file of the compilation unit. -/
def sourceName : String := "input.cpp"

/-- The file of the assembly. -/
def assemblyName : String := "output.s"

/-- Who analyses: the targets on offer, the tools, and the host. -/
structure Analyzer where
  catalog : Catalog
  config : Config
  host : Host

/-- A source and the target it is to be analysed for. -/
structure Request where
  source : SourceText
  target : Target
  deriving DecidableEq, Repr

/-- What comes of an analysis. -/
inductive Outcome where
  | ok (result : AnalysisResult)
  | error (e : AnalysisError)
  /-- The analysis broke off over a call that was refused. -/
  | broken (fault : CallFault)
  deriving DecidableEq, Repr

namespace Outcome

/-- Did the analysis break off? -/
def isBroken : Outcome → Bool
  | .broken _ => true
  | _ => false

/-- What can be told of an analysis, unless it broke off. -/
def told : Outcome → Except CallFault (Except AnalysisError AnalysisResult)
  | .ok result => .ok (.ok result)
  | .error e => .ok (.error e)
  | .broken fault => .error fault

end Outcome

/-- What comes of an analysis whose work came to a halt. -/
def Halt.outcome : Halt → Outcome
  | .failed fault => .error (.failed fault)
  | .broken fault => .broken fault

/-- How an analysis ended, and what is left of its workspace if it had one. -/
structure Conclusion where
  outcome : Outcome
  workspace : Option Workspace

/-- Is there a workspace directory left behind? -/
def Conclusion.leavesWorkspace (c : Conclusion) : Bool :=
  (c.workspace.map Workspace.isThere).getD false

/-- The target with an id.  That there is none is told by the id. -/
def Catalog.lookup (c : Catalog) (id : String) : Except Rejection Target :=
  match c.get? id with
  | some t => .ok t
  | none => .error (.unknownTarget id)

namespace Analyzer

/-! ## Stages -/

/-- How long each tool may take. -/
def limit (a : Analyzer) : Seconds :=
  .real a.config.timeLimit

/-- The command line of the compiler for a target. -/
def compileCommand (a : Analyzer) (t : Target) : List String :=
  a.config.compileCommand sourceName assemblyName (t.compileFlags a.host.family)

/-- The command line of the simulator for a target. -/
def simulateCommand (a : Analyzer) (t : Target) : List String :=
  a.config.simulateCommand assemblyName t.simulatedCpu

/-- Writes the compilation unit. -/
def writeUnit (w : World) (location : String) (text : String) (ws : Workspace) :
    Traced (Except Halt Unit × Workspace) := do
  match w.writeFile ws location sourceName (Text.encode text.toList) with
  | .error e => return (.error (.failed (.sourceRefused e)), ws)
  | .ok ws =>
    Traced.log .debug ("Written " ++ sourceName ++ " with headers")
    return (.ok (), ws)

/-- Compiles the compilation unit; the answer is the assembly. -/
def compile (a : Analyzer) (w : World) (location : String) (t : Target) (ws : Workspace) :
    Traced (Except Halt String × Workspace) := do
  let (answer, ws) ← w.runTool .compile (a.compileCommand t) a.limit ws
  match answer with
  | .error halt => return (.error halt, ws)
  | .ok output =>
    if !output.succeeded then return (.error (.failed (.compilerFailed t.displayName output)), ws)
    else
      match w.readFile ws location assemblyName with
      | .error e => return (.error (.failed (.assemblyUnreadable e output)), ws)
      | .ok bytes => return (.ok (capturedText bytes), ws)

/-- Has the assembly simulated; the answer is the report. -/
def simulate (a : Analyzer) (w : World) (t : Target) (ws : Workspace) :
    Traced (Except Halt String × Workspace) := do
  let (answer, ws) ← w.runTool .simulate (a.simulateCommand t) a.limit ws
  match answer with
  | .error halt => return (.error halt, ws)
  | .ok output =>
    if !output.succeeded then
      return (.error (.failed (.simulatorFailed (cpuText t.simulatedCpu) output)), ws)
    else return (.ok output.out, ws)

/-- What is done in the workspace at `location`: the answer is the assembly and the report. -/
def stages (a : Analyzer) (w : World) (t : Target) (text : String) (location : String)
    (ws : Workspace) : Traced (Except Halt (String × String) × Workspace) := do
  let (written, ws) ← writeUnit w location text ws
  match written with
  | .error halt => return (.error halt, ws)
  | .ok () =>
    let (assembly, ws) ← a.compile w location t ws
    match assembly with
    | .error halt => return (.error halt, ws)
    | .ok assembly =>
      let (report, ws) ← a.simulate w t ws
      return (report.map (assembly, ·), ws)

/-! ## The whole -/

/-- The result for a target, from the two texts. -/
def conclude (t : Target) (assembly report : String) : Traced AnalysisResult := do
  let parsed ← readReport report
  Traced.log .info ("Parsed " ++ toString parsed.instructions.length ++ " instructions (cycles=" ++
    parsed.summary.totalCycles.text ++ ", rthroughput=" ++ parsed.summary.blockThroughput.text ++ ")")
  return { targetId := t.id
           targetLabel := t.displayName
           summary := parsed.summary
           instructions := parsed.instructions
           assembly := assembly
           report := report }

/-- Analyses a request. -/
def run (a : Analyzer) (w : World) (request : Request) : Traced Conclusion := do
  match acceptSource request.source with
  | .error rejection => return ⟨.error (.rejected rejection), none⟩
  | .ok code =>
    let t := request.target
    Traced.log .info ("Analyzing for " ++ t.displayName)
    let (answer, left) ← w.withWorkspace a.config.workspaceStem
      (a.stages w t (t.compose a.host.family code))
    match answer with
    | .error halt => return ⟨halt.outcome, left⟩
    | .ok (.error halt) => return ⟨halt.outcome, left⟩
    | .ok (.ok (assembly, report)) =>
      let result ← conclude t assembly report
      return ⟨.ok result, left⟩

/-- The request to analyse a source for the target with an id.  The source is checked first. -/
def request (a : Analyzer) (source : SourceText) (id : String) : Except Rejection Request := do
  let _ ← acceptSource source
  return ⟨source, ← a.catalog.lookup id⟩

/-- Analyses a source for the target with an id. -/
def analyze (a : Analyzer) (w : World) (source : SourceText) (id : String) : Traced Conclusion :=
  match a.request source id with
  | .error rejection => return ⟨.error (.rejected rejection), none⟩
  | .ok request => a.run w request

end Analyzer

end SnippetCost
