import SnippetCost.CommandLine.ExitCode
import SnippetCost.CommandLine.Listing
import SnippetCost.Display.Tables

/-!
# The command that analyses

The source is read, the targets are admitted, the environment is consulted; only then is anything
analysed.  A single result is shown as tables or as JSON, several are compared in one table or put into one
JSON list, and what is shown as JSON can be written to a file as well.
-/

namespace SnippetCost

/-- The ids to analyse for: the native target's, if none is given. -/
def AnalyzeSettings.ids (settings : AnalyzeSettings) : List (Option String) :=
  if settings.targetIds.isEmpty then [some nativeId] else settings.targetIds

/-- The records of a result in the order the user wants. -/
def AnalyzeSettings.records (settings : AnalyzeSettings) (r : AnalysisResult) :
    Except ValueFault (List InstructionRecord) :=
  match settings.sortColumn with
  | some column => sortRecords r.instructions column settings.descending
  | none => .ok r.issueOrder

/-- How far lines of JSON documents are indented. -/
def jsonIndent : Option Nat := some 2

/-- The JSON document of several outcomes. -/
def outcomesText (outcomes : List MatrixOutcome) : String :=
  (Json.list (outcomes.map MatrixOutcome.json)).render jsonIndent

namespace Session

/-! ## Admission -/

/-- Whether targets are let through. -/
inductive Admission where
  /-- With these ids. -/
  | admitted (ids : List String)
  | refused
  /-- The id of a target is left out. -/
  | idLeftOut
  deriving DecidableEq, Repr

/-- An admission with one more id in front. -/
def Admission.cons (id : String) : Admission → Admission
  | .admitted ids => .admitted (id :: ids)
  | other => other

/-- Are the targets with these ids fit for the host?  Ids that are not known are left for later.  With
`force` a target that does not fit is only remarked on. -/
def admits (s : Session) (catalog : Catalog) (host : Host) (force : Bool) :
    List (Option String) → Traced Admission
  | [] => return .admitted []
  | none :: _ => return .idLeftOut
  | some id :: ids =>
    match (catalog.get? id).filter (!host.isCompatible ·) with
    | none => return (← admits s catalog host force ids).cons id
    | some _ =>
      if force then do
        Console.warning s.minimal
          ("Target " ++ id ++ " is not compatible with this host; continuing")
        return (← admits s catalog host force ids).cons id
      else do
        Console.error s.minimal
          ("Target " ++ id ++ " cannot be analyzed from a " ++ host.machineText ++
            " host (use --force to try anyway)")
        return .refused

/-! ## Delivery -/

/-- Tells of an analysis without a result. -/
def tell (s : Session) (error : AnalysisError) : Traced Unit := do
  Console.error s.minimal error.message
  match error with
  | .rejected _ => return ()
  | .failed fault =>
    match fault.failure.exitInfo with
    | none => return ()
    | some info =>
      if !info.argv.isEmpty then Console.block s.minimal "Command" (" ".intercalate info.argv)
      if info.output != "" then Console.block s.minimal "Captured output" info.output

/-- Writes a document to a file, if one is named; the answer holds the files behind it. -/
def save (s : Session) (output : Option String) (document : String) :
    Traced (FileSystem × Except PathFault Unit) :=
  match given? output with
  | none => return (s.files, .ok ())
  | some name => do
    let bytes := Text.encode document.toList
    let (files, answer) := s.files.writeWithFolders (.ofString name) bytes
    match answer with
    | .error fault => return (files, .error fault)
    | .ok () =>
      Traced.event (.fileWritten name bytes)
      Console.success s.minimal ("Results written to: " ++ name)
      return (files, .ok ())

/-- Shows a result as tables. -/
def showResult (s : Session) (settings : AnalyzeSettings) (r : AnalysisResult) :
    Traced (Except ValueFault Unit) := do
  Traced.display .out (.table (summaryTable r))
  match settings.records r >>= instructionsTable with
  | .error fault => return .error fault
  | .ok table =>
    Traced.display .out (.table table)
    if settings.showAssembly then Console.block s.minimal "Generated Assembly Code" r.assembly
    if settings.showReport then Console.block s.minimal "Full MCA Report" r.report
    Console.success s.minimal ("Analysis complete! " ++ r.headline)
    return .ok ()

/-- Delivers a result. -/
def deliver (s : Session) (settings : AnalyzeSettings) (r : AnalysisResult) (left : Nat) :
    Traced Aftermath := do
  let (files, written) ← s.save settings.output (r.jsonText jsonIndent)
  match written with
  | .error fault => return ⟨.broken (.file fault), files, left⟩
  | .ok () =>
    if settings.asJson then
      Traced.display .out (.json (r.jsonText jsonIndent))
      return ⟨.exited successCode, files, left⟩
    else
      match ← s.showResult settings r with
      | .error fault => return ⟨.broken (.unshowable fault), files, left⟩
      | .ok () => return ⟨.exited successCode, files, left⟩

/-- Delivers several outcomes, for which a table is an alternative to JSON. -/
def deliverAll (s : Session) (settings : AnalyzeSettings) (label? : String → Option String)
    (run : MatrixRun) : Traced Aftermath := do
  let code := exitCodeOf run.outcomes
  if settings.asJson || (given? settings.output).isSome then
    let (files, written) ← s.save settings.output (outcomesText run.outcomes)
    match written with
    | .error fault => return ⟨.broken (.file fault), files, run.leftWorkspaces⟩
    | .ok () =>
      if settings.asJson then Traced.display .out (.json (outcomesText run.outcomes))
      return ⟨.exited code, files, run.leftWorkspaces⟩
  else
    Traced.display .out (.table (matrixTable label? run.outcomes))
    return ⟨.exited code, s.files, run.leftWorkspaces⟩

/-! ## The command -/

/-- The number of steps that are announced. -/
def announcedSteps : Int := 2

/-- Announces the analysis. -/
def announceAnalysis (s : Session) (message : String) : Traced Unit :=
  Console.stage s.minimal 1 announcedSteps message

/-- Announces the delivery. -/
def announceDelivery (s : Session) : Traced Unit :=
  Console.stage s.minimal 2 announcedSteps "Generating report"

/-- Analyses for one target. -/
def analyzeOne (s : Session) (a : Analyzer) (source : SourceText) (id : String)
    (settings : AnalyzeSettings) : Traced Aftermath := do
  s.announceAnalysis
    ("Analyzing with LLVM-MCA (" ++ ((a.catalog.get? id).map Target.label).getD id ++ ")")
  let conclusion ← a.analyze (s.worlds 0) source id
  let left := conclusion.leavesWorkspace.toNat
  match conclusion.outcome with
  | .broken fault => return ⟨.broken (.call fault), s.files, left⟩
  | .error e =>
    s.tell e
    return ⟨.exited e.exitCode, s.files, left⟩
  | .ok r =>
    s.announceDelivery
    s.deliver settings r left

/-- Tells of a request that is rejected. -/
def reject (s : Session) (rejection : Rejection) : Traced Aftermath := do
  s.tell (.rejected rejection)
  return s.exit rejectedCode

/-- Analyses for several targets.  That the number of workers is left out is met only when they are
needed. -/
def analyzeSeveral (s : Session) (a : Analyzer) (source : SourceText) (ids : List String)
    (settings : AnalyzeSettings) : Traced Aftermath := do
  s.announceAnalysis ("Analyzing " ++ toString ids.length ++ " targets with LLVM-MCA")
  match settings.workers with
  | none =>
    match a.requests source ids with
    | .error rejection => s.reject rejection
    | .ok _ => return s.fail .workersLeftOut
  | some workers =>
    match ← a.analyzeMatrixAmid s.worlds source ids workers s.schedule s.takenUp with
    | .error (.rejected rejection) => s.reject rejection
    | .error (.broken fault left) => return ⟨.broken (.call fault), s.files, left⟩
    | .ok run =>
      s.announceDelivery
      s.deliverAll settings (fun id => (a.catalog.get? id).map Target.displayName) run

/-- Analyses a source that was read, for targets that were let through. -/
def analyzeAdmitted (s : Session) (host : Host) (source : SourceText) (ids : List String)
    (settings : AnalyzeSettings) : Traced Aftermath := do
  match Config.ofEnvironment s.surroundings.environment s.surroundings.lookUp with
  | .error e =>
    Console.error s.minimal e.message
    return s.exit rejectedCode
  | .ok config =>
    Console.info s.minimal ("Using " ++ config.compiler ++ " and " ++ config.simulator)
    let analyzer : Analyzer := ⟨.curated, config, host⟩
    match ids with
    | [id] => s.analyzeOne analyzer source id settings
    | ids => s.analyzeSeveral analyzer source ids settings

/-- Tells of a source that cannot be read. -/
def tellUnread (s : Session) (input reason : String) : Traced Aftermath := do
  Console.error s.minimal ("Could not read " ++ input ++ ": " ++ reason)
  return s.exit rejectedCode

/-- Analyses the source an argument names. -/
def analyze (s : Session) (input : String) (settings : AnalyzeSettings) : Traced Aftermath := do
  match s.readSource input with
  | .error (.unreadable (.refused e)) => s.tellUnread input e.text
  | .error (.unreadable fault) => return s.fail (.file fault)
  | .error (.malformed e) => s.tellUnread input e.message
  | .error .inputClosed => return s.fail .inputClosed
  | .ok source =>
    let host ← Host.detect s.surroundings.machine
    match ← s.admits .curated host settings.force settings.ids with
    | .refused => return s.exit rejectedCode
    | .idLeftOut => return s.fail .idLeftOut
    | .admitted ids => s.analyzeAdmitted host source ids settings

end Session

end SnippetCost
