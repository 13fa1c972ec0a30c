import SnippetCost.Analysis.Stage
import SnippetCost.Text.Blank
import SnippetCost.World.Process

/-!
# Failures of an analysis

Two kinds.  A *rejection* is about the request and comes before anything is done.  A *fault* is about a
stage: the world refused something, or a tool did not do its work.  A fault is a cause; the
`StageFailure` made from it is what users are told: the stage, a sentence, and what the tool left behind.

A call that is none is neither: no stage has an answer to it, and the analysis breaks off.
-/

namespace SnippetCost

/-! ## Rejections -/

/-- Why a request is rejected. -/
inductive Rejection where
  /-- The source is empty or all blank. -/
  | blankSource
  /-- The source has a surrogate at a position, counted in code points. -/
  | loneSurrogate (position : Nat)
  | unknownTarget (id : String)
  deriving DecidableEq, Repr

/-- The message about a rejected request. -/
def Rejection.message : Rejection → String
  | .blankSource => "No code selected: source text is empty"
  | .loneSurrogate position =>
    "Source text is not valid UTF-8: surrogates not allowed at position " ++ toString position
  | .unknownTarget id => "Unknown CPU target: " ++ id

/-! ## What failed stages leave behind -/

/-- What is left of the process of a failed stage: its command line, its exit status if it finished, and
its output. -/
structure ExitInfo where
  argv : List String
  status : Option Int
  output : String
  deriving DecidableEq, Repr

/-- What a finished tool left behind; of its two streams the one for errors, unless that is blank. -/
def ExitInfo.ofOutput (o : ToolOutput) : ExitInfo where
  argv := o.argv
  status := some o.status
  output := if Text.isBlankText o.err then o.out else o.err

/-- A failed stage as users are told of it. -/
structure StageFailure where
  stage : Stage
  detail : String
  exitInfo : Option ExitInfo
  deriving DecidableEq, Repr

namespace StageFailure

/-- The message about a failed stage. -/
def message (f : StageFailure) : String :=
  "[" ++ f.stage.name ++ "] " ++ f.detail

/-- The output of the failed tool; empty if none was started. -/
def diagnostic (f : StageFailure) : String :=
  (f.exitInfo.map (·.output)).getD ""

end StageFailure

/-! ## Faults -/

/-- Why a stage of an analysis fails. -/
inductive Fault where
  | workspaceRefused (error : OsError)
  | sourceRefused (error : OsError)
  | unstartable (stage : Stage) (error : OsError)
  /-- Stopped at its time limit, with what was captured until then. -/
  | expired (stage : Stage) (limit : Seconds) (argv : List String) (captured : String)
  | compilerFailed (target : String) (output : ToolOutput)
  | assemblyUnreadable (error : OsError) (output : ToolOutput)
  | simulatorFailed (cpu : String) (output : ToolOutput)
  deriving DecidableEq, Repr

/-- The output of a process that was stopped: what it wrote on the stream for errors, or else on the
other one.  Line breaks stay as they were written. -/
def capturedBeforeExpiry (out err : Option (List UInt8)) : String :=
  let bytes := if (err.getD []).isEmpty then out.getD [] else err.getD []
  String.ofList (Text.decodeReplacing bytes)

/-- How a fault is told. -/
def Fault.failure : Fault → StageFailure
  | .workspaceRefused e =>
    ⟨.workspaceSetup, "Could not create temporary workspace: " ++ e.text, none⟩
  | .sourceRefused e => ⟨.workspaceSetup, "Could not write source file: " ++ e.text, none⟩
  | .unstartable stage e =>
    ⟨stage, "Could not start " ++ stage.name ++ " tool: " ++ e.text, some ⟨[], none, e.text⟩⟩
  | .expired stage limit argv captured =>
    ⟨stage, stage.name ++ " timed out after " ++ limit.text ++ "s", some ⟨argv, none, captured⟩⟩
  | .compilerFailed target output =>
    ⟨.compile, "Compilation failed for " ++ target, some (.ofOutput output)⟩
  | .assemblyUnreadable e output =>
    ⟨.compile, "Compiler produced no assembly: " ++ e.text, some (.ofOutput output)⟩
  | .simulatorFailed cpu output =>
    ⟨.simulate, "llvm-mca failed for -mcpu=" ++ cpu, some (.ofOutput output)⟩

/-- Why the work of an analysis comes to a halt. -/
inductive Halt where
  | failed (fault : Fault)
  /-- A call was refused, and no stage has an answer to that. -/
  | broken (fault : CallFault)
  deriving DecidableEq, Repr

/-- Why an analysis that did not break off gives no result. -/
inductive AnalysisError where
  | rejected (rejection : Rejection)
  | failed (fault : Fault)
  deriving DecidableEq, Repr

/-- The message about an analysis without a result. -/
def AnalysisError.message : AnalysisError → String
  | .rejected r => r.message
  | .failed f => f.failure.message

end SnippetCost
