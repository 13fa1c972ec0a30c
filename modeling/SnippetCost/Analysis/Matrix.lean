import SnippetCost.Analysis.Pool
import SnippetCost.Analysis.Run

/-!
# One snippet for several targets

A matrix run analyses one source for a list of targets.  Requests are checked before anything is done, and
the first that is rejected ends the run.  After that the analyses share nothing: each has a workspace of
its own, a failure of one is its own outcome, and the outcomes stand in the order of the targets whatever
order the pool works in.

An analysis that breaks off has no outcome.  The first such one, in the order of the targets, breaks the run
off, too.
-/

namespace SnippetCost

/-- The outcome for one target of a matrix run. -/
structure MatrixOutcome where
  targetId : String
  outcome : Except AnalysisError AnalysisResult

namespace MatrixOutcome

/-- Did the analysis for this target give a result? -/
def succeeded (o : MatrixOutcome) : Bool :=
  o.outcome.toBool

/-- The JSON form of an outcome: that of the result, or the target, the error and, for a failed stage, what
is left behind. -/
def json (o : MatrixOutcome) : Json :=
  match o.outcome with
  | .ok r => r.json
  | .error (.rejected r) => .record [("target", .text o.targetId), ("error", .text r.message)]
  | .error (.failed fault) =>
    .record
      [("target", .text o.targetId),
       ("error", .text fault.failure.message),
       ("stage", .text fault.failure.stage.name),
       ("diagnostic", .text fault.failure.diagnostic)]

end MatrixOutcome

/-- A matrix run that was let through: its outcomes, and the number of workspaces left behind. -/
structure MatrixRun where
  outcomes : List MatrixOutcome
  leftWorkspaces : Nat

/-- Why a matrix run has no outcomes. -/
inductive MatrixFault where
  | rejected (rejection : Rejection)
  /-- An analysis broke off; so many workspaces are left behind by all of them. -/
  | broken (fault : CallFault) (leftWorkspaces : Nat)
  deriving DecidableEq, Repr

namespace Analyzer

/-- The requests for all ids, or the first rejection. -/
def requests (a : Analyzer) (source : SourceText) : List String → Except Rejection (List Request)
  | [] => .ok []
  | id :: ids => do
    let request ← a.request source id
    let rest ← requests a source ids
    return request :: rest

/-- One analysis of a matrix run.  A failure is logged with the target's id. -/
def runLogged (a : Analyzer) (w : World) (request : Request) : Traced Conclusion := do
  let conclusion ← a.run w request
  match conclusion.outcome with
  | .ok _ | .broken _ => return conclusion
  | .error e =>
    Traced.log .error (request.target.id ++ ": " ++ e.message)
    return conclusion

/-- Analyses a source for the targets with some ids, where `worlds i` is what the analysis with the number
`i` meets.  `wanted` workers are asked for, and `schedule` is the order in which the pool gets done; if an analysis
breaks off, `takenUp` is how many are taken up by the time the others are given up. -/
def analyzeMatrixAmid (a : Analyzer) (worlds : Nat → World) (source : SourceText) (ids : List String)
    (wanted : Int) (schedule : List Nat) (takenUp : Nat) : Traced (Except MatrixFault MatrixRun) :=
  match a.requests source ids with
  | .error rejection => return .error (.rejected rejection)
  | .ok requests =>
    let jobs := requests.mapIdx fun i request => (worlds i, request)
    let answers := Pool.answers (Pool.workers wanted requests.length) schedule
      (fun (w, request) => a.runLogged w request) jobs
    let conclusions := (Pool.inOrder requests.length answers).map (·.value)
    match conclusions.mapM (·.outcome.told) with
    | .ok told =>
      let outcomes := List.zipWith (fun r outcome => ⟨r.target.id, outcome⟩) requests told
      let left := (conclusions.filter Conclusion.leavesWorkspace).length
      ⟨.ok ⟨outcomes, left⟩, answers.flatMap (·.2.events)⟩
    | .error fault =>
      let answers := Pool.givenUpAt (conclusions.findIdx (·.outcome.isBroken)) takenUp answers
      let left := (answers.filter (·.2.value.leavesWorkspace)).length
      ⟨.error (.broken fault left), answers.flatMap (·.2.events)⟩

/-- `analyzeMatrixAmid` where all analyses meet the same world. -/
def analyzeMatrix (a : Analyzer) (w : World) (source : SourceText) (ids : List String) (wanted : Int)
    (schedule : List Nat) (takenUp : Nat) : Traced (Except MatrixFault MatrixRun) :=
  a.analyzeMatrixAmid (fun _ => w) source ids wanted schedule takenUp

end Analyzer

/-- The number of workers a matrix run asks for when nobody says. -/
def defaultWorkers : Int := 4

end SnippetCost
