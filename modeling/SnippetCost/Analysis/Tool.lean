import SnippetCost.Analysis.Failure
import SnippetCost.Text.ShellWord
import SnippetCost.World.Basic

/-!
# Running a tool

A tool is started in a workspace with a time limit.  If it finishes, its output is the answer, whatever
its status; otherwise the stage it was started for fails, or the work breaks off because the call is none.
-/

namespace SnippetCost

/-- What the end of a run means for the stage the tool was started for. -/
def Ending.output (stage : Stage) (limit : Seconds) (argv : List String) :
    Ending → Except Halt ToolOutput
  | .refused fault => .error (.broken fault)
  | .unstarted e => .error (.failed (.unstartable stage e))
  | .expired out err => .error (.failed (.expired stage limit argv (capturedBeforeExpiry out err)))
  | .exited status out err => .ok ⟨argv, status, capturedText out, capturedText err⟩

/-- Runs a tool in a workspace. -/
def World.runTool (w : World) (stage : Stage) (argv : List String) (limit : Seconds)
    (ws : Workspace) : Traced (Except Halt ToolOutput × Workspace) := do
  Traced.log .info ("Running: " ++ Text.shellCommand argv)
  let (ending, ws) ← w.start argv limit ws
  return (ending.output stage limit argv, ws)

/-- Creates a workspace whose name starts with a given text.  A name with a NUL character in it is none; what the
system refuses before it comes to the name is a failure all the same. -/
def World.create (w : World) (stem : String) : Except Halt Workspace :=
  match w.creation with
  | .error e => .error (.failed (.workspaceRefused e))
  | .ok ws => if stem.toList.contains '\x00' then .error (.broken .nulInside) else .ok ws

/-- Does something in a workspace of its own, created before and removed after it, whatever comes of it.
The answer says, besides, what is left of the workspace if one was created. -/
def World.withWorkspace {β : Type} (w : World) (stem : String)
    (body : String → Workspace → Traced (β × Workspace)) :
    Traced (Except Halt β × Option Workspace) := do
  match w.create stem with
  | .error halt => return (.error halt, none)
  | .ok ws =>
    let location := w.location stem
    Traced.event (.workspaceCreated location)
    Traced.log .debug ("Created temp directory: " ++ location)
    let (value, ws) ← body location ws
    let (_, ws) ← w.remove location ws
    return (.ok value, some ws)

end SnippetCost
