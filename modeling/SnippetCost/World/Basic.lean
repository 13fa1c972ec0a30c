import SnippetCost.Analysis.Stage
import SnippetCost.World.Trace

/-!
# The outside world of an analysis

An analysis meets the world at four points: the workspace directory is created or not, files in it are
written and read or not, tools are run in it, and it is removed or not.  A `World` says what happens at
each, and which calls of tools are none.
-/

namespace SnippetCost

/-- How the world answers an analysis. -/
structure World where
  /-- Where the workspace is created whose name starts with a given text. -/
  location : String → String
  /-- The workspace as it is right after creation, or the refusal to create it. -/
  creation : Except OsError Workspace
  /-- What a command does in a workspace: how it ends, and the workspace behind it. -/
  run : List String → Workspace → Ending × Workspace
  /-- The refusal to remove the workspace, if the system refuses. -/
  removalFault : Option OsError
  /-- The refusal to write a file, if the system refuses whatever is in the workspace. -/
  writeFault : Option OsError := none
  /-- The refusal to read a file, if the system refuses whatever is in the workspace. -/
  readFault : Option OsError := none
  /-- What is wrong with a command line and a time limit, if the call is refused over them. -/
  callFault : List String → Seconds → Option CallFault := CallFault.of?

namespace World

/-- Calls a tool in a workspace: how that ends, and the workspace behind it.  With a NUL character in its
command line nothing is started; a time limit is looked at when the tool is at work, which is stopped if the
limit is none. -/
def attempt (w : World) (argv : List String) (limit : Seconds) (ws : Workspace) : Ending × Workspace :=
  match w.callFault argv limit with
  | none => w.run argv ws
  | some .nulInside => (.refused .nulInside, ws)
  | some fault => (.refused fault, (w.run argv ws).2)

/-- Starts a process in a workspace. -/
def start (w : World) (argv : List String) (limit : Seconds) (ws : Workspace) :
    Traced (Ending × Workspace) :=
  ⟨w.attempt argv limit ws, [.started ⟨argv, limit, ws⟩]⟩

/-- The workspace with a file written in it, or the refusal. -/
def writeFile (w : World) (ws : Workspace) (location name : String) (content : List UInt8) :
    Except OsError Workspace :=
  match w.writeFault with
  | some fault => .error fault
  | none => ws.write location name content

/-- The bytes of a file in a workspace, or the refusal. -/
def readFile (w : World) (ws : Workspace) (location name : String) : Except OsError (List UInt8) :=
  match w.readFault with
  | some fault => .error fault
  | none => ws.read location name

/-- Removes a workspace: is it gone, and what is left of it?  A refusal because there is nothing to
remove counts as success; any other one is logged. -/
def remove (w : World) (location : String) (ws : Workspace) : Traced (Bool × Workspace) := do
  Traced.event (.removalAttempted location)
  match w.removalFault, ws with
  | some fault, ws =>
    if fault.isNotFound then return (true, ws)
    else
      Traced.log .warning
        ("[" ++ Stage.cleanup.name ++ "] Could not remove " ++ location ++ ": " ++ fault.text)
      return (false, ws)
  | none, none => return (true, none)
  | none, some _ =>
    Traced.log .debug ("Cleaned up " ++ location)
    return (true, none)

end World

end SnippetCost
