import SnippetCost.World.FileTree
import SnippetCost.World.OsError

/-!
# Workspaces

A workspace is a directory of its own that holds the files of one analysis.  Any process may delete it,
so it is either its contents or nothing.
-/

namespace SnippetCost

/-- The contents of a workspace, unless the directory is gone. -/
abbrev Workspace := Option FileTree

namespace Workspace

/-- A workspace as it is after creation. -/
def fresh : Workspace := some FileTree.empty

/-- Is the directory still there? -/
def isThere (ws : Workspace) : Bool :=
  ws.isSome

/-- The name of a file in the workspace at `location`. -/
def fileName (location name : String) : String :=
  location ++ "/" ++ name

/-- The workspace with a file written in it. -/
def write (ws : Workspace) (location name : String) (content : List UInt8) :
    Except OsError Workspace :=
  match ws with
  | none => .error (.notFound (fileName location name))
  | some tree =>
    match tree.find? name with
    | some (.folder _) => .error (.isDirectory (fileName location name))
    | _ => .ok (some (tree.insert name (.file content)))

/-- The bytes of a file in the workspace. -/
def read (ws : Workspace) (location name : String) : Except OsError (List UInt8) :=
  match ws with
  | none => .error (.notFound (fileName location name))
  | some tree =>
    match tree.find? name with
    | some (.file content) => .ok content
    | some (.folder _) => .error (.isDirectory (fileName location name))
    | none => .error (.notFound (fileName location name))

/-- The bytes of a file, if the workspace holds it. -/
def content? (ws : Workspace) (name : String) : Option (List UInt8) :=
  match ws.bind (·.find? name) with
  | some (.file content) => some content
  | _ => none

end Workspace

end SnippetCost
