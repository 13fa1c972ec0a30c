import SnippetCost.Text.PathName
import SnippetCost.World.FileTree
import SnippetCost.World.OsError

/-!
# File systems

A tree of files from the root, and the folder in it in which a program works.  A path name is resolved part by
part, from the root or from the working directory, double dots going up; the system refuses names that are
too long, and a name with a NUL character is none at all.
-/

namespace SnippetCost

/-- A tree of files, and the working directory in it. -/
structure FileSystem where
  root : FileTree
  workingDirectory : List String
  deriving DecidableEq, Repr

/-- Why a file cannot be read or written. -/
inductive PathFault where
  | refused (error : OsError)
  /-- There is a NUL character in the name. -/
  | nulInName
  /-- More folders are missing on the way than can be made in one go. -/
  | tooDeep
  deriving DecidableEq, Repr

/-- The message about a file that cannot be read or written. -/
def PathFault.message : PathFault → String
  | .refused e => e.text
  | .nulInName => "embedded null byte"
  | .tooDeep => "maximum recursion depth exceeded while calling a Python object"

/-- Does the fault say that a file or directory is not there? -/
def PathFault.isNotFound : PathFault → Bool
  | .refused e => e.isNotFound
  | .nulInName | .tooDeep => false

namespace FileSystem

/-! ## Limits -/

/-- The greatest length of the name of an entry, in bytes. -/
def nameLimit : Nat := 255

/-- The greatest length of a path name, in bytes. -/
def pathLimit : Nat := 4095

/-- The number of folders on the way to a file that can be tried one after the other. -/
def depthLimit : Nat := 985

/-! ## Resolving names -/

/-- What a name leads to. -/
inductive Place where
  | folder
  | file (path : List String) (content : List UInt8)
  /-- Nothing yet, in a folder that is there. -/
  | vacant (path : List String)
  deriving DecidableEq, Repr

/-- Why a name leads nowhere. -/
inductive Obstacle where
  /-- There is no folder with one of its parts as a name. -/
  | missing
  /-- A part of the name that should be a folder is a file. -/
  | blocked
  | tooLong
  deriving DecidableEq, Repr

/-- The refusal of a name that leads nowhere. -/
def Obstacle.error (name : String) : Obstacle → OsError
  | .missing => .notFound name
  | .blocked => .notDirectory name
  | .tooLong => .nameTooLong name

/-- The folders on the way to a folder, the innermost first: the name of the way taken in each, and its
contents. -/
abbrev Trail := List (String × FileTree)

/-- The path of an entry of the folder at the end of a trail. -/
def Trail.path (trail : Trail) (name : String) : List String :=
  (name :: trail.map (·.1)).reverse

/-- The folder at the end of a path, with the trail to it. -/
def descend (here : FileTree) (trail : Trail) : List String → FileTree × Trail
  | [] => (here, trail)
  | name :: rest => descend (here.folderNamed name) ((name, here) :: trail) rest

/-- Where the parts of a name lead from a folder.  Above the root there is the root. -/
def walk (here : FileTree) (trail : Trail) : List String → Except Obstacle Place
  | [] => .ok .folder
  | part :: rest =>
    if part = ".." then
      match trail with
      | [] => walk here [] rest
      | (_, outer) :: trail => walk outer trail rest
    else if nameLimit < part.utf8ByteSize then .error .tooLong
    else
      match here.find? part with
      | some (.folder inner) => walk inner ((part, here) :: trail) rest
      | some (.file content) =>
        if rest = [] then .ok (.file (trail.path part) content) else .error .blocked
      | none => if rest = [] then .ok (.vacant (trail.path part)) else .error .missing

/-- Where a name leads. -/
def resolve (s : FileSystem) (name : Text.PathName) : Except Obstacle Place :=
  if pathLimit < name.text.utf8ByteSize then .error .tooLong
  else if name.anchor = "" then
    let (here, trail) := descend s.root [] s.workingDirectory
    walk here trail name.parts
  else walk s.root [] name.parts

/-- Where a name leads, or the refusal. -/
def locate (s : FileSystem) (name : Text.PathName) : Except PathFault Place :=
  if name.text.toList.contains '\x00' then .error .nulInName
  else (s.resolve name).mapError fun obstacle => .refused (obstacle.error name.text)

/-! ## Reading and writing -/

/-- The bytes of a file. -/
def read (s : FileSystem) (name : Text.PathName) : Except PathFault (List UInt8) := do
  match ← s.locate name with
  | .file _ content => return content
  | .folder => throw (.refused (.isDirectory name.text))
  | .vacant _ => throw (.refused (.notFound name.text))

/-- The file system with a node put at a path from the root. -/
def put (s : FileSystem) (path : List String) (node : Node) : FileSystem :=
  { s with root := s.root.put path node }

/-- The file system with a file written; the folder of the file has to be there. -/
def write (s : FileSystem) (name : Text.PathName) (content : List UInt8) :
    Except PathFault FileSystem := do
  match ← s.locate name with
  | .file path _ | .vacant path => return s.put path (.file content)
  | .folder => throw (.refused (.isDirectory name.text))

/-- The file system with one more folder. -/
def makeFolder (s : FileSystem) (name : Text.PathName) : Except PathFault FileSystem := do
  match ← s.locate name with
  | .vacant path => return s.put path (.folder .empty)
  | .folder | .file _ _ => throw (.refused (.alreadyExists name.text))

/-- Does the name lead to a folder? -/
def isFolder (s : FileSystem) (name : Text.PathName) : Bool :=
  match s.locate name with
  | .ok .folder => true
  | _ => false

/-- `makeFolder`, content with a folder that is there already. -/
def ensureFolder (s : FileSystem) (name : Text.PathName) : FileSystem × Except PathFault Unit :=
  match s.makeFolder name with
  | .ok made => (made, .ok ())
  | .error fault => (s, if s.isFolder name then .ok () else .error fault)

/-- The folder whose parts are given last one first, and the folders on the way to it, where at most so
many names are tried. -/
def ensureFoldersRev (s : FileSystem) (anchor : String) :
    Nat → List String → FileSystem × Except PathFault Unit
  | 0, _ => (s, .error .tooDeep)
  | _ + 1, [] => s.ensureFolder ⟨anchor, []⟩
  | depth + 1, part :: parts =>
    let name : Text.PathName := ⟨anchor, (part :: parts).reverse⟩
    match s.ensureFolder name with
    | (s, .error fault) =>
      if fault.isNotFound then
        match ensureFoldersRev s anchor depth parts with
        | (made, .ok ()) => made.ensureFolder name
        | failed => failed
      else (s, .error fault)
    | done => done

/-- The file system with a folder and all folders on the way to it; those that are there already stay, and
when one cannot be made those that were made before stay, too. -/
def ensureFolders (s : FileSystem) (name : Text.PathName) : FileSystem × Except PathFault Unit :=
  s.ensureFoldersRev name.anchor depthLimit name.parts.reverse

/-- The file system with a file written, and the folders on the way to it made where they are missing.
When the file cannot be written the folders that were made stay. -/
def writeWithFolders (s : FileSystem) (name : Text.PathName) (content : List UInt8) :
    FileSystem × Except PathFault Unit :=
  match s.ensureFolders name.parent with
  | (made, .error fault) => (made, .error fault)
  | (made, .ok ()) =>
    match made.write name content with
    | .error fault => (made, .error fault)
    | .ok written => (written, .ok ())

end FileSystem

end SnippetCost
