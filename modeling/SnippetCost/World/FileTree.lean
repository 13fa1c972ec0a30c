/-!
# Trees of files

The contents of one directory: files with their bytes, and folders with contents of their own, each under
its name.  A path is the list of the names on the way; the empty one is the directory itself.
-/

namespace SnippetCost

/-- The contents of a directory, entry by entry. -/
inductive FileTree where
  | empty
  | file (name : String) (content : List UInt8) (others : FileTree)
  | folder (name : String) (inner others : FileTree)
  deriving DecidableEq, Repr

/-- What can stand under a name. -/
inductive Node where
  | file (content : List UInt8)
  | folder (inner : FileTree)
  deriving DecidableEq, Repr

namespace FileTree

/-! ## Entries -/

/-- The entry with a name. -/
def find? (name : String) : FileTree → Option Node
  | empty => none
  | file n content others => if n = name then some (.file content) else find? name others
  | folder n inner others => if n = name then some (.folder inner) else find? name others

/-- The directory without the entry of a name. -/
def erase (name : String) : FileTree → FileTree
  | empty => empty
  | file n content others =>
    if n = name then erase name others else file n content (erase name others)
  | folder n inner others =>
    if n = name then erase name others else folder n inner (erase name others)

/-- The directory with an entry under a name, which takes the place of one that is there. -/
def insert (t : FileTree) (name : String) : Node → FileTree
  | .file content => file name content (t.erase name)
  | .folder inner => folder name inner (t.erase name)

/-- The contents of the folder with a name; nothing, if there is none. -/
def folderNamed (t : FileTree) (name : String) : FileTree :=
  match t.find? name with
  | some (.folder inner) => inner
  | _ => empty

/-- The number of files and folders that stand in the directory itself. -/
def entryCount : FileTree → Nat
  | empty => 0
  | file _ _ others => others.entryCount + 1
  | folder _ _ others => others.entryCount + 1

/-! ## Paths -/

/-- The node at a path. -/
def get? (t : FileTree) : List String → Option Node
  | [] => some (.folder t)
  | [name] => t.find? name
  | name :: rest => (t.folderNamed name).get? rest

/-- The tree with a node at a path, and folders on the way to it. -/
def put (t : FileTree) : List String → Node → FileTree
  | [], _ => t
  | [name], node => t.insert name node
  | name :: rest, node => t.insert name (.folder ((t.folderNamed name).put rest node))

/-- All files of the tree, by path. -/
def files : FileTree → List (List String × List UInt8)
  | empty => []
  | file name content others => ([name], content) :: others.files
  | folder name inner others =>
    (inner.files.map fun (path, content) => (name :: path, content)) ++ others.files

/-! ## What is found after a change -/

theorem find?_erase_self (t : FileTree) (name : String) : (t.erase name).find? name = none := by
  induction t with
  | empty => rfl
  | file n content others ih => by_cases h : n = name <;> simp [erase, find?, h, ih]
  | folder n inner others _ ih => by_cases h : n = name <;> simp [erase, find?, h, ih]

theorem find?_erase_of_ne (t : FileTree) {name other : String} (h : other ≠ name) :
    (t.erase name).find? other = t.find? other := by
  induction t with
  | empty => rfl
  | file n content others ih => by_cases hn : n = name <;> grind [erase, find?]
  | folder n inner others _ ih => by_cases hn : n = name <;> grind [erase, find?]

@[simp] theorem find?_insert_self (t : FileTree) (name : String) (node : Node) :
    (t.insert name node).find? name = some node := by
  cases node <;> simp [insert, find?]

theorem find?_insert_of_ne (t : FileTree) {name other : String} (node : Node) (h : other ≠ name) :
    (t.insert name node).find? other = t.find? other := by
  cases node <;> simp [insert, find?, Ne.symm h, find?_erase_of_ne t h]

end FileTree

end SnippetCost
