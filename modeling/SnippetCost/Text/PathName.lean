/-!
# Path names

The normal form of a path name: empty and single-dot parts are dropped, double dots stay, and two
slashes at the start (not one, not three) are kept apart from one.
-/

namespace SnippetCost.Text

/-- A path name in parts. -/
structure PathName where
  /-- `""` for a relative name, else the slashes it starts with. -/
  anchor : String
  parts : List String
  deriving DecidableEq, Repr

namespace PathName

/-- The pieces between slashes, the one being read given last character first. -/
def pieces (current : List Char) : List Char → List (List Char)
  | [] => [current.reverse]
  | c :: cs => if c = '/' then current.reverse :: pieces [] cs else pieces (c :: current) cs

/-- The slashes that count at the start of a name. -/
def anchorOf : List Char → String
  | '/' :: '/' :: '/' :: _ => "/"
  | '/' :: '/' :: _ => "//"
  | '/' :: _ => "/"
  | _ => ""

/-- Reads a name as it was typed. -/
def ofString (s : String) : PathName where
  anchor := anchorOf s.toList
  parts := ((pieces [] s.toList).filter fun p => p != [] && p != ['.']).map String.ofList

/-- The normal form of the name; `"."` for the empty one. -/
def text (p : PathName) : String :=
  if p.anchor == "" && p.parts.isEmpty then "." else p.anchor ++ "/".intercalate p.parts

/-- The name of the containing directory; a name without parts contains itself. -/
def parent (p : PathName) : PathName :=
  { p with parts := p.parts.dropLast }

end PathName

/-- The normal form of a path name. -/
def normalPath (s : String) : String :=
  (PathName.ofString s).text

end SnippetCost.Text
