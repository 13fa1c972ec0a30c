import SnippetCost.Text.Quoted

/-!
# Refusals of the operating system

What the system says when it does not do what it is asked: a number with a description and perhaps the
file it is about, or a text alone.
-/

namespace SnippetCost

/-- A refusal of the operating system. -/
inductive OsError where
  | plain (text : String)
  | numbered (number : Int) (description : String) (file : Option String)
  deriving DecidableEq, Repr

namespace OsError

/-- The text of a refusal. -/
def text : OsError → String
  | .plain text => text
  | .numbered number description file =>
    "[Errno " ++ toString number ++ "] " ++ description ++
      match file with
      | none => ""
      | some name => ": " ++ Text.quoted name

/-- Does the refusal say that a file or directory is not there? -/
def isNotFound : OsError → Bool
  | .plain _ => false
  | .numbered number _ _ => number == 2

/-- There is no such file. -/
def notFound (file : String) : OsError :=
  .numbered 2 "No such file or directory" (some file)

/-- The file may not be touched. -/
def denied (file : String) : OsError :=
  .numbered 13 "Permission denied" (some file)

/-- There is such a file already. -/
def alreadyExists (file : String) : OsError :=
  .numbered 17 "File exists" (some file)

/-- A part of the name that should be a directory is a file. -/
def notDirectory (file : String) : OsError :=
  .numbered 20 "Not a directory" (some file)

/-- The name is a directory's. -/
def isDirectory (file : String) : OsError :=
  .numbered 21 "Is a directory" (some file)

/-- The name, or a part of it, is longer than the system takes. -/
def nameTooLong (file : String) : OsError :=
  .numbered 36 "File name too long" (some file)

end OsError

end SnippetCost
