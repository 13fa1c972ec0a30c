/-!
# Shell words

A command line as it could be typed into a shell: words apart by one space, each quoted if the
shell would read it as anything but itself.
-/

namespace SnippetCost.Text

/-- The ASCII characters that mean nothing to a shell. -/
def isShellSafe (c : Char) : Bool :=
  c.isAlphanum || "_@%+=:,./-".toList.contains c

/-- A character between single quotation marks; the mark itself leaves the quotation, stands between
double ones, and enters it again. -/
def shellQuotedChar (c : Char) : List Char :=
  if c = '\'' then ['\'', '"', '\'', '"', '\''] else [c]

/-- One word: as it is if it is not empty and all its characters are safe, else quoted. -/
def shellWord (s : String) : String :=
  let cs := s.toList
  if !cs.isEmpty && cs.all isShellSafe then s
  else String.ofList ('\'' :: cs.flatMap shellQuotedChar ++ ['\''])

/-- The words of a command, apart by one space. -/
def shellCommand (argv : List String) : String :=
  " ".intercalate (argv.map shellWord)

end SnippetCost.Text
