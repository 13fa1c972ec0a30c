import SnippetCost.Report.Metric
import SnippetCost.Text.Line

/-!
# The section with the instruction table

The table stands behind a line that announces it, below the line with the heads of its columns, and ends
where the next section is announced.
-/

namespace SnippetCost

open SnippetCost.Text

/-- What announces the section. -/
def sectionLabel : List Char := "Instruction Info:".toList

/-- What ends the line with the heads of the columns. -/
def lastColumnHead : List Char := "Instructions:".toList

/-- The text from its last line feed on, if it has one. -/
def fromLastLineFeed? (cs : List Char) : Option (List Char) :=
  if cs.contains '\n' then some ('\n' :: (cs.reverse.takeWhile (· != '\n')).reverse) else none

/-- What follows the announcement at the start of a text: nothing, if only blank characters do; else the
text from the last line feed among the blank characters on. -/
def behindAnnouncement? (cs : List Char) : Option (List Char) := do
  let rest ← afterText? sectionLabel cs
  let blanks := rest.takeWhile isBlank
  let after := rest.dropWhile isBlank
  if after.isEmpty then return []
  else
    let tail ← fromLastLineFeed? blanks
    return tail ++ after

/-- What follows the first announcement in a text, the start of which is that of a line or not. -/
def sectionText? (atLineStart : Bool) : List Char → Option (List Char)
  | [] => none
  | c :: cs =>
    match (if atLineStart then behindAnnouncement? (c :: cs) else none) with
    | some rest => some rest
    | none => sectionText? (c == '\n') cs

/-- Is this the line with the heads of the columns: the first three by number, and at its end the one of
the instructions? -/
def isColumnHeader (line : List Char) : Bool :=
  (do
    let rest ← afterText? "[1]".toList line
    let rest ← afterText? "[2]".toList (← behindBlanks? rest)
    let rest ← afterText? "[3]".toList (← behindBlanks? rest)
    return lastColumnHead.isSuffixOf (trimEnd rest)).getD false
where
  /-- What stands behind blank characters, of which there is at least one. -/
  behindBlanks? (cs : List Char) : Option (List Char) :=
    if (cs.takeWhile isBlank).isEmpty then none else some (cs.dropWhile isBlank)

/-- Does the line announce a section: a letter first, and the first colon behind it last? -/
def isSectionHeader : List Char → Bool
  | [] => false
  | c :: cs =>
    c.isAlpha &&
      match cs.dropWhile (· != ':') with
      | [] => false
      | _ :: after => after.all isBlank

/-- The lines of the table. -/
def tableLines (text : List Char) : List (List Char) :=
  match sectionText? true text with
  | none => []
  | some rest =>
    match (lines rest).dropWhile (!isColumnHeader ·) with
    | [] => []
    | _ :: body => body.takeWhile (!isSectionHeader ·)

end SnippetCost
