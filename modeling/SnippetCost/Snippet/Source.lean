import SnippetCost.Analysis.Failure
import SnippetCost.Text.Utf8

/-!
# Source text

Source text arrives as code points, which may include lone surrogates.  `acceptSource` lets through what
can be analysed, as characters: text that is not all blank and has no surrogate.
-/

namespace SnippetCost

open SnippetCost.Text

/-- Text as it arrives. -/
abbrev SourceText := List CodePoint

namespace SourceText

/-- The source text of a string. -/
def ofString (s : String) : SourceText :=
  s.toList.map CodePoint.scalar

/-- Is a code point a blank character? -/
def isBlankPoint : CodePoint → Bool
  | .scalar c => isBlank c
  | .surrogate _ => false

/-- The characters of a text without surrogates; else the position of the first one, where `position`
code points stand before the text. -/
def chars (position : Nat) : SourceText → Except Nat (List Char)
  | [] => .ok []
  | .surrogate _ :: _ => .error position
  | .scalar c :: rest => (chars (position + 1) rest).map (c :: ·)

end SourceText

/-- The source as it can be analysed, or why it cannot be.  That it is blank is said first. -/
def acceptSource (source : SourceText) : Except Rejection String :=
  if source.all SourceText.isBlankPoint then .error .blankSource
  else
    match source.chars 0 with
    | .error position => .error (.loneSurrogate position)
    | .ok cs => .ok (String.ofList cs)

end SnippetCost
