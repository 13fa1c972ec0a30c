/-!
# Lines

Two notions of a line.  A *line break* is any of the eight characters that end a line, or a
carriage return with a line feed; `lines` cuts there, and a break at the very end opens no further
line.  *Newline normalisation* knows only the carriage return and the line feed.
-/

namespace SnippetCost.Text

/-- The characters that end a line, the carriage return and the line feed included. -/
def isLineBreak (c : Char) : Bool :=
  let n := c.toNat
  (0x0A ≤ n && n ≤ 0x0D) || (0x1C ≤ n && n ≤ 0x1E) || n == 0x85 || n == 0x2028 || n == 0x2029

/-- The lines of a text, `current` being the line read so far, last character first. -/
def linesFrom (current : List Char) : List Char → List (List Char)
  | [] => if current.isEmpty then [] else [current.reverse]
  | '\r' :: '\n' :: cs => current.reverse :: linesFrom [] cs
  | c :: cs =>
    if isLineBreak c then current.reverse :: linesFrom [] cs else linesFrom (c :: current) cs

/-- The lines of a text without their line breaks; `"\r\n"` is one break. -/
def lines (cs : List Char) : List (List Char) :=
  linesFrom [] cs

/-- Every `cr` followed by `lf`, and every other `cr`, becomes one `lf`. -/
def normalizeBreaks {α : Type} [DecidableEq α] (cr lf : α) : List α → List α
  | [] => []
  | [a] => if a = cr then [lf] else [a]
  | a :: b :: rest =>
    if a = cr then
      if b = lf then lf :: normalizeBreaks cr lf rest else lf :: normalizeBreaks cr lf (b :: rest)
    else a :: normalizeBreaks cr lf (b :: rest)

/-- Every `"\r\n"` and every other `'\r'` becomes one `'\n'`. -/
def normalizeNewlines (cs : List Char) : List Char :=
  normalizeBreaks '\r' '\n' cs

end SnippetCost.Text
