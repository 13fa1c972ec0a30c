import SnippetCost.Report.Metric

/-!
# Rows of the instruction table

A row is three numbers and the text of an instruction, with *flags* between them: the markers of the
table's optional columns.  The rows are written for people, so nothing fixes the width of a column;
what fixes the instruction is that it starts at the first word behind the numbers that is no flag, or,
if all of them are flags, at the last one.
-/

namespace SnippetCost

open SnippetCost.Text

/-- A decimal number: digits with an optional fraction, and nothing else. -/
def isPlainDecimal (cs : List Char) : Bool :=
  !cs.isEmpty && takeNumber true cs == cs

/-- A flag: a star, the letter U, or a number. -/
def isFlag (word : List Char) : Bool :=
  word == ['*'] || word == ['U'] || isPlainDecimal word

/-- The number at the start of a text and what stands behind the blank characters that follow it, of
which there is at least one. -/
def takeColumn? (withFraction : Bool) (cs : List Char) : Option (List Char × List Char) :=
  let number := takeNumber withFraction cs
  let rest := cs.drop number.length
  if number.isEmpty || (rest.takeWhile isBlank).isEmpty then none
  else some (number, rest.dropWhile isBlank)

/-- Drops a word from the start of a text that is written in these words, and the blank characters
behind it, as long as the word is a flag and not the last one. -/
def dropFlags : List (List Char) → List Char → List Char
  | word :: next :: more, cs =>
    if isFlag word then dropFlags (next :: more) ((cs.drop word.length).dropWhile isBlank) else cs
  | _, cs => cs

/-- The row a line holds, with its number.  The text behind the three numbers must have a character that
is not blank, and no line feed before the last such character. -/
def parseRow? (line : List Char) (order : Int) : Option InstructionRecord := do
  let (uops, cs) ← takeColumn? false (line.dropWhile isBlank)
  let (latency, cs) ← takeColumn? false cs
  let (throughput, cs) ← takeColumn? true cs
  let rest := trimEnd cs
  if rest.isEmpty || rest.contains '\n' then none
  else
    return { order := order
             uops := String.ofList uops
             latency := String.ofList latency
             throughput := String.ofList throughput
             instruction := String.ofList (dropFlags (words rest) rest) }

end SnippetCost
