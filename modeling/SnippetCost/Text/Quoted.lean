import SnippetCost.Text.Printable

/-!
# Quoted text

How a text is shown inside a message: between quotation marks, on one line, with every character
that could be mistaken for something else written as an escape.
-/

namespace SnippetCost.Text

/-- The hexadecimal digits of `n` in lower case, least significant first; `width` many. -/
def hexDigitsRev : Nat → Nat → List Char
  | 0, _ => []
  | width + 1, n => (n % 16).digitChar :: hexDigitsRev width (n / 16)

/-- `n` in lower case hexadecimal, on exactly `width` digits. -/
def hexDigits (width n : Nat) : List Char :=
  (hexDigitsRev width n).reverse

/-- Single quotation marks, unless the text has some of those and no double ones. -/
def quotationMark (cs : List Char) : Char :=
  if cs.contains '\'' && !cs.contains '"' then '"' else '\''

/-- One character between quotation marks: the mark and the backslash behind a backslash, line feed,
carriage return and tab by letter, other unprintable characters by number. -/
def quotedChar (mark c : Char) : List Char :=
  if c = mark ∨ c = '\\' then ['\\', c]
  else if c = '\n' then ['\\', 'n']
  else if c = '\r' then ['\\', 'r']
  else if c = '\t' then ['\\', 't']
  else if isPrintable c then [c]
  else if c.toNat < 0x100 then '\\' :: 'x' :: hexDigits 2 c.toNat
  else if c.toNat < 0x10000 then '\\' :: 'u' :: hexDigits 4 c.toNat
  else '\\' :: 'U' :: hexDigits 8 c.toNat

/-- A text between quotation marks, escaped. -/
def quotedChars (cs : List Char) : List Char :=
  let mark := quotationMark cs
  mark :: cs.flatMap (quotedChar mark) ++ [mark]

/-- `quotedChars`, on strings. -/
def quoted (s : String) : String :=
  String.ofList (quotedChars s.toList)

end SnippetCost.Text
