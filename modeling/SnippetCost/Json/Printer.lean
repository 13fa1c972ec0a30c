import SnippetCost.Json.Value
import SnippetCost.Number.Shortest
import SnippetCost.Text.Quoted

/-!
# The JSON form of a value

The text is ASCII: every other character, and every control, is written by the number of its 16-bit
units.  With an indentation each item has a line of its own, deeper by so many spaces than the line of
its bracket; without one the whole value is on one line.  Empty lists and records are written closed up.

Numbers that are not finite are written as `NaN`, `Infinity` and `-Infinity`, which a strict reader of
the format refuses.
-/

namespace SnippetCost

namespace Json

/-! ## Texts -/

/-- The escape of one 16-bit unit. -/
def unitEscape (unit : Nat) : List Char :=
  '\\' :: 'u' :: Text.hexDigits 4 unit

/-- One character inside a text. -/
def escapedChar (c : Char) : List Char :=
  let n := c.toNat
  if c = '"' ∨ c = '\\' then ['\\', c]
  else if c = '\n' then ['\\', 'n']
  else if c = '\r' then ['\\', 'r']
  else if c = '\t' then ['\\', 't']
  else if n = 0x08 then ['\\', 'b']
  else if n = 0x0C then ['\\', 'f']
  else if 0x20 ≤ n ∧ n ≤ 0x7E then [c]
  else if n < 0x10000 then unitEscape n
  else unitEscape (0xD800 + (n - 0x10000) / 0x400) ++ unitEscape (0xDC00 + (n - 0x10000) % 0x400)

/-- A text between quotation marks. -/
def textChars (s : String) : List Char :=
  '"' :: s.toList.flatMap escapedChar ++ ['"']

/-! ## Numbers -/

/-- A decimal: the shortest text that reads back, and words of the form for what is not finite. -/
def decimalChars : Number.Binary64 → List Char
  | .nan => "NaN".toList
  | .infinite negative => (if negative then "-Infinity" else "Infinity").toList
  | x => x.text.toList

/-! ## Layout -/

/-- What stands in front of an item on a new line at a depth; nothing if all is on one line. -/
def lineStart (indent : Option Nat) (depth : Nat) : List Char :=
  match indent with
  | none => []
  | some width => '\n' :: List.replicate (width * depth) ' '

/-- What stands between two items. -/
def separator (indent : Option Nat) (depth : Nat) : List Char :=
  match indent with
  | none => [',', ' ']
  | some _ => ',' :: lineStart indent depth

mutual

/-- The text of a value whose bracket stands at a depth. -/
def print (indent : Option Nat) (depth : Nat) : Json → List Char
  | .text s => textChars s
  | .integer n => (toString n).toList
  | .decimal x => decimalChars x
  | .list [] => ['[', ']']
  | .list (item :: items) =>
    '[' :: lineStart indent (depth + 1) ++ print indent (depth + 1) item ++
      printItems indent (depth + 1) items ++ lineStart indent depth ++ [']']
  | .record [] => ['\x7b', '\x7d']
  | .record ((name, value) :: fields) =>
    '\x7b' :: lineStart indent (depth + 1) ++ textChars name ++ ':' :: ' ' ::
      print indent (depth + 1) value ++
      printFields indent (depth + 1) fields ++ lineStart indent depth ++ ['\x7d']

/-- The further items of a list, each behind a separator. -/
def printItems (indent : Option Nat) (depth : Nat) : List Json → List Char
  | [] => []
  | item :: items =>
    separator indent depth ++ print indent depth item ++ printItems indent depth items

/-- The further fields of a record, each behind a separator. -/
def printFields (indent : Option Nat) (depth : Nat) : List (String × Json) → List Char
  | [] => []
  | (name, value) :: fields =>
    separator indent depth ++ textChars name ++ ':' :: ' ' :: print indent depth value ++
      printFields indent depth fields

end

/-- The JSON form of a value. -/
def render (indent : Option Nat) (value : Json) : String :=
  String.ofList (print indent 0 value)

end Json

end SnippetCost
