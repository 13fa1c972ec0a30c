/-!
# Blank characters

Which characters separate words, and the three operations that look at nothing else: trimming a
text, asking whether it is all blank, and cutting it into words.

All work on lists of characters; the `String` forms at the end only convert.
-/

namespace SnippetCost.Text

/-- The characters with the `White_Space` property, as closed ranges of code points, ascending. -/
def whiteSpaceRanges : List (Nat × Nat) :=
  [(0x09, 0x0D), (0x20, 0x20), (0x85, 0x85), (0xA0, 0xA0), (0x1680, 0x1680), (0x2000, 0x200A),
   (0x2028, 0x2029), (0x202F, 0x202F), (0x205F, 0x205F), (0x3000, 0x3000)]

/-- Is the code point `n` in one of the closed ranges? -/
def inRanges (ranges : List (Nat × Nat)) (n : Nat) : Bool :=
  ranges.any fun r => r.1 ≤ n && n ≤ r.2

/-- White space in the sense of the character property: what may stand around a numeral. -/
def isWhiteSpace (c : Char) : Bool :=
  inRanges whiteSpaceRanges c.toNat

/-- Blank characters separate words: white space and the four information separators. -/
def isBlank (c : Char) : Bool :=
  isWhiteSpace c || (0x1C ≤ c.toNat && c.toNat ≤ 0x1F)

/-! ## Trimming -/

/-- Without the leading run of characters satisfying `p`, and without the trailing one. -/
def trimWhere (p : Char → Bool) (cs : List Char) : List Char :=
  ((cs.dropWhile p).reverse.dropWhile p).reverse

/-- Without blank characters at the end. -/
def trimEnd (cs : List Char) : List Char :=
  (cs.reverse.dropWhile isBlank).reverse

/-- Without blank characters at either end. -/
def trim (cs : List Char) : List Char :=
  trimWhere isBlank cs

/-- Nothing but blank characters; true of the empty text. -/
def allBlank (cs : List Char) : Bool :=
  cs.all isBlank

/-! ## Words -/

/-- The words of a text: its maximal runs of characters that are not blank.  `current` holds the
word being read, last character first. -/
def wordsFrom (current : List Char) : List Char → List (List Char)
  | [] => if current.isEmpty then [] else [current.reverse]
  | c :: cs =>
    if isBlank c then
      if current.isEmpty then wordsFrom [] cs else current.reverse :: wordsFrom [] cs
    else wordsFrom (c :: current) cs

/-- The words of a text, in order. -/
def words (cs : List Char) : List (List Char) :=
  wordsFrom [] cs

/-! ## On strings -/

/-- `trim`, on strings. -/
def trimmed (s : String) : String :=
  String.ofList (trim s.toList)

/-- `allBlank`, on strings. -/
def isBlankText (s : String) : Bool :=
  allBlank s.toList

end SnippetCost.Text
