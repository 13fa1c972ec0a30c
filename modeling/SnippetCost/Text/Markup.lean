/-!
# Console markup

On a console a piece of text such as `[bold]` is an instruction and not text.  `escapeMarkup` puts a
backslash in front of every such tag, so that text from outside is shown and not obeyed.  `withoutMarkup`
is what is left to read of a text on a console that obeys no instruction.
-/

namespace SnippetCost.Text

/-- The characters that may follow the bracket which opens a tag. -/
def isTagStart (c : Char) : Bool :=
  c.isLower || c == '#' || c == '/' || c == '@'

/-- Does the text behind an opening bracket complete a tag: a tag start, then a closing bracket
before any other opening one? -/
def completesTag : List Char → Bool
  | [] => false
  | c :: cs => isTagStart c && (cs.dropWhile fun d => d != ']' && d != '[').head? == some ']'

/-- Where the scan stands: outside tags with so many backslashes read and not yet written, or inside
a tag. -/
inductive MarkupState where
  | outside (backslashes : Nat)
  | inside
  deriving DecidableEq, Repr

/-- Writes the text, doubling the backslashes in front of a tag and adding one more. -/
def escapeTags : MarkupState → List Char → List Char
  | .outside n, [] => List.replicate n '\\'
  | .inside, [] => []
  | .inside, c :: cs => c :: escapeTags (if c = ']' then .outside 0 else .inside) cs
  | .outside n, c :: cs =>
    if c = '\\' then escapeTags (.outside (n + 1)) cs
    else if c = '[' ∧ completesTag cs = true then
      List.replicate (2 * n + 1) '\\' ++ '[' :: escapeTags .inside cs
    else List.replicate n '\\' ++ c :: escapeTags (.outside 0) cs

/-- Does the text end in one backslash that no other precedes? -/
def endsInLoneBackslash (cs : List Char) : Bool :=
  match cs.reverse with
  | '\\' :: '\\' :: _ => false
  | '\\' :: _ => true
  | _ => false

/-- The text with its tags escaped, and a lone backslash at the end doubled so that it escapes nothing
written after it. -/
def escapeMarkup (s : String) : String :=
  let escaped := escapeTags (.outside 0) s.toList
  String.ofList (if endsInLoneBackslash escaped then escaped ++ ['\\'] else escaped)

/-- Reads the text without its tags; of the backslashes in front of a tag each second one is read, and one
that is left over makes the tag text. -/
def dropTags : MarkupState → List Char → List Char
  | .outside n, [] => List.replicate n '\\'
  | .inside, [] => []
  | .inside, c :: cs => dropTags (if c = ']' then .outside 0 else .inside) cs
  | .outside n, c :: cs =>
    if c = '\\' then dropTags (.outside (n + 1)) cs
    else if c = '[' ∧ completesTag cs = true then
      List.replicate (n / 2) '\\' ++
        if n % 2 = 1 then '[' :: dropTags (.outside 0) cs else dropTags .inside cs
    else List.replicate n '\\' ++ c :: dropTags (.outside 0) cs

/-- What a text with markup reads as. -/
def withoutMarkup (s : String) : String :=
  String.ofList (dropTags (.outside 0) s.toList)

end SnippetCost.Text
