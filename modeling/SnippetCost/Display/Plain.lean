import SnippetCost.Display.Output
import SnippetCost.Text.Markup

/-!
# Output as plain lines

How output looks on a console that knows neither colours nor boxes: markup is left out, and a table is its
title and its rows, with the columns aligned.
-/

namespace SnippetCost

namespace Column

/-- The texts of a column from top to bottom, as they read. -/
def texts (showHeader : Bool) (c : Column) : List String :=
  (if showHeader then c.header :: c.cells else c.cells).map Text.withoutMarkup

/-- The texts of a column, made equally long. -/
def aligned (showHeader : Bool) (c : Column) : List String :=
  let texts := c.texts showHeader
  let width := (texts.map String.length).foldl max 0
  texts.map fun text =>
    let blanks := String.ofList (List.replicate (width - text.length) ' ')
    match c.justify with
    | .left => text ++ blanks
    | .right => blanks ++ text

end Column

/-- The lines of a table. -/
def Table.lines (t : Table) : List String :=
  let columns := t.columns.map (Column.aligned t.showHeader)
  let height := (columns.map List.length).foldl max 0
  Text.withoutMarkup t.title ::
    (List.range height).map fun i => "  ".intercalate (columns.map fun texts => texts.getD i "")

/-- The lines of one thing that is shown. -/
def Output.lines : Output → List String
  | .text content markup _ => [if markup then Text.withoutMarkup content else content]
  | .table t => t.lines
  | .rule title => ["--- " ++ Text.withoutMarkup title ++ " ---"]
  | .json document => [document]

end SnippetCost
