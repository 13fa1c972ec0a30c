/-!
# What is shown

Tables as columns of marked-up cells, and the things that are sent to the two consoles.  How they are
laid out on a screen is the console's business.
-/

namespace SnippetCost

/-- Where the texts of a column stand in it. -/
inductive Justify where
  | left
  | right
  deriving DecidableEq, Repr

/-- A column of a table. -/
structure Column where
  header : String
  style : String := ""
  justify : Justify := .left
  noWrap : Bool := false
  cells : List String
  deriving DecidableEq, Repr

/-- A table, column by column. -/
structure Table where
  title : String
  showHeader : Bool := true
  columns : List Column
  deriving DecidableEq, Repr

/-- The two consoles: results go to one, everything about the run to the other. -/
inductive Stream where
  | out
  | err
  deriving DecidableEq, Repr

/-- One thing sent to a console. -/
inductive Output where
  /-- A text; is markup in it obeyed, are numbers and names in it highlighted? -/
  | text (content : String) (markup highlight : Bool)
  | table (table : Table)
  /-- A line across the screen with a title. -/
  | rule (title : String)
  /-- A JSON document. -/
  | json (document : String)
  deriving DecidableEq, Repr

end SnippetCost
