import SnippetCost.Number.Binary64

/-!
# Values of the JSON form

The values that results are written as: texts, numbers of two kinds, lists, and records whose fields
have an order.
-/

namespace SnippetCost

/-- A value of the JSON form. -/
inductive Json where
  | text (s : String)
  | integer (n : Int)
  | decimal (x : Number.Binary64)
  | list (items : List Json)
  | record (fields : List (String × Json))

end SnippetCost
