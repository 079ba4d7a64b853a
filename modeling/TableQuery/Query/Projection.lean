import TableQuery.Query.Expr
import TableQuery.Text.Blank

/-!
What a query selects: the caller's own list, the root entity, or a count.
-/

namespace TableQuery.Projection

-- The list after the word `select` and a space, in letters of either case, if the text starts
-- with them.
def stripSelect (select : String) : String :=
  let cs := select.toList.dropWhile Text.isBlank
  if (cs.take 7).map Char.toLower = "select ".toList then
    .ofList ((cs.drop 7).dropWhile Text.isBlank)
  else .ofList cs

def ofPage (root : String) : Option String → Expr
  | some select => .raw (stripSelect select)
  | none        => .ident ⟨none, root⟩

-- Counts the rows, or the distinct groups if the rows are grouped.
def ofCount (root : String) (grouping : List String) : Expr :=
  if grouping.isEmpty then .call "COUNT" false [.ident ⟨none, root⟩]
  else .call "COUNT" true (grouping.map .raw)

end TableQuery.Projection
