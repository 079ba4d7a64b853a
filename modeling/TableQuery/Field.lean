import TableQuery.Aliases
import TableQuery.Column.Basic
import TableQuery.Query.Expr
import TableQuery.Settings

/-!
The expressions that columns stand for, and the conditions that search them.
-/

namespace TableQuery

structure FieldContext where
  aliases       : Aliases
  relationships : List String
  settings      : Settings

namespace FieldContext

variable (ctx : FieldContext)

-- A field of a joined relationship by the alias of its join, any other by the root alias.
def pathExpr (p : FieldPath) : Expr :=
  match (p.base?.filter ctx.relationships.contains).bind ctx.aliases.lookup with
  | some a => .path a p.remainder
  | none   => .path ctx.aliases.rootAlias p.name

-- A format only counts in a search, which looks for what the reader sees.
def formatted (forSearch : Bool) (format : Option String) (e : Expr) : Expr :=
  match format with
  | some pattern => if forSearch then .format ctx.settings.formatFunction e pattern else e
  | none         => e

def singleExpr (forSearch : Bool) (c : Column) : Except ColumnError (Option Expr) := do
  match ← c.fieldPath with
  | some p => return some (ctx.formatted forSearch c.format (ctx.pathExpr p))
  | none   => return none

-- The fields in order, with the delimiters between them.
def alternate : List Expr → List String → List Expr
  | [], _                   => []
  | [e], _                  => [e]
  | e :: es, []             => e :: alternate es []
  | e :: es, d :: ds        => e :: .literal d :: alternate es ds

-- The expression of a column, if it has one. Several fields are put together to one text.
def columnExpr (forSearch : Bool) (c : Column) : Except ColumnError (Option Expr) := do
  if c.isMultiField then
    let es ← (← c.subColumns).mapM (ctx.singleExpr forSearch)
    return some (.concat (alternate (es.filterMap id) c.delimiters))
  else ctx.singleExpr forSearch c

-- That the value of `e` contains the text under `parameter`, in either case.
def searchCondition (e : Expr) (parameter : String) : Expr :=
  .like (.upper e) (.upper (.concat [.literal "%", .param parameter, .literal "%"]))
    ctx.settings.escapeChar

end FieldContext

end TableQuery
