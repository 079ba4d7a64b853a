import TableQuery.Order
import TableQuery.Query.Expr

/-!
Select statements and how they are written.
-/

namespace TableQuery

inductive JoinKind
  | inner
  | left
deriving DecidableEq

def JoinKind.keyword : JoinKind → String
  | inner => "INNER JOIN"
  | left  => "LEFT JOIN"

structure Source where
  entity    : String
  aliasName : Option String

structure JoinClause where
  kind      : JoinKind
  path      : Ident
  aliasName : String

structure OrderItem where
  expr      : Expr
  direction : Option Direction

structure Select where
  columns    : List Expr
  source     : Option Source := none
  joins      : List JoinClause := []
  conditions : List Expr := []
  grouping   : List Expr := []
  having     : List Expr := []
  order      : List OrderItem := []

def Source.text (s : Source) : String :=
  "FROM " ++ s.entity ++ match s.aliasName with
    | some a => " AS " ++ a
    | none   => ""

def JoinClause.text (j : JoinClause) : String :=
  j.kind.keyword ++ " " ++ j.path.text ++ " AS " ++ j.aliasName

def OrderItem.text (d : Dialect) (o : OrderItem) : String :=
  o.expr.text d ++ match o.direction with
    | some dir => " " ++ dir.keyword
    | none     => ""

namespace Select

-- A clause is left out if it has no items.
def clause (keyword separator : String) (items : List String) : String :=
  if items.isEmpty then "" else " " ++ keyword ++ " " ++ separator.intercalate items

variable (d : Dialect) (s : Select)

def fromText : String :=
  (match s.source with
    | some source => " " ++ source.text
    | none        => "")
  ++ String.join (s.joins.map fun j => " " ++ j.text)

def whereText : String :=
  clause "WHERE" " AND " (s.conditions.map (Expr.text d))

def tailText : String :=
  clause "GROUP BY" ", " (s.grouping.map (Expr.text d))
  ++ clause "HAVING" " AND " (s.having.map (Expr.text d))
  ++ clause "ORDER BY" ", " (s.order.map (OrderItem.text d))

def text : String :=
  "SELECT " ++ ", ".intercalate (s.columns.map (Expr.text d)) ++ s.fromText ++ s.whereText d
    ++ s.tailText d

end Select

end TableQuery
