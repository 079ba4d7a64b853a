import TableQuery.Query.Dialect

/-!
Expressions and how they are written.
-/

namespace TableQuery

structure Ident where
  qualifier : Option String
  name      : String
deriving DecidableEq

def Ident.text (i : Ident) : String :=
  match i.qualifier with
  | some q => q ++ "." ++ i.name
  | none   => i.name

inductive LogicalOperator
  | and
  | or
deriving DecidableEq

inductive Expr
  | ident (i : Ident)
  | literal (text : String)
  | param (name : String)
  | raw (fragment : String)
  | nested (e : Expr)
  | junction (op : LogicalOperator) (operands : List Expr)
  | call (function : String) (distinct : Bool) (args : List Expr)
  | concat (parts : List Expr)
  | format (function : String) (e : Expr) (pattern : String)
  | like (e pattern : Expr) (esc : Char)

namespace Expr

def path (qualifier name : String) : Expr :=
  ident ⟨some qualifier, name⟩

def upper (e : Expr) : Expr :=
  call "UPPER" false [e]

def parenthesized (s : String) : String :=
  "(" ++ s ++ ")"

def separator : LogicalOperator → String
  | .and => " AND "
  | .or  => " OR "

def concatText (d : Dialect) (parts : List String) : String :=
  match d.concatOperator? with
  | some op => parenthesized ((" " ++ op ++ " ").intercalate parts)
  | none    => "CONCAT" ++ parenthesized (", ".intercalate parts)

def formatText (d : Dialect) (function e pattern : String) : String :=
  if d.wrapsFunctions then
    "FUNCTION(" ++ Dialect.literal function ++ ", " ++ e ++ ", " ++ Dialect.literal pattern ++ ")"
  else
    function ++ "(" ++ e ++ ", " ++ Dialect.literal pattern ++ ")"

mutual

def text (d : Dialect) : Expr → String
  | ident i                     => i.text
  | literal s                   => Dialect.literal s
  | param name                  => Dialect.placeholder name
  | raw fragment                => fragment
  | nested e                    => parenthesized (e.text d)
  | junction op operands        => parenthesized ((separator op).intercalate (texts d operands))
  | call function distinct args =>
    function ++ parenthesized ((if distinct then "DISTINCT " else "")
      ++ ", ".intercalate (texts d args))
  | concat parts                => concatText d (texts d parts)
  | format function e pattern   => formatText d function (e.text d) pattern
  | like e pattern esc          =>
    e.text d ++ " LIKE " ++ pattern.text d ++ " ESCAPE " ++ Dialect.literal (String.singleton esc)

def texts (d : Dialect) : List Expr → List String
  | []      => []
  | e :: es => e.text d :: texts d es

end

theorem texts_eq_map (d : Dialect) (es : List Expr) : texts d es = es.map (text d) := by
  induction es with
  | nil => rw [texts, List.map_nil]
  | cons e es ih => rw [texts, ih, List.map_cons]

end Expr

end TableQuery
