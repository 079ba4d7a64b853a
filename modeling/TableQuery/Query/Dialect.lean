/-!
The query languages and what they write differently.
-/

namespace TableQuery

inductive Dialect
  | jpql
  | hql
deriving DecidableEq

namespace Dialect

def name : Dialect → String
  | jpql => "JPQL"
  | hql  => "HQL"

def placeholder (name : String) : String :=
  ":" ++ name

-- A text literal: quotes inside are written twice.
def literal (text : String) : String :=
  .ofList ('\'' :: text.toList.flatMap quoted ++ ['\''])
where
  quoted (c : Char) : List Char :=
    if c = '\'' then ['\'', '\''] else [c]

-- The operator between texts that are put together, where this is not done by a function.
def concatOperator? : Dialect → Option String
  | jpql => none
  | hql  => some "||"

-- Whether functions of the database are called by way of `FUNCTION`.
def wrapsFunctions : Dialect → Bool
  | jpql => true
  | hql  => false

end Dialect

end TableQuery
