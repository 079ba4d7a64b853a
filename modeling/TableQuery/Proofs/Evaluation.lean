import TableQuery.Bindings
import TableQuery.Query.Select

/-!
What queries are evaluated to. Only the clauses have a meaning here: what a condition or a grouping
expression says of a row, the caller's fragments included, is up to the database.
-/

namespace TableQuery

structure Database (Row Key : Type) where
  rows       : Option Source → List JoinClause → List Row -- that the FROM clause and its joins give
  holds      : Bindings → Expr → Row → Bool
  key        : Bindings → Expr → Row → Key -- never null
  groupHolds : Bindings → Expr → List Row → Bool

namespace Database

section Groups

variable {α κ : Type} [DecidableEq κ] (key : α → κ)

def alike (row : α) (rows : List α) : List α :=
  rows.filter (key · == key row)

def others (row : α) (rows : List α) : List α :=
  rows.filter (!key · == key row)

-- Rows with one key are one group, which stands where its first row stands.
def groups : List α → List (List α)
  | []          => []
  | row :: rows => (row :: alike key row rows) :: groups (others key row rows)
termination_by rows => rows.length
decreasing_by exact Nat.lt_succ_of_le (List.length_filter_le ..)

def countDistinct (ks : List κ) : Nat :=
  ks.eraseDups.length

-- There is one group for each key.
theorem length_groups (rows : List α) :
    (groups key rows).length = countDistinct (rows.map key) := by
  fun_induction groups key rows with
  | case1             => rfl
  | case2 row rows ih =>
    have ho : (rows.map key).filter (!· == key row) = (others key row rows).map key :=
      List.filter_map
    rw [List.length_cons, List.map_cons, countDistinct, List.eraseDups_cons, List.length_cons, ih,
      countDistinct, ho]

end Groups

variable {Row Key : Type} [DecidableEq Key] (db : Database Row Key) (values : Bindings)

-- The rows that meet the conditions.
def kept (s : Select) : List Row :=
  (db.rows s.source s.joins).filter fun row => s.conditions.all (db.holds values · row)

def keys (grouping : List Expr) (row : Row) : List Key :=
  grouping.map (db.key values · row)

-- What a query yields one row for: the rows themselves, if it does not group them.
def candidates (s : Select) : List (List Row) :=
  if s.grouping.isEmpty && s.having.isEmpty then (db.kept values s).map ([·])
  else groups (db.keys values s.grouping) (db.kept values s)

def yielded (s : Select) : List (List Row) :=
  (db.candidates values s).filter fun group => s.having.all (db.groupHolds values · group)

def isRoot (source : Option Source) : Expr → Bool
  | .ident i => i.qualifier == none && source.bind (·.aliasName) == some i.name
  | _        => false

-- How many rows a query for the root yields, without bounds.
def rowCount? (s : Select) : Option Nat :=
  match s.columns with
  | [e] => if isRoot s.source e then some (db.yielded values s).length else none
  | _   => none

-- The number that a query for one number gives: the rows that it keeps, or the different keys that
-- they have.
def number? (s : Select) : Option Nat :=
  match s.columns, s.grouping, s.having with
  | [.call "COUNT" false [e]], [], [] =>
    if isRoot s.source e then some (db.kept values s).length else none
  | [.call "COUNT" true es], [], []   =>
    some (countDistinct ((db.kept values s).map (db.keys values es)))
  | _, _, _                           => none

end Database

end TableQuery
