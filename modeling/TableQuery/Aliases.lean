import TableQuery.Naming
import TableQuery.Text.Case

/-!
Aliases: one for the root entity and one for each relationship path that is registered. An alias,
once given, stays; no two paths share one.
-/

namespace TableQuery

structure Aliases where
  length    : Nat -- the characters kept of each name
  root      : String
  rootAlias : String
  others    : List (String × String) := [] -- paths and their aliases as they were registered

namespace Aliases

-- Words of the query language, which cannot name anything.
def reserved : List String := [
  "all", "and", "any", "as", "asc", "avg", "between", "by", "case", "count", "delete", "desc",
  "distinct", "else", "empty", "end", "exists", "false", "fetch", "from", "group", "having", "in",
  "inner", "is", "join", "key", "left", "like", "max", "member", "min", "new", "not", "null",
  "object", "of", "on", "or", "order", "outer", "select", "set", "some", "sum", "then", "true",
  "type", "update", "value", "when", "where"]

-- The parts of a path between its points.
def parts : List Char → List (List Char)
  | []      => [[]]
  | c :: cs =>
    if c = '.' then [] :: parts cs
    else match parts cs with
      | []      => [[c]]
      | p :: ps => (c :: p) :: ps

-- The start of each name of a path in lower case, joined by underscores.
def stem (length : Nat) (path : String) : String :=
  "_".intercalate ((parts path.toList).map fun p => Text.lower (.ofList (p.take length)))

def numbered (stem : String) (k : Nat) : String :=
  stem ++ "_" ++ toString k

def ofRoot (root : String) (length : Nat) : Aliases where
  length
  root
  rootAlias :=
    let natural := Text.lower root
    if natural.isEmpty || reserved.contains natural then numbered (stem length root) 0 else natural

variable (a : Aliases)

-- Paths and aliases, the root first.
def entries : List (String × String) :=
  (a.root, a.rootAlias) :: a.others

def size : Nat :=
  a.entries.length

def lookup (path : String) : Option String :=
  a.entries.lookup path

-- The alias that a new path gets: numbered from the number of entries on, past aliases that are
-- taken.
def fresh (path : String) : String :=
  let name := numbered (stem a.length path)
  name (firstFree name (a.entries.map (·.2)) a.size)

def aliasOf (path : String) : String :=
  (a.lookup path).getD (a.fresh path)

def register (path : String) : Aliases :=
  if (a.lookup path).isSome then a
  else { a with others := a.others ++ [(path, a.fresh path)] }

end Aliases

end TableQuery
