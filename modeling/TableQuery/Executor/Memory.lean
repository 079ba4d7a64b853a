import TableQuery.Executor.Basic

/-!
An executor over rows in memory. A query searches if it binds a parameter with a name such as
`value_0`: a row is found if one of its texts contains one of the searched texts, in either case.
-/

namespace TableQuery

structure Row where
  id    : Int
  data  : String
  child : Option String
deriving DecidableEq

namespace Row

def texts (r : Row) : List String :=
  toString r.id :: r.data :: r.child.toList

def toJson (r : Row) : Json :=
  .object [
    ("id", .int r.id),
    ("data", .string r.data),
    ("childFirstData", Json.ofOption .string r.child)]

-- Rows to try things on: 40, the first 25 of them with a match for `match`.
def samples : List Row :=
  (List.range 40).map fun (k : Nat) => {
    id    := k
    data  := (if k < 25 then "match " else "row ") ++ toString k
    child := if k % 3 = 0 then some ("child of " ++ toString k) else none }

end Row

structure Memory where
  rows    : List Row := []
  failure : Option String := none -- the message with which every call fails

namespace Memory

def isInfix (needle : List Char) : List Char → Bool
  | []      => needle.isEmpty
  | c :: cs => needle.isPrefixOf (c :: cs) || isInfix needle cs

-- Whether a text contains another, both in upper case.
def contains (text needle : String) : Bool :=
  isInfix (Text.upper needle).toList (Text.upper text).toList

-- The texts that a query searches for.
def needles (params : Bindings) : List String :=
  (params.entries.filter fun e => "value_".toList.isPrefixOf e.1.toList).filterMap fun e =>
    e.2.asString?.map (Like.unescape · '#')

def found (needles : List String) (r : Row) : Bool :=
  needles.isEmpty || needles.any fun needle => r.texts.any (contains · needle)

variable (m : Memory)

def matching (params : Bindings) : List Row :=
  m.rows.filter (found (needles params))

def answer (a : α) : Pending α where
  waits   := 0
  outcome := match m.failure with
    | some message => .error (.query message)
    | none         => .ok a

-- Keeps the queries in the order in which they came.
def executor : Executor (List String) Row where
  fetchPage query params offset limit := do
    modify (· ++ [query])
    return m.answer (((m.matching params).drop offset.toNat).take limit.toNat)
  fetchCount query params := do
    modify (· ++ [query])
    return m.answer (m.matching params).length

end Memory

end TableQuery
