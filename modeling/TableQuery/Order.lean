import TableQuery.Json.Record

/-!
Sort instructions: a column by its index, and a direction.
-/

namespace TableQuery

inductive Direction
  | asc
  | desc
deriving DecidableEq

namespace Direction

def keyword : Direction → String
  | asc  => "ASC"
  | desc => "DESC"

def display : Direction → String
  | asc  => "asc"
  | desc => "desc"

-- Letters of either case name a direction.
def ofString? (s : String) : Option Direction :=
  match s.toList.map Char.toLower with
  | ['a', 's', 'c']      => some asc
  | ['d', 'e', 's', 'c'] => some desc
  | _                    => none

end Direction

@[ext]
structure Order where
  column : UInt64 := 0
  dir    : Direction := .asc
deriving DecidableEq

namespace Order

-- The form in which orders are sent.
structure Draft where
  column : UInt64 := 0
  dir    : String := ""

def of? (column : UInt64) (dir : String) : Option Order :=
  (Direction.ofString? dir).map fun dir => { column, dir }

def toJson (o : Order) : Json :=
  .object [("column", .int o.column.toNat), ("dir", .string o.dir.display)]

def fields : List (Json.Field Draft) := [
  .required "column" Json.asWord fun d column => { d with column },
  .required "dir" Json.asString fun d dir => { d with dir }]

-- The direction is looked at when the whole instruction has been read.
def ofJson (j : Json) : Decoded Order := do
  let d ← Json.asRecord fields {} j
  match of? d.column d.dir with
  | some o => .ok o
  | none   => .error (.direction d.dir)

end Order

end TableQuery
