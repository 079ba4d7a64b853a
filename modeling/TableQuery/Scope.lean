import TableQuery.Column.Basic
import TableQuery.Fragment
import TableQuery.Query.Select

/-!
The names that a query's FROM clause declares: the root and the relationships joined to it, at most
one join for each relationship.
-/

namespace TableQuery

@[ext]
structure Join where
  parent    : String
  field     : String
  aliasName : String
  kind      : JoinKind
deriving DecidableEq

structure Scope where
  aliases : Aliases
  joins   : List Join := [] -- in the order in which they were first asked for

namespace Scope

def ofRoot (root : String) (aliasLength : Nat) : Scope where
  aliases := .ofRoot root aliasLength

variable (s : Scope)

def join? (field : String) : Option Join :=
  s.joins.find? (·.field == field)

-- A left join keeps the rows for which an inner join would find nothing, so it wins.
def strengthen (kind : JoinKind) (j : Join) : Join :=
  match kind with
  | .left  => { j with kind := .left }
  | .inner => j

-- A further request for `field`, which has a join already.
def adjust (field : String) (kind : JoinKind) (joins : List Join) : List Join :=
  joins.map fun j => if j.field = field then strengthen kind j else j

-- Asks for a join to the relationship `field`.
def join (field : String) (kind : JoinKind) : Scope :=
  if (s.join? field).isSome then { s with joins := adjust field kind s.joins }
  else
    let aliases := s.aliases.register field
    { aliases
      joins := s.joins ++ [{
        parent    := aliases.rootAlias
        field
        aliasName := s.aliases.aliasOf field
        kind }] }

-- `usual` is the kind of a join that nothing else decides.
variable (relationships : List String) (usual : JoinKind)

-- Joins the relationship that a path leads through. A path that need not lead anywhere asks for a
-- left join; paths through anything else are left to the query language.
def joinPath (p : FieldPath) : Scope :=
  match p.base? with
  | some base =>
    if relationships.contains base then s.join base (if p.isNullable then .left else usual)
    else s
  | none      => s

def joinColumn (c : Column) : Except ColumnError Scope := do
  if c.isMultiField then
    (← c.subColumns).foldlM (fun s sub => return joinPath? s (← sub.fieldPath)) s
  else
    return joinPath? s (← c.fieldPath)
where
  joinPath? (s : Scope) : Option FieldPath → Scope
    | some p => s.joinPath relationships usual p
    | none   => s

def joinColumns (columns : List Column) : Except ColumnError Scope :=
  columns.foldlM (fun s c => s.joinColumn relationships usual c) s

-- Joins the relationships that a fragment refers to.
def joinReferences (fragment : String) : Scope :=
  (Fragment.referencedFields fragment s.aliases.rootAlias).foldl
    (fun s field => if relationships.contains field then s.join field usual else s) s

def joinAllReferences (fragments : List String) : Scope :=
  fragments.foldl (fun s fragment => s.joinReferences relationships usual fragment) s

end Scope

end TableQuery
