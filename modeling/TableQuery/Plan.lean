import TableQuery.Clauses
import TableQuery.Entity
import TableQuery.Field
import TableQuery.Like
import TableQuery.Placeholder
import TableQuery.Query.Projection
import TableQuery.Request.Basic
import TableQuery.Scope

/-!
Plans: a request bound to an entity. Aliases and joins are settled once, from the columns and from
what the caller's fragments refer to, so all queries of a plan agree on them.
-/

namespace TableQuery

inductive QueryKind
  | page
  | totalCount    -- without the search
  | filteredCount -- with the conditions of the page
deriving DecidableEq

def QueryKind.display : QueryKind → String
  | page          => "page"
  | totalCount    => "total count"
  | filteredCount => "filtered count"

inductive CompileError
  | settings (e : SettingsError)
  | invalidEntity (name : String)
  | request (e : RequestError)
  | column (e : ColumnError)
deriving DecidableEq

def CompileError.message : CompileError → String
  | settings e         => "Invalid compiler settings: " ++ e.message
  | invalidEntity name => name ++ " is not a valid entity."
  | request e          => e.message
  | column e           => e.message

-- Only pages have bounds.
structure Query where
  kind   : QueryKind
  text   : String
  params : Bindings
  offset : Option UInt64 := none
  limit  : Option UInt64 := none

structure Plan where
  entity   : Entity
  request  : Request
  clauses  : Clauses -- with references written by aliases
  settings : Settings
  scope    : Scope

namespace Plan

-- What has to hold before anything is compiled. Of several faults the first one here is
-- reported.
def check (entity : Entity) (request : Request) (settings : Settings) :
    Except CompileError Unit := do
  settings.validate.mapError .settings
  if entity.isEntity then .ok () else .error (.invalidEntity entity.name)
  request.validate.mapError .request

def ofScope (entity : Entity) (request : Request) (clauses : Clauses) (settings : Settings)
    (scope : Scope) : Plan where
  entity
  request
  clauses := clauses.mapFragments (Fragment.resolve scope.aliases entity.relationships)
  settings
  scope

-- Binds a request to an entity, with what the caller adds.
def prepare (entity : Entity) (request : Request) (clauses : Clauses) (settings : Settings) :
    Except CompileError Plan := do
  check entity request settings
  let start := Scope.ofRoot entity.name settings.aliasLength
  let scope ← (start.joinColumns entity.relationships settings.joinKind request.columns).mapError
    .column
  return ofScope entity request clauses settings
    (scope.joinAllReferences entity.relationships settings.joinKind clauses.fragments)

variable (p : Plan)

def root : String :=
  p.scope.aliases.rootAlias

def fields : FieldContext where
  aliases       := p.scope.aliases
  relationships := p.entity.relationships
  settings      := p.settings

-- The conditions that search `columns`, one for each that can be searched and has something to
-- search for, with the texts bound in the caller's values.
def searchConditions (c : Clauses) : List Column → Except ColumnError (List Expr × Clauses)
  | []                => .ok ([], c)
  | column :: columns => do
    let text := p.request.searchText column
    if !column.searchable || text.isEmpty then
      searchConditions c columns
    else match ← p.fields.columnExpr true column with
      | none   => searchConditions c columns
      | some e =>
        let name := c.nextName p.settings.parameterStem
        let value := Value.string (Like.escape text p.settings.escapeChar)
        let (conditions, c) ←
          searchConditions (c.bindNext p.settings.parameterStem value) columns
        return (p.fields.searchCondition e name :: conditions, c)

-- The search is one condition, met by a row if any column meets its own.
def searchJunction : List Expr → List Expr
  | []         => []
  | conditions => [.junction .or conditions]

def orderItems : List Order → Except CompileError (List OrderItem)
  | []          => .ok []
  | o :: orders => do
    let column ← (p.request.column o.column.toNat).mapError .request
    if !column.orderable then orderItems orders
    else match ← (p.fields.columnExpr false column).mapError .column with
      | none   => orderItems orders
      | some e => return ⟨e, some o.dir⟩ :: (← orderItems orders)

def source : Source where
  entity    := p.entity.name
  aliasName := some p.root

def joinClauses : List JoinClause :=
  p.scope.joins.map fun j => ⟨j.kind, ⟨some j.parent, j.field⟩, j.aliasName⟩

-- The caller's conditions, each in its own parentheses.
def callerConditions : List Expr :=
  p.clauses.conditions.map fun fragment => .nested (.raw fragment)

-- A query before it is written, and the values bound by then.
def statement (kind : QueryKind) : Except CompileError (Select × Bindings) := do
  match kind with
  | .page => do
    let (search, c) ← (p.searchConditions p.clauses p.request.columns).mapError .column
    let order ← p.orderItems p.request.order
    return ({
      columns    := [Projection.ofPage p.root p.clauses.select]
      source     := some p.source
      joins      := p.joinClauses
      conditions := p.callerConditions ++ searchJunction search
      grouping   := p.clauses.grouping.map .raw
      having     := p.clauses.having.map fun fragment => .nested (.raw fragment)
      order      := order ++ p.clauses.order.map fun fragment => ⟨.raw fragment, none⟩ }, c.values)
  | .totalCount =>
    return ({
      columns    := [Projection.ofCount p.root p.clauses.grouping]
      source     := some p.source
      joins      := p.joinClauses
      conditions := if p.settings.totalCountConditions then p.callerConditions else [] },
      p.clauses.values)
  | .filteredCount => do
    let (search, c) ← (p.searchConditions p.clauses p.request.columns).mapError .column
    return ({
      columns    := [Projection.ofCount p.root p.clauses.grouping]
      source     := some p.source
      joins      := p.joinClauses
      conditions := p.callerConditions ++ searchJunction search }, c.values)

-- A query with the values that its text mentions.
def query (kind : QueryKind) : Except CompileError Query := do
  let (select, values) ← p.statement kind
  let text := select.text p.settings.dialect
  let params := values.restrict (Placeholder.mentioned text)
  match kind with
  | .page => return { kind, text, params
                      offset := some p.request.start
                      limit  := some (← p.request.limit.mapError .request) }
  | _     => return { kind, text, params }

structure Queries where
  page          : Query
  totalCount    : Query
  filteredCount : Query

def queries : Except CompileError Queries :=
  return {
    page          := ← p.query .page
    totalCount    := ← p.query .totalCount
    filteredCount := ← p.query .filteredCount }

end Plan

end TableQuery
