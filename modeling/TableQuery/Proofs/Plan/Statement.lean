import TableQuery.Proofs.Clauses
import TableQuery.Proofs.Field
import TableQuery.Proofs.Plan.Resolution
import TableQuery.Proofs.Request

/-!
What a plan compiles to. Once the checks are passed nothing fails any more, and each query is the
text of one statement with some of the values that are bound.
-/

namespace TableQuery

open Outcome

namespace Plan

variable {entity : Entity} {request : Request} {clauses : Clauses} {settings : Settings} {p : Plan}

theorem check_eq_ok_iff :
    check entity request settings = .ok () ↔
      settings.validate = .ok () ∧ entity.isEntity ∧ request.validate = .ok () := by
  simp only [check]
  simp only [bind_eq_ok_iff, mapError_eq_ok_iff]
  cases entity.isEntity
  case true  =>
    simp only [↓reduceIte, ok_bind, mapError_eq_ok_iff, true_and]
    exact ⟨fun ⟨(), h⟩ => h, fun h => ⟨(), h⟩⟩
  case false => exact ⟨nofun, nofun⟩

theorem check_eq_ok_of_order_eq_nil (hs : settings.validate = .ok ()) (he : entity.isEntity)
    (hl : 0 < request.length.toInt) (ho : request.order = []) :
    check entity request settings = .ok () :=
  check_eq_ok_iff.mpr ⟨hs, he, Request.validate_eq_ok_of_order_eq_nil hl ho⟩

def prepared (entity : Entity) (request : Request) (clauses : Clauses) (settings : Settings) :
    Plan :=
  ofScope entity request clauses settings (.resolved entity request clauses settings)

theorem prepare_eq_ok_iff :
    prepare entity request clauses settings = .ok p ↔
      check entity request settings = .ok () ∧ p = prepared entity request clauses settings := by
  rw [prepare, bind_eq_ok_iff]
  simp only [Scope.joinColumns_eq, ok_mapError, ok_bind, Scope.joinAllReferences_eq,
    Scope.joinAll_rootAlias, ← Scope.joinAll_append]
  constructor
  case mp  => exact fun ⟨(), hc, hp⟩ => ⟨hc, (Except.ok.inj hp).symm⟩
  case mpr => exact fun ⟨hc, hp⟩ => ⟨(), hc, hp ▸ rfl⟩

theorem exists_prepare {P : Plan → Prop} (hc : check entity request settings = .ok ())
    (h : prepare entity request clauses settings = .ok (prepared entity request clauses settings) →
      P (prepared entity request clauses settings)) :
    ∃ p, prepare entity request clauses settings = .ok p ∧ P p :=
  have hp := prepare_eq_ok_iff.mpr ⟨hc, rfl⟩
  ⟨_, hp, h hp⟩

section Prepare

variable (h : prepare entity request clauses settings = .ok p)
include h

theorem entity_of_prepare : p.entity = entity :=
  (prepare_eq_ok_iff.mp h).right ▸ rfl

theorem request_of_prepare : p.request = request :=
  (prepare_eq_ok_iff.mp h).right ▸ rfl

theorem settings_of_prepare : p.settings = settings :=
  (prepare_eq_ok_iff.mp h).right ▸ rfl

theorem clauses_of_prepare :
    p.clauses = clauses.mapFragments (Fragment.resolve p.scope.aliases entity.relationships) :=
  (prepare_eq_ok_iff.mp h).right ▸ rfl

theorem values_of_prepare : p.clauses.values = clauses.values :=
  (prepare_eq_ok_iff.mp h).right ▸ rfl

theorem scope_of_prepare : p.scope = .resolved entity request clauses settings :=
  (prepare_eq_ok_iff.mp h).right ▸ rfl

theorem coherent_of_prepare : p.scope.Coherent :=
  scope_of_prepare h ▸ Scope.resolved_coherent

theorem spelled_of_prepare : p.scope.aliases.Spelled :=
  scope_of_prepare h ▸ Scope.resolved_spelled

theorem root_of_prepare : p.scope.aliases.root = entity.name :=
  scope_of_prepare h ▸ Scope.resolved_root

theorem root_eq_of_prepare :
    p.root = (Aliases.ofRoot entity.name settings.aliasLength).rootAlias := by
  rw [root, scope_of_prepare h, Scope.rootAlias_resolved]

theorem mem_fields_of_prepare (field : String) :
    field ∈ p.scope.fields ↔ Referenced entity request clauses p.root field := by
  rw [root, scope_of_prepare h, Scope.mem_fields_resolved]

theorem validate_of_prepare : p.request.validate = .ok () := by
  have ⟨hc, _⟩ := prepare_eq_ok_iff.mp h
  exact request_of_prepare h ▸ (check_eq_ok_iff.mp hc).right.right

end Prepare

section Search

def searchNames (p : Plan) : List String :=
  freeNames p.settings.parameterStem p.clauses.values.names p.request.searched.length

def searchValue (p : Plan) (c : Column) : Value :=
  .string (Like.escape (p.request.searchText c) p.settings.escapeChar)

def searchEntries (p : Plan) : List (String × Value) :=
  p.searchNames.zip (p.request.searched.map p.searchValue)

def searchExprs (p : Plan) : List Expr :=
  p.request.searched.filterMap (p.fields.expr? true)

def searchPredicates (p : Plan) : List Expr :=
  List.zipWith p.fields.searchCondition p.searchExprs p.searchNames

variable {c : Clauses} {column : Column} {columns : List Column}

theorem exists_of_mem_searchPredicates {predicate : Expr} (h : predicate ∈ p.searchPredicates) :
    ∃ e ∈ p.searchExprs, ∃ name ∈ p.searchNames, p.fields.searchCondition e name = predicate := by
  have ⟨i, hi, hp⟩ := List.mem_iff_getElem.mp h
  simp only [searchPredicates, List.getElem_zipWith] at hp
  exact ⟨_, List.getElem_mem (List.lt_length_left_of_zipWith hi), _,
    List.getElem_mem (List.lt_length_right_of_zipWith hi), hp⟩

theorem exists_expr_of_isSearched (h : p.request.isSearched column) :
    ∃ e, p.fields.expr? true column = some e := by
  have ⟨_, he, _⟩ := Request.isSearched_iff.mp h
  exact Option.isSome_iff_exists.mp (FieldContext.expr?_isSome_iff.mpr he)

theorem searchConditions_cons_of_not (h : ¬p.request.isSearched column) :
    p.searchConditions c (column :: columns) = p.searchConditions c columns := by
  rw [searchConditions]
  split
  case isTrue     => rfl
  case isFalse hs =>
    have he : column.isEmpty := by simp_all [Request.isSearched]
    have hn : p.fields.expr? true column = none := by
      rwa [← Option.not_isSome_iff_eq_none, FieldContext.expr?_isSome_iff, not_not]
    rw [FieldContext.columnExpr_eq, hn]
    rfl

theorem searchConditions_cons {e : Expr} (h : p.request.isSearched column)
    (he : p.fields.expr? true column = some e) :
    p.searchConditions c (column :: columns) = do
      let stem := p.settings.parameterStem
      let (conditions, c') ←
        p.searchConditions (c.withEntries [(c.nextName stem, p.searchValue column)]) columns
      return (p.fields.searchCondition e (c.nextName stem) :: conditions, c') := by
  have hs : ¬(!column.searchable || (p.request.searchText column).isEmpty) := by
    simp_all [Request.isSearched]
  rw [searchConditions, if_neg hs, FieldContext.columnExpr_eq, he, ok_bind]
  simp only [Clauses.bindNext_eq]
  rfl

-- The names are given out as the columns come, so this is about any values to start from.
theorem searchConditions_eq (c : Clauses) (columns : List Column) :
    let searched := columns.filter p.request.isSearched
    let names := freeNames p.settings.parameterStem c.values.names searched.length
    p.searchConditions c columns = .ok (
      List.zipWith p.fields.searchCondition (searched.filterMap (p.fields.expr? true)) names,
      c.withEntries (names.zip (searched.map p.searchValue))) := by
  induction columns generalizing c
  case nil                    => simp [searchConditions, freeNames, Clauses.withEntries]
  case cons column columns ih =>
    by_cases hs : p.request.isSearched column
    case neg => simpa [searchConditions_cons_of_not hs, List.filter_cons_of_neg hs] using ih c
    case pos =>
      obtain ⟨e, he⟩ := exists_expr_of_isSearched hs
      simp only [searchConditions_cons hs he, ih, ok_bind, List.filter_cons_of_pos hs,
        List.filterMap_cons_some he, List.length_cons, freeNames, List.map_cons,
        List.zipWith_cons_cons, List.zip_cons_cons, Clauses.nextName_eq, Clauses.names_withEntries,
        Clauses.withEntries_withEntries]
      rfl

end Search

section Order

-- What an order of the request asks for; nothing, if its column cannot be ordered or is blank.
def orderItem? (p : Plan) (o : Order) : Option OrderItem :=
  (p.request.columns[o.column.toNat]?.filter (·.orderable)).bind fun column =>
    (p.fields.expr? false column).map (⟨·, some o.dir⟩)

theorem orderItems_eq {orders : List Order} (h : ∀ o ∈ orders, p.request.InRange o) :
    p.orderItems orders = .ok (orders.filterMap p.orderItem?) := by
  induction orders
  case nil               => rfl
  case cons o orders ih =>
    have ⟨ho, hs⟩ := List.forall_mem_cons.mp h
    have ⟨column, hc⟩ := Request.exists_column_iff.mpr ho
    have hi : p.orderItem? o = if column.orderable
        then (p.fields.expr? false column).map (⟨·, some o.dir⟩) else none := by
      rw [orderItem?, Request.column_eq_ok_iff.mp hc, Option.filter_some]
      split <;> simp
    rw [orderItems, hc, ok_mapError, ok_bind, ih hs, FieldContext.columnExpr_eq, ok_mapError,
      List.filterMap_cons, hi]
    cases column.orderable
    case false => rfl
    case true  => cases p.fields.expr? false column <;> rfl

end Order

-- The statement of a query.
def select (p : Plan) : QueryKind → Select
  | .page          => {
    columns    := [Projection.ofPage p.root p.clauses.select]
    source     := some p.source
    joins      := p.joinClauses
    conditions := p.callerConditions ++ searchJunction p.searchPredicates
    grouping   := p.clauses.grouping.map .raw
    having     := p.clauses.having.map fun fragment => .nested (.raw fragment)
    order      := p.request.order.filterMap p.orderItem?
      ++ p.clauses.order.map fun fragment => ⟨.raw fragment, none⟩ }
  | .totalCount    => {
    columns    := [Projection.ofCount p.root p.clauses.grouping]
    source     := some p.source
    joins      := p.joinClauses
    conditions := if p.settings.totalCountConditions then p.callerConditions else [] }
  | .filteredCount => {
    columns    := [Projection.ofCount p.root p.clauses.grouping]
    source     := some p.source
    joins      := p.joinClauses
    conditions := p.callerConditions ++ searchJunction p.searchPredicates }

-- The values that are bound for a query.
def bound (p : Plan) : QueryKind → Bindings
  | .totalCount => p.clauses.values
  | _           => (p.clauses.withEntries p.searchEntries).values

def queryText (p : Plan) (kind : QueryKind) : String :=
  (p.select kind).text p.settings.dialect

def params (p : Plan) (kind : QueryKind) : Bindings :=
  (p.bound kind).restrict (Placeholder.mentioned (p.queryText kind))

theorem statement_eq (h : p.request.validate = .ok ()) (kind : QueryKind) :
    p.statement kind = .ok (p.select kind, p.bound kind) := by
  have hs := searchConditions_eq (p := p) p.clauses p.request.columns
  have ho := orderItems_eq (Request.validate_eq_ok_iff.mp h).right
  cases kind
  case page          => simp only [statement, hs, ho, ok_mapError, ok_bind]; rfl
  case totalCount    => rfl
  case filteredCount => simp only [statement, hs, ok_mapError, ok_bind]; rfl

-- Only pages have bounds.
theorem query_eq (h : p.request.validate = .ok ()) (kind : QueryKind) :
    p.query kind = .ok {
      kind
      text   := p.queryText kind
      params := p.params kind
      offset := if kind = .page then some p.request.start else none
      limit  := if kind = .page then some (.ofNat p.request.length.toInt.toNat) else none } := by
  have hl := Request.limit_eq_ok_iff.mpr ⟨(Request.validate_eq_ok_iff.mp h).left, rfl⟩
  rw [query, statement_eq h, ok_bind]
  cases kind
  case page => simp only [hl, ok_mapError, ok_bind]; rfl
  all_goals rfl

-- That a query is the text of a statement, and passes on what the text mentions of some values.
structure Compiled (p : Plan) (kind : QueryKind) (select : Select) (values : Bindings) : Prop where
  statement : p.statement kind = .ok (select, values)
  query     : ∃ q, p.query kind = .ok q ∧ q.text = select.text p.settings.dialect ∧
    q.params = values.restrict (Placeholder.mentioned q.text)

theorem compiled (h : p.request.validate = .ok ()) (kind : QueryKind) :
    p.Compiled kind (p.select kind) (p.bound kind) where
  statement := statement_eq h kind
  query     := ⟨_, query_eq h kind, rfl, rfl⟩

end Plan

end TableQuery
