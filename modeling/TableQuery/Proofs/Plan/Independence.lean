import TableQuery.Proofs.Plan.Search

/-!
What a search text has no influence on. Two requests that search the same columns, for whatever
texts, are compiled to the same queries and only differ in the values of the search.
-/

namespace TableQuery

theorem map_eq_map_iff_forall₂ {α β γ : Type} {f : α → γ} {g : β → γ} {l : List α} {l' : List β} :
    l.map f = l'.map g ↔ l.Forall₂ (f · = g ·) l' := by
  rw [← List.forall₂_eq_eq_eq, List.forall₂_map_left_iff, List.forall₂_map_right_iff]

namespace Column

def withoutSearch (c : Column) : Column :=
  { c with search := {} }

-- For columns of requests of their own.
def SearchedAlike (r r' : Request) (c c' : Column) : Prop :=
  c.withoutSearch = c'.withoutSearch ∧ (r.searchText c).isEmpty = (r'.searchText c').isEmpty

theorem SearchedAlike.isSearched {r r' : Request} {c c' : Column} (h : SearchedAlike r r' c c') :
    r.isSearched c = r'.isSearched c' := by
  have hs : c.searchable = c'.searchable := (congrArg Column.searchable h.left :)
  have he : c.isEmpty = c'.isEmpty := (congrArg Column.isEmpty h.left :)
  rw [Request.isSearched, Request.isSearched, hs, he, h.right]

end Column

namespace Request

def withoutSearch (r : Request) : Request :=
  { r with search := {}, columns := r.columns.map (·.withoutSearch) }

-- Apart from their searches the requests are the same, and a column that one of them has a text for
-- has a text in the other.
structure SearchedAlike (r r' : Request) : Prop where
  rest  : r.withoutSearch = r'.withoutSearch
  empty : r.columns.map (fun c => (r.searchText c).isEmpty)
    = r'.columns.map fun c => (r'.searchText c).isEmpty

namespace SearchedAlike

variable {r r' : Request}

theorem start (h : r.SearchedAlike r') : r.start = r'.start :=
  (congrArg Request.start h.rest :)

theorem length (h : r.SearchedAlike r') : r.length = r'.length :=
  (congrArg Request.length h.rest :)

theorem order (h : r.SearchedAlike r') : r.order = r'.order :=
  (congrArg Request.order h.rest :)

theorem columns (h : r.SearchedAlike r') :
    r.columns.map (·.withoutSearch) = r'.columns.map (·.withoutSearch) :=
  (congrArg Request.columns h.rest :)

theorem forall₂_columns (h : r.SearchedAlike r') :
    r.columns.Forall₂ (Column.SearchedAlike r r') r'.columns := by
  have hc := map_eq_map_iff_forall₂.mp h.columns
  have he := map_eq_map_iff_forall₂.mp h.empty
  exact hc.mp (fun _ _ => And.intro) he

-- What one request searches is what the other searches, column by column.
theorem searched (h : r.SearchedAlike r') :
    r.searched.map (·.withoutSearch) = r'.searched.map (·.withoutSearch) := by
  have hs : r.searched.Forall₂ (Column.SearchedAlike r r') r'.searched := by
    refine List.rel_filter ?_ h.forall₂_columns
    intro c c' hc
    exact Bool.eq_iff_iff.mp hc.isSearched
  exact map_eq_map_iff_forall₂.mpr (hs.imp fun _ _ => And.left)

end SearchedAlike

end Request

namespace Scope

variable {request request' : Request}

-- The joins only depend on the paths of the columns.
theorem resolved_eq_of_paths (entity : Entity) (clauses : Clauses) (settings : Settings)
    (h : request.columns.map (·.layout.paths) = request'.columns.map (·.layout.paths)) :
    resolved entity request clauses settings = resolved entity request' clauses settings := by
  have ha (r : Request) : r.columns.flatMap (askedByColumn entity.relationships settings.joinKind)
      = (r.columns.map (·.layout.paths)).flatMap
          (List.filterMap (asked? entity.relationships settings.joinKind)) := by
    rw [List.flatMap_map]
    rfl
  rw [resolved, resolved, ha request, ha request', h]

end Scope

namespace Plan

variable {entity : Entity} {request request' : Request} {clauses : Clauses} {settings : Settings}
  {p p' : Plan} {kind : QueryKind}

theorem searchExprs_congr (h : p.request.searched.map (p.fields.expr? true)
    = p'.request.searched.map (p'.fields.expr? true)) : p.searchExprs = p'.searchExprs := by
  have hx (p : Plan) : p.searchExprs
      = (p.request.searched.map (p.fields.expr? true)).filterMap id := by
    rw [List.filterMap_map]
    rfl
  rw [hx p, hx p', h]

-- Of a column, an order only looks at whether it can be ordered and at its expression.
theorem orderItem?_congr (h : p.request.columns.map (fun c => (c.orderable, p.fields.expr? false c))
    = p'.request.columns.map fun c => (c.orderable, p'.fields.expr? false c)) :
    p.orderItem? = p'.orderItem? := by
  have hi (p : Plan) (o : Order) : p.orderItem? o =
      ((p.request.columns.map fun c => (c.orderable, p.fields.expr? false c))[o.column.toNat]?.filter
        (·.1)).bind fun x => x.2.map (⟨·, some o.dir⟩) := by
    rw [List.getElem?_map, Option.filter_map, Option.bind_map]
    rfl
  funext o
  rw [hi p, hi p', h]

-- Plans that may only differ in their requests.
structure Agree (p p' : Plan) : Prop where
  entity   : p.entity = p'.entity
  clauses  : p.clauses = p'.clauses
  settings : p.settings = p'.settings
  scope    : p.scope = p'.scope

theorem agree_of_prepare (h : prepare entity request clauses settings = .ok p)
    (h' : prepare entity request' clauses settings = .ok p')
    (hp : request.columns.map (·.layout.paths) = request'.columns.map (·.layout.paths)) :
    p.Agree p' := by
  have hs := Scope.resolved_eq_of_paths entity clauses settings hp
  rw [← scope_of_prepare h, ← scope_of_prepare h'] at hs
  constructor
  case entity   => rw [entity_of_prepare h, entity_of_prepare h']
  case clauses  => rw [clauses_of_prepare h, clauses_of_prepare h', hs]
  case settings => rw [settings_of_prepare h, settings_of_prepare h']
  case scope    => exact hs

namespace Agree

variable (h : p.Agree p')
include h

theorem root : p.root = p'.root := by
  rw [Plan.root, Plan.root, h.scope]

theorem fields : p.fields = p'.fields := by
  simp only [Plan.fields, h.scope, h.entity, h.settings]

theorem searchNames (hl : p.request.searched.length = p'.request.searched.length) :
    p.searchNames = p'.searchNames := by
  rw [Plan.searchNames, Plan.searchNames, h.settings, h.clauses, hl]

theorem searchPredicates (hn : p.searchNames = p'.searchNames)
    (he : p.searchExprs = p'.searchExprs) : p.searchPredicates = p'.searchPredicates := by
  rw [Plan.searchPredicates, Plan.searchPredicates, h.fields, he, hn]

theorem select_totalCount : p.select .totalCount = p'.select .totalCount := by
  simp only [select, source, joinClauses, callerConditions, h.root, h.entity, h.clauses, h.settings,
    h.scope]

theorem select_filteredCount (hs : p.searchPredicates = p'.searchPredicates) :
    p.select .filteredCount = p'.select .filteredCount := by
  simp only [select, source, joinClauses, callerConditions, h.root, h.entity, h.clauses, h.scope, hs]

theorem select_page (hs : p.searchPredicates = p'.searchPredicates)
    (ho : p.request.order.filterMap p.orderItem? = p'.request.order.filterMap p'.orderItem?) :
    p.select .page = p'.select .page := by
  simp only [select, source, joinClauses, callerConditions, h.root, h.entity, h.clauses, h.scope, hs,
    ho]

theorem queryText (hs : p.select kind = p'.select kind) : p.queryText kind = p'.queryText kind := by
  rw [Plan.queryText, Plan.queryText, hs, h.settings]

end Agree

-- Plans for requests that are searched alike.
structure SearchedAlike (p p' : Plan) : Prop extends p.Agree p' where
  request : p.request.SearchedAlike p'.request

theorem searchedAlike_of_prepare (h : prepare entity request clauses settings = .ok p)
    (h' : prepare entity request' clauses settings = .ok p') (ha : request.SearchedAlike request') :
    p.SearchedAlike p' := by
  have hp (r : Request) : r.columns.map (·.layout.paths)
      = (r.columns.map (·.withoutSearch)).map (·.layout.paths) := by
    rw [List.map_map]
    rfl
  constructor
  case toAgree => exact agree_of_prepare h h' (by rw [hp request, hp request', ha.columns])
  case request => rwa [request_of_prepare h, request_of_prepare h']

namespace SearchedAlike

variable (h : p.SearchedAlike p')
include h

theorem searchNames : p.searchNames = p'.searchNames := by
  have hl := congrArg List.length h.request.searched
  simp only [List.length_map] at hl
  exact h.toAgree.searchNames hl

theorem searchExprs : p.searchExprs = p'.searchExprs := by
  have hs (p : Plan) : p.request.searched.map (p.fields.expr? true)
      = (p.request.searched.map (·.withoutSearch)).map (p.fields.expr? true) := by
    rw [List.map_map]
    rfl
  exact searchExprs_congr (by rw [hs p, hs p', h.request.searched, h.fields])

theorem orderItem? : p.orderItem? = p'.orderItem? := by
  have hc (p : Plan) : p.request.columns.map (fun c => (c.orderable, p.fields.expr? false c))
      = (p.request.columns.map (·.withoutSearch)).map
          fun c => (c.orderable, p.fields.expr? false c) := by
    rw [List.map_map]
    rfl
  exact orderItem?_congr (by rw [hc p, hc p', h.request.columns, h.fields])

theorem select (kind : QueryKind) : p.select kind = p'.select kind := by
  have hs := h.searchPredicates h.searchNames h.searchExprs
  cases kind
  case page          => exact h.select_page hs (by rw [h.request.order, h.orderItem?])
  case totalCount    => exact h.select_totalCount
  case filteredCount => exact h.select_filteredCount hs

theorem queryText (kind : QueryKind) : p.queryText kind = p'.queryText kind :=
  h.toAgree.queryText (h.select kind)

-- The names of the values that the text mentions, out of the same names.
theorem names_params (kind : QueryKind) : (p.params kind).names = (p'.params kind).names := by
  have hb : (p.bound kind).names = (p'.bound kind).names := by
    cases kind
    case totalCount => rw [bound, bound, h.clauses]
    all_goals
      simp only [bound, Clauses.names_withEntries, names_searchEntries, h.clauses, h.searchNames]
  rw [params, params, Bindings.names_restrict, Bindings.names_restrict, hb, h.queryText]

theorem get?_params (kind : QueryKind) {name : String} (hn : name ∉ p.searchNames) :
    (p.params kind).get? name = (p'.params kind).get? name := by
  rw [get?_params_of_not_mem hn, get?_params_of_not_mem (h.searchNames ▸ hn), h.queryText,
    h.clauses]

end SearchedAlike

theorem query_independent_of_search (h : prepare entity request clauses settings = .ok p)
    (h' : prepare entity request' clauses settings = .ok p') (ha : request.SearchedAlike request')
    (kind : QueryKind) :
    ∃ q q', p.query kind = .ok q ∧ p'.query kind = .ok q' ∧
      q.text = q'.text ∧ q.params.names = q'.params.names ∧
      q.offset = q'.offset ∧ q.limit = q'.limit ∧
      p.searchNames = p'.searchNames ∧
      (∀ name ∈ p.searchNames, name ∉ clauses.values.names) ∧
      ∀ name, name ∉ p.searchNames → q.params.get? name = q'.params.get? name := by
  have hp := searchedAlike_of_prepare h h' ha
  refine ⟨_, _, query_eq (validate_of_prepare h) kind, query_eq (validate_of_prepare h') kind, ?_⟩
  refine ⟨hp.queryText kind, hp.names_params kind, ?offset, ?limit, hp.searchNames, ?fresh, ?rest⟩
  case offset => simp only [hp.request.start]
  case limit  => simp only [hp.request.length]
  case fresh  => exact fun _ hn => values_of_prepare h ▸ not_mem_names_of_mem_searchNames hn
  case rest   => exact fun _ => hp.get?_params kind

-- Quotes, wildcards and what looks like a parameter change as little as any other text.
theorem query_independent_of_quoted_search :
    ∃ p, prepare { name := "Parent" }
        { search := { value := "b" }, columns := [.ofDescriptor "name" ""] } {} {} = .ok p ∧
      ∃ p', prepare { name := "Parent" }
          { columns := [.ofDescriptor "name" "%' OR :value_0 = '"] } {} {} = .ok p' ∧
        ∃ q q', p.query .page = .ok q ∧ p'.query .page = .ok q' ∧ q.text = q'.text := by
  refine exists_prepare (check_eq_ok_of_order_eq_nil rfl rfl (by decide) rfl) fun h => ?_
  refine exists_prepare (check_eq_ok_of_order_eq_nil rfl rfl (by decide) rfl) fun h' => ?_
  have ⟨q, q', hq, hq', ht, _⟩ := query_independent_of_search h h' ⟨rfl, rfl⟩ .page
  exact ⟨q, q', hq, hq', ht⟩

end Plan

end TableQuery
