import TableQuery.Proofs.Plan.Statement

/-!
The names that the FROM clause declares. Whatever a column's expression names is declared there,
and nothing is declared twice unless the entity has a relationship of its own name that is joined.
-/

namespace TableQuery

-- The names in the order of the FROM clause, the root's first.
def Select.declared (s : Select) : List String :=
  (s.source.bind (·.aliasName)).toList ++ s.joins.map (·.aliasName)

namespace FieldContext

variable {ctx : FieldContext} {p : FieldPath}

theorem pathExpr_eq_of_lookup {base a : String} (hb : p.base? = some base)
    (hr : base ∈ ctx.relationships) (hl : ctx.aliases.lookup base = some a) :
    ctx.pathExpr p = .path a p.remainder := by
  simp [pathExpr, hb, Option.filter_some, hr, hl]

theorem pathExpr_eq_of_not_mem (h : ∀ base, p.base? = some base → base ∉ ctx.relationships) :
    ctx.pathExpr p = .path ctx.aliases.rootAlias p.name := by
  have hn : p.base?.filter ctx.relationships.contains = none := by
    simpa [Option.filter_eq_none_iff] using h
  simp [pathExpr, hn]

end FieldContext

namespace Plan

variable {entity : Entity} {request : Request} {clauses : Clauses} {settings : Settings} {p : Plan}

theorem declared_select (kind : QueryKind) :
    (p.select kind).declared = p.root :: p.scope.joins.map (·.aliasName) := by
  cases kind <;> simp [select, Select.declared, source, joinClauses]

-- A path through a relationship has asked for a join, which holds the alias that the path uses.
theorem exists_join_of_path (h : prepare entity request clauses settings = .ok p)
    {column : Column} {path : FieldPath} {base : String} (hc : column ∈ request.columns)
    (hp : path ∈ column.layout.paths) (hb : path.base? = some base)
    (hr : base ∈ entity.relationships) :
    ∃ j ∈ p.scope.joins, j.field = base ∧
      p.fields.pathExpr path = .path j.aliasName path.remainder := by
  have hf := (mem_fields_of_prepare h base).mpr ⟨hr, .inl ⟨column, hc, path, hp, hb⟩⟩
  have ⟨j, hj, hf⟩ := List.mem_map.mp hf
  have hl := (coherent_of_prepare h).lookup j hj
  rw [hf] at hl
  rw [← entity_of_prepare h] at hr
  exact ⟨j, hj, hf, FieldContext.pathExpr_eq_of_lookup hb hr hl⟩

theorem pathExpr_eq_of_prepare (h : prepare entity request clauses settings = .ok p)
    {path : FieldPath} (hn : ∀ base, path.base? = some base → base ∉ entity.relationships) :
    p.fields.pathExpr path = .path p.root path.name := by
  rw [← entity_of_prepare h] at hn
  exact FieldContext.pathExpr_eq_of_not_mem hn

-- Whatever a column's expression names, it names by an alias of the scope.
theorem qualifier_of_mem_idents (h : prepare entity request clauses settings = .ok p)
    {column : Column} {forSearch : Bool} {e : Expr} {i : Ident} (hc : column ∈ request.columns)
    (he : p.fields.expr? forSearch column = some e) (hi : i ∈ e.idents) :
    ∃ q ∈ p.root :: p.scope.joins.map (·.aliasName), i.qualifier = some q := by
  have ⟨path, hp, hi⟩ := FieldContext.exists_path_of_mem_idents he hi
  by_cases hb : ∃ base, path.base? = some base ∧ base ∈ entity.relationships
  case pos =>
    have ⟨base, hb, hr⟩ := hb
    have ⟨j, hj, _, hx⟩ := exists_join_of_path h hc hp hb hr
    rw [hx, Expr.path, Expr.idents, List.mem_singleton] at hi
    exact ⟨j.aliasName, List.mem_cons_of_mem _ (List.mem_map_of_mem hj), hi ▸ rfl⟩
  case neg =>
    have hx := pathExpr_eq_of_prepare h fun base hb' hr => hb ⟨base, hb', hr⟩
    rw [hx, Expr.path, Expr.idents, List.mem_singleton] at hi
    exact ⟨p.root, List.mem_cons_self, hi ▸ rfl⟩

-- The registry, the joins and the columns' expressions are found one after the other, but they are
-- about the same aliases, and the FROM clause of every query declares them.
theorem aliases_joins_fields_agree (h : prepare entity request clauses settings = .ok p) :
    (∀ j ∈ p.scope.joins,
      j.parent = p.root ∧ p.scope.aliases.lookup j.field = some j.aliasName) ∧
    (p.scope.joins.map (·.field)).Nodup ∧
    (∀ path ∈ p.scope.aliases.paths, path ≠ p.scope.aliases.root →
      ∃! j, j ∈ p.scope.joins ∧ j.field = path) ∧
    (∀ column ∈ request.columns, ∀ path ∈ column.layout.paths,
      (∀ base, path.base? = some base → base ∈ entity.relationships →
        ∃ j ∈ p.scope.joins, j.field = base ∧
          p.fields.pathExpr path = .path j.aliasName path.remainder) ∧
      ((∀ base, path.base? = some base → base ∉ entity.relationships) →
        p.fields.pathExpr path = .path p.root path.name)) ∧
    ∀ kind, ∃ select values, p.statement kind = .ok (select, values) ∧
      ∀ column ∈ request.columns, ∀ forSearch e,
        p.fields.columnExpr forSearch column = .ok (some e) →
        ∀ i ∈ e.idents, ∃ q ∈ select.declared, i.qualifier = some q := by
  have hc := coherent_of_prepare h
  refine ⟨?joins, hc.fields, ?registry, ?fields, ?declared⟩
  case joins    => exact fun j hj => ⟨hc.parent j hj, hc.lookup j hj⟩
  case registry => exact fun path hp hr => hc.existsUnique_join hp hr
  case fields =>
    intro column hm path hp
    exact ⟨fun base hb hr => exists_join_of_path h hm hp hb hr, pathExpr_eq_of_prepare h⟩
  case declared =>
    intro kind
    refine ⟨p.select kind, p.bound kind, statement_eq (validate_of_prepare h) kind, ?_⟩
    intro column hm forSearch e he i hi
    rw [FieldContext.columnExpr_eq, Except.ok.injEq] at he
    exact declared_select kind ▸ qualifier_of_mem_idents h hm he hi

-- One field of the column leads through a relationship, the other does not.
theorem aliases_joins_fields_agree_of_multi :
    ∃ p, prepare { name := "Parent", relationships := ["child"] }
        { columns := [.ofDescriptor "child?.firstData + data" ""] } {} {} = .ok p ∧
      (∃ j ∈ p.scope.joins, j.field = "child" ∧
        p.fields.pathExpr ⟨[⟨"child", true⟩, ⟨"firstData", false⟩]⟩
          = .path j.aliasName "firstData") ∧
      p.fields.pathExpr ⟨[⟨"data", false⟩]⟩ = .path p.root "data" := by
  refine exists_prepare (check_eq_ok_of_order_eq_nil rfl rfl (by decide) rfl) fun hp => ?_
  have ⟨_, _, _, hf, _⟩ := aliases_joins_fields_agree hp
  have hf := hf _ List.mem_cons_self
  have ⟨hc, _⟩ := hf ⟨[⟨"child", true⟩, ⟨"firstData", false⟩]⟩ (by decide +kernel)
  have ⟨_, hd⟩ := hf ⟨[⟨"data", false⟩]⟩ (by decide +kernel)
  exact ⟨hc "child" rfl List.mem_cons_self, hd nofun⟩

-- The entity's own name is a path of the registry from the start. A relationship of that name finds
-- the root's alias there and declares it again; all other joins have aliases of their own.
theorem declared_nodup_iff (h : prepare entity request clauses settings = .ok p) :
    (p.scope.joins.map (·.aliasName)).Nodup ∧
    ((∀ j ∈ p.scope.joins, j.aliasName ≠ p.root) ↔
      ¬Referenced entity request clauses p.root entity.name) ∧
    ∀ kind, ∃ select values, p.statement kind = .ok (select, values) ∧
      (select.declared.Nodup ↔ ¬Referenced entity request clauses p.root entity.name) := by
  have hc := coherent_of_prepare h
  have hn := hc.aliasNames_nodup
  have ha {j : Join} (hj : j ∈ p.scope.joins) : j.aliasName = p.root ↔ j.field = entity.name := by
    rw [← Scope.resolved_root, ← scope_of_prepare h]
    exact hc.aliasName_eq_rootAlias_iff hj
  have hr : (∀ j ∈ p.scope.joins, j.aliasName ≠ p.root) ↔
      ¬Referenced entity request clauses p.root entity.name := by
    rw [← mem_fields_of_prepare h]
    constructor
    case mp =>
      intro hj hm
      have ⟨j, hj', hf⟩ := List.mem_map.mp hm
      exact hj j hj' ((ha hj').mpr hf)
    case mpr => exact fun hm j hj he => hm (List.mem_map.mpr ⟨j, hj, (ha hj).mp he⟩)
  refine ⟨hn, hr, fun kind => ?_⟩
  refine ⟨p.select kind, p.bound kind, statement_eq (validate_of_prepare h) kind, ?_⟩
  rw [declared_select, List.nodup_cons, and_iff_left hn, ← hr]
  simp

-- The first alias for `child` would be the root's, so it gets the one after it.
theorem declared_nodup_of_taken_alias :
    ∃ p, prepare { name := "Child_1", relationships := ["child"] }
        { columns := [.ofDescriptor "child.data" ""] } {} {} = .ok p ∧
      ∃ select values, p.statement .page = .ok (select, values) ∧ select.declared.Nodup := by
  refine exists_prepare (check_eq_ok_of_order_eq_nil rfl rfl (by decide) rfl) fun hp => ?_
  have ⟨_, _, hd⟩ := declared_nodup_iff hp
  have ⟨select, values, hs, hn⟩ := hd .page
  exact ⟨select, values, hs, hn.mpr fun h => absurd h.relationship (by decide)⟩

-- A child that has a child: both are called `child` in the FROM clause.
theorem root_declared_again :
    ∃ p, prepare { name := "child", relationships := ["child"] }
        { columns := [.ofDescriptor "child.data" ""] } {} {} = .ok p ∧
      p.scope.joins.map (·.aliasName) = [p.root] ∧
      ∃ select values, p.statement .page = .ok (select, values) ∧
        select.declared = ["child", "child"] := by
  refine exists_prepare (check_eq_ok_of_order_eq_nil rfl rfl (by decide) rfl) fun hp => ?_
  refine ⟨by decide +kernel, _, _, statement_eq (validate_of_prepare hp) .page, ?_⟩
  rw [declared_select]
  decide +kernel

end Plan

end TableQuery
