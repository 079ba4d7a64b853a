import TableQuery.Proofs.Column
import TableQuery.Proofs.Plan.Statement
import TableQuery.Proofs.WellFormed

/-!
What a client can write into a query: names, and texts inside literals. The entity, the settings and
the grammar of descriptors make sure of the names, and no text gets out of its literal.
-/

namespace TableQuery

open Text

namespace FieldPath

variable {p : FieldPath}

theorem Named.plain_join {segments : List Segment} (h : ∀ s ∈ segments, IsName s.name) :
    Plain (".".intercalate (segments.map (·.name))) :=
  have hs : Plain "." := by decide
  forall_mem_intercalate hs (List.forall_mem_map.mpr fun s hm => (h s hm).plain)

theorem Named.plain_name (h : p.Named) : Plain p.name :=
  plain_join h

theorem Named.plain_remainder (h : p.Named) : Plain p.remainder :=
  plain_join fun s hs => h s (List.mem_of_mem_drop hs)

end FieldPath

namespace FieldContext

variable {ctx : FieldContext} {forSearch : Bool} {c : Column} {e : Expr}

structure Named (ctx : FieldContext) : Prop where
  aliases  : ∀ name ∈ ctx.aliases.names, IsName name
  function : IsName ctx.settings.formatFunction

theorem plain_searchCondition (ctx : FieldContext) (he : e.Plain) {name : String}
    (hn : IsName name) : (ctx.searchCondition e name).Plain := by
  have hu : Plain "UPPER" := by decide
  have hp : ∀ x ∈ [Expr.literal "%", .param name, .literal "%"], x.Plain :=
    List.forall_mem_cons.mpr ⟨.literal "%", List.forall_mem_cons.mpr
      ⟨.param hn.plain, List.forall_mem_singleton.mpr (.literal "%")⟩⟩
  exact .like ctx.settings.escapeChar
    (.call false hu (List.forall_mem_singleton.mpr he))
    (.call false hu (List.forall_mem_singleton.mpr (.concat hp)))

namespace Named

theorem plain_pathExpr (h : ctx.Named) {p : FieldPath} (hp : p.Named) : (ctx.pathExpr p).Plain := by
  have hi {q s : String} (hq : IsName q) (hs : Plain s) : (Expr.path q s).Plain :=
    .ident ((hq.plain.append (by decide)).append hs)
  rw [pathExpr]
  split
  case h_1 a ha =>
    have ⟨_, _, ha⟩ := Option.bind_eq_some_iff.mp ha
    exact hi (h.aliases a (Aliases.mem_names_of_lookup ha)) hp.plain_remainder
  case h_2 => exact hi (h.aliases _ Aliases.rootAlias_mem_names) hp.plain_name

theorem plain_formatted (h : ctx.Named) (format : Option String) (he : e.Plain) :
    (ctx.formatted forSearch format e).Plain := by
  cases format
  case none         => exact he
  case some pattern =>
    cases forSearch
    case false => exact he
    case true  => exact .format pattern h.function.plain he

theorem plain_expr (h : ctx.Named) (hc : ∀ p ∈ c.layout.paths, p.Named)
    (he : ctx.expr? forSearch c = some e) : e.Plain := by
  rw [expr?] at he
  split at he
  case h_1 => contradiction
  case h_2 p hl =>
    rw [hl] at hc
    cases he
    exact h.plain_formatted c.format (h.plain_pathExpr (List.forall_mem_singleton.mp hc))
  case h_3 ps ds slots hl =>
    rw [hl] at hc
    cases he
    refine .concat fun x hx => ?_
    cases mem_alternate hx
    case inl hx =>
      obtain ⟨f, hf, hx⟩ := List.mem_map.mp hx
      exact hx ▸ h.plain_formatted f.format (h.plain_pathExpr (hc f.path (List.mem_map_of_mem hf)))
    case inr hx =>
      obtain ⟨d, hx⟩ := hx
      exact hx ▸ .literal d

end Named
end FieldContext

namespace Plan

variable {entity : Entity} {request : Request} {clauses : Clauses} {settings : Settings} {p : Plan}
  {kind : QueryKind} {e : Expr} {name : String}

-- That everything a plan calls by a name is called by one.
structure Named (p : Plan) : Prop where
  entity  : IsName p.entity.name
  fields  : p.fields.Named
  joins   : ∀ j ∈ p.scope.joins, IsName j.parent ∧ IsName j.field ∧ IsName j.aliasName
  stem    : IsName p.settings.parameterStem
  columns : p.request.Made

section Prepare

variable (h : prepare entity request clauses settings = .ok p) (he : IsName entity.name)
  (hr : ∀ field ∈ entity.relationships, IsName field)
include h he hr

-- Only relationships are registered besides the root.
theorem isName_aliases_of_prepare : ∀ name ∈ p.scope.aliases.names, IsName name := by
  intro name hn
  have ⟨(path, _), hm, hn⟩ := List.mem_map.mp hn
  subst hn
  refine spelled_of_prepare h _ hm ?_
  by_cases hp : path = p.scope.aliases.root
  case pos => exact hp ▸ root_of_prepare h ▸ he
  case neg =>
    have hf := (coherent_of_prepare h).joined path (List.mem_map_of_mem hm) hp
    exact hr path ((mem_fields_of_prepare h path).mp hf).relationship

theorem named_of_prepare (hs : IsName settings.parameterStem) (hf : IsName settings.formatFunction)
    (hm : request.Made) : p.Named := by
  have hc := coherent_of_prepare h
  have ha := isName_aliases_of_prepare h he hr
  rw [← settings_of_prepare h] at hs hf
  constructor
  case entity  => exact entity_of_prepare h ▸ he
  case fields  => exact ⟨ha, hf⟩
  case stem    => exact hs
  case columns => exact request_of_prepare h ▸ hm
  case joins =>
    intro j hj
    refine ⟨?parent, ?field, ?aliasName⟩
    case parent => exact hc.parent j hj ▸ ha _ Aliases.rootAlias_mem_names
    case field =>
      exact hr _ ((mem_fields_of_prepare h _).mp (List.mem_map_of_mem hj)).relationship
    case aliasName => exact ha _ (Aliases.mem_names_of_lookup (hc.lookup j hj))

end Prepare

namespace Named

variable (h : p.Named)
include h

theorem isName_root : IsName p.root :=
  h.fields.aliases _ Aliases.rootAlias_mem_names

theorem isName_of_mem_searchNames (hn : name ∈ p.searchNames) : IsName name := by
  have ⟨k, hk⟩ := exists_number_of_mem_freeNames hn
  exact hk ▸ h.stem.append (.toString k)

theorem plain_of_mem_searchPredicates (he : e ∈ p.searchPredicates) : e.Plain := by
  have ⟨x, hx, name, hn, he⟩ := exists_of_mem_searchPredicates he
  have ⟨c, hc, hx⟩ := List.mem_filterMap.mp hx
  have hp := h.fields.plain_expr (h.columns c (List.mem_of_mem_filter hc)).named hx
  exact he ▸ FieldContext.plain_searchCondition p.fields hp (h.isName_of_mem_searchNames hn)

theorem plain_of_mem_searchJunction (he : e ∈ searchJunction p.searchPredicates) : e.Plain := by
  have hj : Expr.Plain (.junction .or p.searchPredicates) :=
    .junction .or fun _ => h.plain_of_mem_searchPredicates
  unfold searchJunction at he
  split at he
  case h_1 => contradiction
  case h_2 => exact List.mem_singleton.mp he ▸ hj

theorem plain_of_orderItem? {o : Order} {item : OrderItem} (hi : p.orderItem? o = some item) :
    item.expr.Plain := by
  have ⟨c, hc, hi⟩ := Option.bind_eq_some_iff.mp hi
  have ⟨e, he, hi⟩ := Option.map_eq_some_iff.mp hi
  have hc := List.mem_of_getElem? (Option.filter_eq_some_iff.mp hc).left
  exact hi ▸ h.fields.plain_expr (h.columns c hc).named he

theorem plain_source : Plain p.source.text :=
  ((by decide : Plain "FROM ").append h.entity.plain).append
    ((by decide : Plain " AS ").append h.isName_root.plain)

theorem plain_of_mem_joinClauses {j : JoinClause} (hj : j ∈ p.joinClauses) : Plain j.text := by
  have ⟨i, hi, hj⟩ := List.mem_map.mp hj
  have ⟨hp, hf, ha⟩ := h.joins i hi
  have hk : Plain i.kind.keyword := by cases i.kind <;> decide
  subst hj
  exact (((hk.append (by decide)).append ((hp.plain.append (by decide)).append hf.plain)).append
    (by decide)).append ha.plain

theorem plain_ofCount {grouping : List String} (hg : ∀ g ∈ grouping, WellFormed g) :
    (Projection.ofCount p.root grouping).Plain := by
  have hc : Plain "COUNT" := by decide
  rw [Projection.ofCount]
  split
  case isTrue  => exact .call false hc (List.forall_mem_singleton.mpr (.ident h.isName_root.plain))
  case isFalse => exact .call true hc (List.forall_mem_map.mpr fun g hm => .raw (hg g hm))

-- What the caller adds is written as it is, so this is where it has to be well-formed by itself.
theorem plain_select (hp : p.clauses.select = none)
    (hw : ∀ fragment ∈ p.clauses.fragments, WellFormed fragment) (kind : QueryKind) :
    (p.select kind).Plain := by
  have ⟨_, hc, hg, hh, ho⟩ := Clauses.forall_mem_fragments_iff.mp hw
  have hc : ∀ e ∈ p.callerConditions, e.Plain :=
    List.forall_mem_map.mpr fun f hm => .nested (.raw (hc f hm))
  have hf : ∀ e ∈ p.callerConditions ++ searchJunction p.searchPredicates, e.Plain :=
    List.forall_mem_append.mpr ⟨hc, fun _ => h.plain_of_mem_searchJunction⟩
  have hn : ∀ e ∈ [Projection.ofCount p.root p.clauses.grouping], e.Plain :=
    List.forall_mem_singleton.mpr (h.plain_ofCount hg)
  have hs : ∀ t ∈ some p.source, Plain t.text := fun t ht => Option.some.inj ht ▸ h.plain_source
  have hj : ∀ j ∈ p.joinClauses, Plain j.text := fun _ => h.plain_of_mem_joinClauses
  cases kind
  case page =>
    have hr : (Projection.ofPage p.root p.clauses.select).Plain := by
      rw [hp]
      exact .ident h.isName_root.plain
    constructor
    case columns    => exact List.forall_mem_singleton.mpr hr
    case source     => exact hs
    case joins      => exact hj
    case conditions => exact hf
    case grouping   => exact List.forall_mem_map.mpr fun f hm => .raw (hg f hm)
    case having     => exact List.forall_mem_map.mpr fun f hm => .nested (.raw (hh f hm))
    case order =>
      refine List.forall_mem_append.mpr ⟨fun item hi => ?_, ?_⟩
      · have ⟨o, _, hi⟩ := List.mem_filterMap.mp hi
        exact h.plain_of_orderItem? hi
      · exact List.forall_mem_map.mpr fun f hm => .raw (ho f hm)
  case totalCount =>
    have ht : ∀ e ∈ if p.settings.totalCountConditions then p.callerConditions else [], e.Plain := by
      split
      case isTrue  => exact hc
      case isFalse => exact List.forall_mem_nil _
    exact ⟨hn, hs, hj, ht, nofun, nofun, nofun⟩
  case filteredCount => exact ⟨hn, hs, hj, hf, nofun, nofun, nofun⟩

end Named

theorem query_confines_client_texts (h : prepare entity request clauses settings = .ok p)
    (he : IsName entity.name) (hr : ∀ field ∈ entity.relationships, IsName field)
    (hs : IsName settings.parameterStem) (hf : IsName settings.formatFunction)
    (hc : clauses.fragments = []) (hm : request.Made) (kind : QueryKind) :
    ∃ q ls, p.query kind = .ok q ∧ Lexeme.read q.text = some ls ∧
      (∀ c ∈ Lexeme.outside ls, isWord c ∨ c ∈ ['.', ':', ',', '(', ')', '|', ' ']) ∧
      depthAfter 0 (Lexeme.outside ls) = some 0 := by
  have hn : p.clauses.fragments = [] :=
    clauses_of_prepare h ▸ Clauses.fragments_mapFragments_eq_nil hc _
  have hp : p.clauses.select = none := (Clauses.fragments_eq_nil_iff.mp hn).left
  have hw : ∀ fragment ∈ p.clauses.fragments, WellFormed fragment := by
    rw [hn]
    exact nofun
  have hn := named_of_prepare h he hr hs hf hm
  have ht : WellFormed (p.queryText kind) := (hn.plain_select hp hw kind).wellFormed
  have ⟨ls, hl, ha, hb⟩ := ht
  exact ⟨_, ls, query_eq (validate_of_prepare h) kind, hl, ha, hb 0⟩

-- A delimiter and a format each try to get out of their literals, and to close what is open there.
theorem query_confines_quotes_and_parentheses :
    ∃ p, prepare { name := "Parent", relationships := ["child"] }
        { search  := { value := "x' OR 'x' = 'x" }
          order   := [{ column := 1, dir := .desc }]
          columns := [
            .ofDescriptor "name') -- city" "",
            { Column.ofDescriptor "child?.born" "" with format := some "%d') OR ('%m" }] } {}
        { dialect := .hql } = .ok p ∧
      ∃ q ls, p.query .page = .ok q ∧ q.text =
          "SELECT parent FROM Parent AS parent LEFT JOIN parent.child AS child_1 WHERE (" ++
          "UPPER((parent.name || ''') -- ' || parent.city)) " ++
          "LIKE UPPER(('%' || :value_0 || '%')) ESCAPE '#' OR " ++
          "UPPER(date_format(child_1.born, '%d'') OR (''%m')) " ++
          "LIKE UPPER(('%' || :value_1 || '%')) ESCAPE '#') ORDER BY child_1.born DESC" ∧
        Lexeme.read q.text = some ls ∧
        (∀ c ∈ Lexeme.outside ls, isWord c ∨ c ∈ ['.', ':', ',', '(', ')', '|', ' ']) ∧
        depthAfter 0 (Lexeme.outside ls) = some 0 := by
  refine exists_prepare (check_eq_ok_iff.mpr
    ⟨rfl, rfl, Request.validate_eq_ok_iff.mpr ⟨by decide, by decide +kernel⟩⟩) fun hp => ?_
  have hn : Column.Made (.ofDescriptor "name') -- city" "") := .ofDescriptor ..
  have hb : Column.Made
      { Column.ofDescriptor "child?.born" "" with format := some "%d') OR ('%m" } :=
    .update (.ofDescriptor "child?.born" "") "" true true {} _
  have ⟨q, ls, hq, hl⟩ := query_confines_client_texts hp (by decide) (by decide) (by decide)
    (by decide) rfl (List.forall_mem_cons.mpr ⟨hn, List.forall_mem_singleton.mpr hb⟩) .page
  have ht := Except.ok.inj (hq.symm.trans (query_eq (validate_of_prepare hp) .page))
  refine ⟨q, ls, hq, ?text, hl⟩
  rw [ht]
  decide +kernel

end Plan

end TableQuery
