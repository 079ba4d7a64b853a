import TableQuery.Proofs.Plan.Acceptance
import TableQuery.Proofs.Plan.Parameters
import TableQuery.Proofs.Spelling

/-!
What the choice of a dialect decides. Plans for both of them are about the same names and clauses, and
their queries have the same parameters. Only what searches, and what orders by several fields, is
written differently.
-/

namespace TableQuery

open Outcome Placeholder

namespace Select

theorem breaks_clause (keyword sep : String) (items : List String) :
    Breaks (clause keyword sep items) :=
  (isClause_clause keyword sep items).breaks

theorem breaks_fromText (s : Select) : Breaks s.fromText := by
  refine Breaks.append ?source (.join (List.forall_mem_map.mpr fun j _ => ?joins))
  case source =>
    cases s.source
    case none   => decide
    case some t => exact (by decide : Breaks " ").append_right (by decide) _
  case joins => exact (by decide : Breaks " ").append_right (by decide) _

theorem breaks_whereText (d : Dialect) (s : Select) : Breaks (s.whereText d) :=
  breaks_clause _ _ _

theorem breaks_tailText (d : Dialect) (s : Select) : Breaks (s.tailText d) :=
  ((breaks_clause _ _ _).append (breaks_clause _ _ _)).append (breaks_clause _ _ _)

variable {name : String} (hn : IsIdentifier name.toList)
include hn

theorem mentions_clause_congr {α : Type} {f g : α → String} {l : List α} {keyword sep : String}
    (hk : ':' ∉ keyword.toList) (hb : Breaks sep) (he : sep ≠ "") (hs : ':' ∉ sep.toList)
    (h : ∀ a ∈ l, (Mentions name (f a) ↔ Mentions name (g a))) :
    Mentions name (clause keyword sep (l.map f)) ↔ Mentions name (clause keyword sep (l.map g)) := by
  have hm (f : α → String) : Mentions name (clause keyword sep (l.map f)) ↔
      ∃ item ∈ l.map f, Mentions name item :=
    (isClause_clause keyword sep (l.map f)).mentions_iff hn hk hb he hs
  simp only [hm, List.mem_map, exists_exists_and_eq_and]
  exact exists_congr fun a => and_congr_right (h a)

theorem mentions_orderItem_iff (d d' : Dialect) (o : OrderItem) :
    Mentions name (o.text d) ↔ Mentions name (o.text d') := by
  have hb (dir : Direction) : Breaks (" " ++ dir.keyword) := by cases dir <;> decide
  rw [OrderItem.text, OrderItem.text]
  cases o.direction
  case none     => simpa using o.expr.mentions_text_iff hn d d'
  case some dir =>
    rw [mentions_append hn (hb dir), mentions_append hn (hb dir), o.expr.mentions_text_iff hn d d']

theorem mentions_columns_iff (d d' : Dialect) (s : Select) :
    Mentions name (", ".intercalate (s.columns.map (Expr.text d))) ↔
      Mentions name (", ".intercalate (s.columns.map (Expr.text d'))) := by
  simp only [mentions_intercalate hn (by decide : Breaks ", ") (by decide) (by decide),
    ← Expr.texts_eq_map]
  exact Expr.exists_mem_texts_iff fun e _ => e.mentions_text_iff hn d d'

theorem mentions_whereText_iff (d d' : Dialect) (s : Select) :
    Mentions name (s.whereText d) ↔ Mentions name (s.whereText d') :=
  mentions_clause_congr hn (by decide) (by decide) (by decide) (by decide)
    fun e _ => e.mentions_text_iff hn d d'

theorem mentions_tailText_iff (d d' : Dialect) (s : Select) :
    Mentions name (s.tailText d) ↔ Mentions name (s.tailText d') := by
  rw [tailText, tailText]
  simp only [mentions_append hn (breaks_clause _ _ _)]
  refine or_congr (or_congr ?grouping ?having) ?order
  case grouping | having =>
    exact mentions_clause_congr hn (by decide) (by decide) (by decide) (by decide)
      fun e _ => e.mentions_text_iff hn d d'
  case order =>
    exact mentions_clause_congr hn (by decide) (by decide) (by decide) (by decide)
      fun o _ => mentions_orderItem_iff hn d d' o

-- A statement has its parameters from what it selects and from its clauses.
theorem mentions_text_iff (d d' : Dialect) (s : Select) :
    Mentions name (s.text d) ↔ Mentions name (s.text d') := by
  have ht (d : Dialect) : Mentions name (s.text d) ↔
      ((Mentions name (", ".intercalate (s.columns.map (Expr.text d))) ∨ Mentions name s.fromText) ∨
        Mentions name (s.whereText d)) ∨ Mentions name (s.tailText d) := by
    rw [text, mentions_append hn (s.breaks_tailText d), mentions_append hn (s.breaks_whereText d),
      mentions_append hn s.breaks_fromText, mentions_append_of_not_mem (by decide)]
  rw [ht, ht, mentions_columns_iff hn d d', mentions_whereText_iff hn d d',
    mentions_tailText_iff hn d d']

end Select

-- That nothing is ordered by a text put together of several fields.
def Request.OrdersByFields (r : Request) : Prop :=
  ∀ o ∈ r.order, ∀ c, r.columns[o.column.toNat]? = some c → c.orderable → ¬c.isMultiField

namespace FieldContext

variable {ctx : FieldContext} {c : Column} {e : Expr}

theorem uniform_pathExpr (path : FieldPath) : (ctx.pathExpr path).Uniform := by
  rw [pathExpr]
  split <;> exact .ident _

theorem uniform_of_expr?_false (hc : ¬c.isMultiField) (he : ctx.expr? false c = some e) :
    e.Uniform := by
  rw [expr?] at he
  rw [Column.isMultiField] at hc
  cases hl : c.layout
  case empty  => simp [hl] at he
  case multi  => simp [hl] at hc
  case single path =>
    rw [hl, Option.some.injEq] at he
    cases hf : c.format
    all_goals
      rw [hf, formatted] at he
      exact he ▸ uniform_pathExpr path

end FieldContext

namespace Projection

theorem uniform_ofPage (root : String) (select : Option String) : (ofPage root select).Uniform := by
  cases select
  case none => exact .ident _
  case some => exact .raw _

theorem uniform_ofCount (root : String) (grouping : List String) :
    (ofCount root grouping).Uniform := by
  rw [ofCount]
  split
  case isTrue  => exact .call (List.forall_mem_singleton.mpr (.ident _))
  case isFalse => exact .call (List.forall_mem_map.mpr fun fragment _ => .raw fragment)

end Projection

namespace Plan

variable {entity : Entity} {request : Request} {clauses : Clauses} {settings : Settings} {p : Plan}
  {kind : QueryKind} {d : Dialect}

def withDialect (d : Dialect) (p : Plan) : Plan :=
  { p with settings := { p.settings with dialect := d } }

theorem prepare_withDialect :
    prepare entity request clauses { settings with dialect := d }
      = (prepare entity request clauses settings).map (withDialect d) := by
  have hc : check entity request { settings with dialect := d } = check entity request settings :=
    rfl
  rw [prepare, prepare, hc]
  simp only [Scope.joinColumns_eq, ok_mapError, ok_bind]
  cases check entity request settings <;> rfl

-- The dialect has no part in what a query says, only in how it is written.
theorem select_withDialect (kind : QueryKind) : (p.withDialect d).select kind = p.select kind := by
  cases kind <;> rfl

theorem bound_withDialect (kind : QueryKind) : (p.withDialect d).bound kind = p.bound kind := by
  cases kind <;> rfl

theorem queryText_withDialect (kind : QueryKind) :
    (p.withDialect d).queryText kind = (p.select kind).text d := by
  rw [queryText, select_withDialect]
  rfl

theorem statement_withDialect (h : p.request.validate = .ok ()) (kind : QueryKind) :
    (p.withDialect d).statement kind = .ok (p.select kind, p.bound kind) := by
  have h : (p.withDialect d).request.validate = .ok () := h
  rw [statement_eq h, select_withDialect, bound_withDialect]

theorem params_withDialect (hs : IsIdentifier p.settings.parameterStem.toList)
    (hv : ∀ name ∈ p.clauses.values.names, IsIdentifier name.toList) (kind : QueryKind) :
    (p.withDialect d).params kind = p.params kind := by
  rw [params, bound_withDialect]
  refine Bindings.restrict_congr fun name hm => ?_
  have hn := isIdentifier_of_mem_names_bound hs hv hm
  rw [Bool.eq_iff_iff, mentioned_iff hn, mentioned_iff hn, queryText_withDialect]
  exact Select.mentions_text_iff hn _ _ _

theorem uniform_callerConditions : ∀ e ∈ p.callerConditions, e.Uniform :=
  List.forall_mem_map.mpr fun fragment _ => (Expr.Uniform.raw fragment).nested

theorem uniform_of_mem_conditions (h : p.request.searched = []) {e : Expr}
    (he : e ∈ p.callerConditions ++ searchJunction p.searchPredicates) : e.Uniform := by
  rw [searchPredicates_eq_nil_iff.mpr h, searchJunction, List.append_nil] at he
  exact uniform_callerConditions e he

theorem uniform_of_mem_order (h : p.request.OrdersByFields) {o : OrderItem}
    (ho : o ∈ (p.select .page).order) : o.expr.Uniform := by
  cases List.mem_append.mp ho
  case inl ho =>
    have ⟨r, hr, ho⟩ := List.mem_filterMap.mp ho
    obtain ⟨c, hc, ho⟩ := Option.bind_eq_some_iff.mp ho
    obtain ⟨hc, hs⟩ := Option.filter_eq_some_iff.mp hc
    obtain ⟨e, he, rfl⟩ := Option.map_eq_some_iff.mp ho
    exact FieldContext.uniform_of_expr?_false (h r hr c hc hs) he
  case inr ho =>
    obtain ⟨fragment, _, rfl⟩ := List.mem_map.mp ho
    exact .raw fragment

theorem uniform_select (hs : kind ≠ .totalCount → p.request.searched = [])
    (ho : kind = .page → p.request.OrdersByFields) : (p.select kind).Uniform := by
  cases kind
  case page =>
    exact {
      columns    := List.forall_mem_singleton.mpr (Projection.uniform_ofPage _ _)
      conditions := fun _ => uniform_of_mem_conditions (hs (by decide))
      grouping   := List.forall_mem_map.mpr fun fragment _ => .raw fragment
      having     := List.forall_mem_map.mpr fun fragment _ => (Expr.Uniform.raw fragment).nested
      order      := fun _ => uniform_of_mem_order (ho rfl) }
  case totalCount =>
    refine ⟨List.forall_mem_singleton.mpr (Projection.uniform_ofCount _ _), fun e he => ?_,
      List.forall_mem_nil _, List.forall_mem_nil _, List.forall_mem_nil _⟩
    rw [select] at he
    split at he
    case isTrue  => exact uniform_callerConditions e he
    case isFalse => contradiction
  case filteredCount =>
    exact ⟨List.forall_mem_singleton.mpr (Projection.uniform_ofCount _ _),
      fun _ => uniform_of_mem_conditions (hs (by decide)), List.forall_mem_nil _,
      List.forall_mem_nil _, List.forall_mem_nil _⟩

-- What is left to the dialect is how one and the same statement is written.
theorem dialect_only_respells (entity : Entity) (request : Request) (clauses : Clauses)
    (settings : Settings) (d : Dialect) (hs : IsIdentifier settings.parameterStem.toList)
    (hv : ∀ name ∈ clauses.values.names, IsIdentifier name.toList) :
    (∃ e, prepare entity request clauses settings = .error e ∧
      prepare entity request clauses { settings with dialect := d } = .error e) ∨
    ∃ p p', prepare entity request clauses settings = .ok p ∧
      prepare entity request clauses { settings with dialect := d } = .ok p' ∧
      p.scope = p'.scope ∧ p.clauses = p'.clauses ∧
      ∀ kind, ∃ select values q q',
        p.statement kind = .ok (select, values) ∧ p'.statement kind = .ok (select, values) ∧
        p.query kind = .ok q ∧ p'.query kind = .ok q' ∧
        q.text = select.text settings.dialect ∧ q'.text = select.text d ∧
        q.params = q'.params ∧ q.offset = q'.offset ∧ q.limit = q'.limit ∧
        ((kind ≠ .totalCount → request.searched = []) →
          (kind = .page → request.OrdersByFields) → q.text = q'.text) := by
  have hd := @prepare_withDialect entity request clauses settings d
  cases hp : prepare entity request clauses settings
  case error e =>
    rw [hp] at hd
    exact .inl ⟨e, rfl, hd⟩
  case ok p =>
    rw [hp] at hd
    have hr := validate_of_prepare hp
    have hr' : (p.withDialect d).request.validate = .ok () := hr
    have hq := request_of_prepare hp
    have hst := settings_of_prepare hp
    rw [← hst] at hs
    rw [← values_of_prepare hp] at hv
    refine .inr ⟨p, _, rfl, hd, rfl, rfl, fun kind => ⟨_, _, _, _, statement_eq hr kind,
      statement_withDialect hr kind, query_eq hr kind, query_eq hr' kind, hst ▸ rfl,
      queryText_withDialect kind, (params_withDialect hs hv kind).symm, rfl, rfl, fun hn ho => ?_⟩⟩
    have hu : (p.select kind).Uniform := uniform_select (hq ▸ hn) (hq ▸ ho)
    exact (hu.text_eq p.settings.dialect d).trans (queryText_withDialect kind).symm

-- The search of the page is written in two ways. The total has no search.
theorem dialect_only_respells_of_format :
    ∃ p, prepare { name := "Parent" }
        { search  := { value := "b" }
          columns := [{ Column.ofDescriptor "born" "" with format := some "%Y" }] } {} {} = .ok p ∧
      ∃ p', prepare { name := "Parent" }
        { search  := { value := "b" }
          columns := [{ Column.ofDescriptor "born" "" with format := some "%Y" }] } {}
        { dialect := .hql } = .ok p' ∧
      (∃ q q', p.query .page = .ok q ∧ p'.query .page = .ok q' ∧ q.params = q'.params ∧
        q.text = "SELECT parent FROM Parent AS parent WHERE (UPPER(FUNCTION('date_format', " ++
          "parent.born, '%Y')) LIKE UPPER(CONCAT('%', :value_0, '%')) ESCAPE '#')" ∧
        q'.text = "SELECT parent FROM Parent AS parent WHERE (UPPER(date_format(" ++
          "parent.born, '%Y')) LIKE UPPER(('%' || :value_0 || '%')) ESCAPE '#')") ∧
      ∃ q q', p.query .totalCount = .ok q ∧ p'.query .totalCount = .ok q' ∧ q.text = q'.text := by
  refine exists_prepare (by decide) fun hp => ?_
  have hd := dialect_only_respells { name := "Parent" }
    { search  := { value := "b" }
      columns := [{ Column.ofDescriptor "born" "" with format := some "%Y" }] } {} {} .hql
    (by decide) (by decide)
  rw [hp] at hd
  cases hd
  case inl hd =>
    have ⟨_, he, _⟩ := hd
    contradiction
  case inr hd =>
    obtain ⟨_, p', he, hp', _, _, hq⟩ := hd
    cases he
    have ⟨_, _, q, q', _, _, h, h', _, _, hb, _⟩ := hq .page
    have ⟨_, _, t, t', _, _, ht, ht', _, _, _, _, _, hs⟩ := hq .totalCount
    refine ⟨p', hp', ⟨q, q', h, h', hb, ?jpql, ?hql⟩, t, t', ht, ht', hs nofun nofun⟩
    case jpql =>
      rw [Except.ok.inj (h.symm.trans (query_eq (validate_of_prepare hp) .page))]
      decide +kernel
    case hql =>
      rw [Except.ok.inj (h'.symm.trans (query_eq (validate_of_prepare hp') .page)),
        (prepare_eq_ok_iff.mp hp').right]
      decide +kernel

end Plan

end TableQuery
