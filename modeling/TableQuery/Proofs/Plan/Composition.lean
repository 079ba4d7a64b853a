import TableQuery.Proofs.Plan.Search

/-!
What the three queries of a plan have in common. Their texts are put together from the same parts:
each has the same FROM clause and joins, and a page has the WHERE clause of its count.
-/

namespace TableQuery

-- Whether a text is that of a clause: empty without items, else the keyword and all of the items.
structure Select.IsClause (keyword separator : String) (items : List String) (s : String) :
    Prop where
  absent  : items = [] → s = ""
  present : items ≠ [] → s = " " ++ keyword ++ " " ++ separator.intercalate items

theorem Select.isClause_clause (keyword separator : String) (items : List String) :
    IsClause keyword separator items (clause keyword separator items) where
  absent h  := by rw [clause, if_pos (List.isEmpty_iff.mpr h)]
  present h := by rw [clause, if_neg (mt List.isEmpty_iff.mp h)]

section Fragments

variable (d : Dialect) (fragments : List String)

-- A caller's fragments are written as they are, conditions in parentheses.

theorem Expr.map_text_raw : (fragments.map .raw).map (text d) = fragments := by
  simp [Function.comp_def, text]

theorem Expr.map_text_nested :
    (fragments.map fun fragment => nested (.raw fragment)).map (text d)
      = fragments.map ("(" ++ · ++ ")") := by
  simp [Function.comp_def, text, parenthesized]

theorem OrderItem.map_text_raw :
    (fragments.map fun fragment => ⟨.raw fragment, none⟩).map (text d) = fragments := by
  simp [Function.comp_def, text, Expr.text]

end Fragments

namespace Projection

variable {d : Dialect} {root : String}

theorem text_ofPage (select : Option String) :
    (ofPage root select).text d = select.elim root stripSelect := by
  cases select <;> simp [ofPage, Expr.text, Ident.text]

theorem text_ofCount_nil : (ofCount root []).text d = "COUNT(" ++ root ++ ")" := by
  simp [ofCount, Expr.text, Expr.texts, Expr.parenthesized, Ident.text, ← String.toList_inj]

theorem text_ofCount_of_ne_nil {grouping : List String} (h : grouping ≠ []) :
    (ofCount root grouping).text d = "COUNT(DISTINCT " ++ ", ".intercalate grouping ++ ")" := by
  rw [ofCount, if_neg (mt List.isEmpty_iff.mp h), Expr.text, Expr.texts_eq_map, Expr.map_text_raw]
  simp [Expr.parenthesized, ← String.toList_inj]

end Projection

namespace Plan

variable {entity : Entity} {request : Request} {clauses : Clauses} {settings : Settings} {p : Plan}

structure Parts where
  projection  : String
  count       : String
  source      : String
  filter      : String
  totalFilter : String
  grouping    : String
  having      : String
  order       : String

namespace Parts

def text (s : Parts) : QueryKind → String
  | .page          =>
    "SELECT " ++ s.projection ++ s.source ++ s.filter ++ (s.grouping ++ s.having ++ s.order)
  | .totalCount    => "SELECT " ++ s.count ++ s.source ++ s.totalFilter
  | .filteredCount => "SELECT " ++ s.count ++ s.source ++ s.filter

-- What the parts say of a plan, in which `search` is the condition that searches, if there is one.
structure Describe (s : Parts) (p : Plan) (search : List String) : Prop where
  projection  : s.projection = p.clauses.select.elim p.root Projection.stripSelect
  rowCount    : p.clauses.grouping = [] → s.count = "COUNT(" ++ p.root ++ ")"
  groupCount  : p.clauses.grouping ≠ [] →
    s.count = "COUNT(DISTINCT " ++ ", ".intercalate p.clauses.grouping ++ ")"
  source      : s.source = " FROM " ++ p.entity.name ++ " AS " ++ p.root ++
    String.join (p.scope.joins.map fun j =>
      " " ++ j.kind.keyword ++ " " ++ j.parent ++ "." ++ j.field ++ " AS " ++ j.aliasName)
  filter      : Select.IsClause "WHERE" " AND "
    (p.clauses.conditions.map ("(" ++ · ++ ")") ++ search) s.filter
  totalFilter : Select.IsClause "WHERE" " AND "
    (if p.settings.totalCountConditions then p.clauses.conditions.map ("(" ++ · ++ ")") else [])
    s.totalFilter
  grouping    : Select.IsClause "GROUP BY" ", " p.clauses.grouping s.grouping
  having      : Select.IsClause "HAVING" " AND " (p.clauses.having.map ("(" ++ · ++ ")")) s.having
  order       : Select.IsClause "ORDER BY" ", "
    ((p.request.order.filterMap p.orderItem?).map (OrderItem.text p.settings.dialect)
      ++ p.clauses.order) s.order

end Parts

def parts (p : Plan) : Parts where
  projection  := (Projection.ofPage p.root p.clauses.select).text p.settings.dialect
  count       := (Projection.ofCount p.root p.clauses.grouping).text p.settings.dialect
  source      := (p.select .page).fromText
  filter      := (p.select .page).whereText p.settings.dialect
  totalFilter := (p.select .totalCount).whereText p.settings.dialect
  grouping    := Select.clause "GROUP BY" ", " p.clauses.grouping
  having      := Select.clause "HAVING" " AND " (p.clauses.having.map ("(" ++ · ++ ")"))
  order       := Select.clause "ORDER BY" ", "
    ((p.request.order.filterMap p.orderItem?).map (OrderItem.text p.settings.dialect)
      ++ p.clauses.order)

def searchText (p : Plan) : List String :=
  (searchJunction p.searchPredicates).map (Expr.text p.settings.dialect)

theorem tailText_page :
    (p.select .page).tailText p.settings.dialect
      = p.parts.grouping ++ p.parts.having ++ p.parts.order := by
  simp only [Select.tailText, select, parts, List.map_append, Expr.map_text_raw,
    Expr.map_text_nested, OrderItem.map_text_raw]

-- Counts group and order nothing.
theorem tailText_of_ne_page (kind : QueryKind) (h : kind ≠ .page) :
    (p.select kind).tailText p.settings.dialect = "" := by
  cases kind
  case page => contradiction
  all_goals simp [Select.tailText, Select.clause, select]

theorem queryText_eq (kind : QueryKind) : p.queryText kind = p.parts.text kind := by
  rw [queryText, Select.text]
  cases kind
  case page =>
    rw [tailText_page]
    simp [select, parts, Parts.text]
  case totalCount =>
    rw [tailText_of_ne_page .totalCount (by decide)]
    simp [select, parts, Parts.text]
    rfl
  case filteredCount =>
    rw [tailText_of_ne_page .filteredCount (by decide)]
    simp [select, parts, Parts.text]
    rfl

theorem parts_describe : p.parts.Describe p p.searchText where
  projection   := Projection.text_ofPage _
  rowCount h   := by rw [parts, h, Projection.text_ofCount_nil]
  groupCount h := Projection.text_ofCount_of_ne_nil h
  source       := by
    have hf (s : String) : " " ++ ("FROM " ++ s) = " FROM " ++ s := by simp [← String.toList_inj]
    simp [parts, select, Select.fromText, Source.text, Plan.source, joinClauses, JoinClause.text,
      Ident.text, Function.comp_def, String.append_assoc, hf]
  filter       := by
    have hc : (p.select .page).conditions.map (Expr.text p.settings.dialect)
        = p.clauses.conditions.map ("(" ++ · ++ ")") ++ p.searchText := by
      rw [select, List.map_append, callerConditions, Expr.map_text_nested, searchText]
    exact hc ▸ Select.isClause_clause ..
  totalFilter  := by
    have hc : (p.select .totalCount).conditions.map (Expr.text p.settings.dialect)
        = if p.settings.totalCountConditions then p.clauses.conditions.map ("(" ++ · ++ ")")
          else [] := by
      rw [select, callerConditions, ← Expr.map_text_nested p.settings.dialect]
      split <;> rfl
    exact hc ▸ Select.isClause_clause ..
  grouping     := Select.isClause_clause ..
  having       := Select.isClause_clause ..
  order        := Select.isClause_clause ..

theorem searchText_eq_nil (h : p.request.searched = []) : p.searchText = [] := by
  rw [searchText, searchPredicates_eq_nil_iff.mpr h, searchJunction, List.map_nil]

theorem searchText_eq (h : p.request.searched ≠ []) :
    p.searchText = ["(" ++
      " OR ".intercalate (p.searchPredicates.map (Expr.text p.settings.dialect)) ++ ")"] := by
  have hj : searchJunction p.searchPredicates = [.junction .or p.searchPredicates] := by
    cases hp : p.searchPredicates
    case nil  => exact absurd (searchPredicates_eq_nil_iff.mp hp) h
    case cons => rfl
  rw [searchText, hj, List.map_singleton, Expr.text, Expr.texts_eq_map]
  rfl

theorem texts_share_source_and_filter (h : prepare entity request clauses settings = .ok p) :
    (p.entity = entity ∧ p.request = request ∧ p.settings = settings ∧
      p.clauses = clauses.mapFragments (Fragment.resolve p.scope.aliases entity.relationships)) ∧
    ∃ (parts : Parts) (search : List String), parts.Describe p search ∧
      (request.searched = [] → search = []) ∧
      (request.searched ≠ [] → search = ["(" ++
        " OR ".intercalate (p.searchPredicates.map (Expr.text settings.dialect)) ++ ")"]) ∧
      ∀ kind, ∃ q, p.query kind = .ok q ∧ q.text = parts.text kind := by
  have hr := request_of_prepare h
  have hs := settings_of_prepare h
  refine ⟨⟨entity_of_prepare h, hr, hs, clauses_of_prepare h⟩, p.parts, p.searchText,
    parts_describe, ?_⟩
  refine ⟨?none, ?junction, ?text⟩
  case none     => exact fun hn => searchText_eq_nil (hr ▸ hn)
  case junction => exact fun hn => hs ▸ searchText_eq (hr ▸ hn)
  case text =>
    intro kind
    exact ⟨_, query_eq (validate_of_prepare h) kind, queryText_eq kind⟩

-- Where the caller's conditions narrow the total as well, only the search is left to tell the counts
-- apart.
theorem texts_share_source_and_filter_of_grouping :
    ∃ p, prepare { name := "Parent", relationships := ["child"] }
        { search := { value := "b" }, columns := [.ofDescriptor "child.data" ""] }
        { conditions := ["parent.child.rank > 0"], grouping := ["parent.city"] }
        { totalCountConditions := true } = .ok p ∧
      ∃ total filtered, p.query .totalCount = .ok total ∧ p.query .filteredCount = .ok filtered ∧
        total.text = "SELECT COUNT(DISTINCT parent.city) FROM Parent AS parent " ++
          "LEFT JOIN parent.child AS child_1 WHERE (child_1.rank > 0)" ∧
        filtered.text = total.text ++
          " AND (UPPER(child_1.data) LIKE UPPER(CONCAT('%', :value_0, '%')) ESCAPE '#')" := by
  refine exists_prepare (check_eq_ok_of_order_eq_nil rfl rfl (by decide) rfl) fun hp => ?_
  have ⟨_, parts, search, hd, _, hs, ht⟩ := texts_share_source_and_filter hp
  have hs := hs (by decide +kernel)
  subst hs
  have hc := hd.groupCount (by decide +kernel)
  have hz := hd.totalFilter.present (by decide +kernel)
  have hf := hd.filter.present (by decide +kernel)
  have ⟨total, htotal, htt⟩ := ht .totalCount
  have ⟨filtered, hfiltered, hft⟩ := ht .filteredCount
  refine ⟨total, filtered, htotal, hfiltered, ?total, ?filtered⟩
  case total =>
    rw [htt, Parts.text, hc, hd.source, hz]
    decide +kernel
  case filtered =>
    rw [hft, htt, Parts.text, Parts.text, hc, hd.source, hf, hz]
    decide +kernel

end Plan

end TableQuery
