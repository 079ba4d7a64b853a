import TableQuery.Proofs.Layout
import TableQuery.Proofs.Plan.Independence

/-!
What each query depends on. The descriptors of the columns decide on names and on the count of all
rows, what is searched on the count of the rows found, and what is ordered on the text of a page.
-/

namespace TableQuery

namespace Request

variable {r r' : Request}

-- Requests that look for the same, column by column, wherever they have it from.
structure SameSearch (r r' : Request) : Prop where
  searchable : r.columns.map (·.searchable) = r'.columns.map (·.searchable)
  text       : r.columns.map r.searchText = r'.columns.map r'.searchText
  format     : r.columns.map (·.format) = r'.columns.map (·.format)
  formats    : r.columns.map (·.layout.formats) = r'.columns.map (·.layout.formats)

structure SameOrder (r r' : Request) : Prop where
  order     : r.order = r'.order
  orderable : r.columns.map (·.orderable) = r'.columns.map (·.orderable)

theorem Made.map_paths (h : r.Made) :
    r.columns.map (·.layout.paths) = (r.columns.map (·.data)).map (Descriptor.parse · |>.paths) := by
  rw [List.map_map]
  exact List.map_congr_left fun c hc => (h c hc).parsed.paths

theorem Made.map_layout (h : r.Made) :
    r.columns.map (·.layout)
      = List.zipWith (fun data formats => (Layout.ofDescriptor (.parse data)).withFormats formats)
          (r.columns.map (·.data)) (r.columns.map (·.layout.formats)) := by
  rw [List.zipWith_map, List.zipWith_self]
  exact List.map_congr_left fun c hc => (h c hc).parsed.layout_eq

end Request

namespace Column

-- For columns of requests of their own.
structure SameSearch (r r' : Request) (c c' : Column) : Prop where
  searchable : c.searchable = c'.searchable
  text       : r.searchText c = r'.searchText c'
  format     : c.format = c'.format
  layout     : c.layout = c'.layout

variable {r r' : Request} {c c' : Column}

theorem SameSearch.isSearched (h : SameSearch r r' c c') : r.isSearched c = r'.isSearched c' := by
  rw [Request.isSearched, Request.isSearched, isEmpty, isEmpty, h.searchable, h.text, h.layout]

theorem SameSearch.expr? (h : SameSearch r r' c c') (ctx : FieldContext) (forSearch : Bool) :
    ctx.expr? forSearch c = ctx.expr? forSearch c' := by
  rw [FieldContext.expr?, FieldContext.expr?, h.layout, h.format]

end Column

namespace Request

variable {r r' : Request}

theorem SameSearch.forall₂_columns (h : r.SameSearch r') (hm : r.Made) (hm' : r'.Made)
    (hd : r.columns.map (·.data) = r'.columns.map (·.data)) :
    r.columns.Forall₂ (Column.SameSearch r r') r'.columns := by
  have hl : r.columns.map (·.layout) = r'.columns.map (·.layout) := by
    rw [hm.map_layout, hm'.map_layout, hd, h.formats]
  have hs := map_eq_map_iff_forall₂.mp h.searchable
  have ht := map_eq_map_iff_forall₂.mp h.text
  have hf := map_eq_map_iff_forall₂.mp h.format
  have hst := hs.mp (fun _ _ => And.intro) ht
  have hfl := hf.mp (fun _ _ => And.intro) (map_eq_map_iff_forall₂.mp hl)
  exact hst.mp (fun _ _ hst hfl => ⟨hst.left, hst.right, hfl.left, hfl.right⟩) hfl

-- What one request searches is what the other searches, column by column.
theorem forall₂_searched (h : r.columns.Forall₂ (Column.SameSearch r r') r'.columns) :
    r.searched.Forall₂ (Column.SameSearch r r') r'.searched :=
  List.rel_filter (fun _ _ hc => Bool.eq_iff_iff.mp hc.isSearched) h

end Request

namespace Plan

variable {entity : Entity} {request request' : Request} {clauses : Clauses} {settings : Settings}
  {p p' : Plan} {kind : QueryKind}

-- Plans that search the same.
structure SameSearch (p p' : Plan) : Prop extends p.Agree p' where
  columns : p.request.columns.Forall₂ (Column.SameSearch p.request p'.request) p'.request.columns

namespace SameSearch

variable (h : p.SameSearch p')
include h

theorem searchNames : p.searchNames = p'.searchNames :=
  h.toAgree.searchNames (Request.forall₂_searched h.columns).length_eq

theorem searchExprs : p.searchExprs = p'.searchExprs := by
  refine searchExprs_congr (map_eq_map_iff_forall₂.mpr ?_)
  rw [h.fields]
  exact (Request.forall₂_searched h.columns).imp fun _ _ hc => hc.expr? _ _

theorem searchPredicates : p.searchPredicates = p'.searchPredicates :=
  h.toAgree.searchPredicates h.searchNames h.searchExprs

theorem searchEntries : p.searchEntries = p'.searchEntries := by
  have hv : p.request.searched.map p.searchValue = p'.request.searched.map p'.searchValue := by
    rw [map_eq_map_iff_forall₂]
    refine (Request.forall₂_searched h.columns).imp fun _ _ hc => ?_
    rw [searchValue, searchValue, hc.text, h.settings]
  rw [Plan.searchEntries, Plan.searchEntries, h.searchNames, hv]

theorem bound (kind : QueryKind) : p.bound kind = p'.bound kind := by
  cases kind
  case totalCount => rw [Plan.bound, Plan.bound, h.clauses]
  all_goals simp only [Plan.bound, h.clauses, h.searchEntries]

theorem orderItem? (ho : p.request.SameOrder p'.request) : p.orderItem? = p'.orderItem? := by
  refine orderItem?_congr (map_eq_map_iff_forall₂.mpr ?_)
  rw [h.fields]
  have ho := map_eq_map_iff_forall₂.mp ho.orderable
  exact ho.mp (fun _ _ ho hc => Prod.ext ho (hc.expr? _ _)) h.columns

end SameSearch

theorem query_eq_query (hv : p.request.validate = .ok ()) (hv' : p'.request.validate = .ok ())
    (hk : kind ≠ .page) (ht : p.queryText kind = p'.queryText kind)
    (hb : p.bound kind = p'.bound kind) : ∃ q, p.query kind = .ok q ∧ p'.query kind = .ok q := by
  refine ⟨_, query_eq hv kind, ?_⟩
  rw [query_eq hv' kind, params, params, ht, hb, if_neg hk, if_neg hk]
  simp only [if_neg hk]

-- Each part takes in more of the requests, and leaves the rest of them open.
theorem queries_depend_only_on (h : prepare entity request clauses settings = .ok p)
    (h' : prepare entity request' clauses settings = .ok p') (hm : request.Made)
    (hm' : request'.Made) (hd : request.columns.map (·.data) = request'.columns.map (·.data)) :
    (p.scope = p'.scope ∧ p.clauses = p'.clauses ∧
      ∃ q, p.query .totalCount = .ok q ∧ p'.query .totalCount = .ok q) ∧
    (request.SameSearch request' →
      (∃ q, p.query .filteredCount = .ok q ∧ p'.query .filteredCount = .ok q) ∧
      (request.SameOrder request' →
        ∃ q q', p.query .page = .ok q ∧ p'.query .page = .ok q' ∧
          q.text = q'.text ∧ q.params = q'.params)) := by
  have hv := validate_of_prepare h
  have hv' := validate_of_prepare h'
  have ha : p.Agree p' := agree_of_prepare h h' (by rw [hm.map_paths, hm'.map_paths, hd])
  refine ⟨⟨ha.scope, ha.clauses, ?total⟩, fun hs => ?search⟩
  case total =>
    refine query_eq_query hv hv' (by decide) (ha.queryText ha.select_totalCount) ?_
    rw [bound, bound, ha.clauses]
  case search =>
    have hs : p.SameSearch p' := by
      refine ⟨ha, ?_⟩
      rw [request_of_prepare h, request_of_prepare h']
      exact hs.forall₂_columns hm hm' hd
    have hp := hs.searchPredicates
    refine ⟨?filtered, fun ho => ?page⟩
    case filtered =>
      exact query_eq_query hv hv' (by decide) (ha.queryText (ha.select_filteredCount hp)) (hs.bound _)
    case page =>
      rw [← request_of_prepare h, ← request_of_prepare h'] at ho
      have ht : p.queryText .page = p'.queryText .page :=
        ha.queryText (ha.select_page hp (by rw [ho.order, hs.orderItem? ho]))
      refine ⟨_, _, query_eq hv .page, query_eq hv' .page, ht, ?_⟩
      simp only [params, ht, hs.bound]

-- The text is looked for in the whole table, or only in the column, which has a name as well; and
-- another page is asked for.
theorem queries_depend_only_on_of_global_search :
    ∃ p, prepare { name := "Parent", relationships := ["child"] } {
          draw    := 7
          start   := 20
          search  := ⟨"50%", true⟩
          order   := [⟨0, .desc⟩]
          columns := [.ofDescriptor "child?.name" ""] } {} {} = .ok p ∧
      ∃ p', prepare { name := "Parent", relationships := ["child"] } {
            length  := 5
            order   := [⟨0, .desc⟩]
            columns := [{ Column.ofDescriptor "child?.name" "50%" with name := "Child" }] } {} {}
          = .ok p' ∧
        (∃ q, p.query .totalCount = .ok q ∧ p'.query .totalCount = .ok q) ∧
        (∃ q, p.query .filteredCount = .ok q ∧ p'.query .filteredCount = .ok q) ∧
        ∃ q q', p.query .page = .ok q ∧ p'.query .page = .ok q' ∧
          q.text = q'.text ∧ q.params = q'.params := by
  refine exists_prepare (by decide) fun h => exists_prepare (by decide) fun h' => ?_
  have hm := Column.Made.ofDescriptor "child?.name" ""
  have hm' := (Column.Made.ofDescriptor "child?.name" "50%").update "Child" true true ⟨"50%", false⟩
    none
  have ⟨⟨_, _, ht⟩, hs⟩ := queries_depend_only_on h h' (List.forall_mem_singleton.mpr hm)
    (List.forall_mem_singleton.mpr hm') rfl
  have ⟨hf, ho⟩ := hs ⟨rfl, rfl, rfl, rfl⟩
  exact ⟨ht, hf, ho ⟨rfl, rfl⟩⟩

end Plan

end TableQuery
