import TableQuery.Proofs.Plan.Composition
import TableQuery.Proofs.Quotation

/-!
The parameters of a query: the values that its text mentions. A text mentions what one of its parts
mentions, and the queries of a plan share their parts, so a page has every parameter of its counts.
-/

namespace TableQuery

open Placeholder

namespace Select.IsClause

variable {keyword separator s name : String} {items : List String}

theorem breaks (h : IsClause keyword separator items s) : Breaks s := by
  by_cases hi : items = []
  case pos => exact h.absent hi ▸ (by decide : Breaks "")
  case neg =>
    rw [h.present hi, String.append_assoc, String.append_assoc]
    exact (by decide : Breaks " ").append_right (by decide) _

theorem mentions_iff (h : IsClause keyword separator items s) (hn : IsIdentifier name.toList)
    (hk : ':' ∉ keyword.toList) (hb : Breaks separator) (he : separator ≠ "")
    (hs : ':' ∉ separator.toList) : Mentions name s ↔ ∃ item ∈ items, Mentions name item := by
  by_cases hi : items = []
  case pos =>
    rw [h.absent hi, hi]
    exact iff_of_false not_occurs_nil nofun
  case neg =>
    have hk : ':' ∉ (" " ++ keyword ++ " ").toList := by simp [hk]
    rw [h.present hi, mentions_append_of_not_mem hk, mentions_intercalate hn hb he hs]

end Select.IsClause

namespace Plan

variable {entity : Entity} {request : Request} {clauses : Clauses} {settings : Settings} {p : Plan}
  {kind : QueryKind} {name : String}

namespace Parts

def inOrder (s : Parts) : QueryKind → List String
  | .page          => [s.projection, s.source, s.filter, s.grouping, s.having, s.order]
  | .totalCount    => [s.count, s.source, s.totalFilter]
  | .filteredCount => [s.count, s.source, s.filter]

namespace Describe

variable {s : Parts} {search : List String} (h : s.Describe p search)
include h

theorem breaks_source : Breaks s.source := by
  rw [h.source, String.append_assoc, String.append_assoc, String.append_assoc]
  exact (by decide : Breaks " FROM ").append_right (by decide) _

theorem mentions_text_iff (hn : IsIdentifier name.toList) :
    Mentions name (s.text kind) ↔ ∃ part ∈ s.inOrder kind, Mentions name part := by
  have hs : ':' ∉ "SELECT ".toList := by decide
  cases kind
  case page =>
    have hg := h.grouping.breaks.append h.having.breaks
    simp only [text, inOrder, mentions_append hn (hg.append h.order.breaks),
      mentions_append hn h.order.breaks, mentions_append hn h.having.breaks,
      mentions_append hn h.filter.breaks, mentions_append hn h.breaks_source,
      mentions_append_of_not_mem hs]
    simp [or_assoc]
  case totalCount =>
    simp only [text, inOrder, mentions_append hn h.totalFilter.breaks,
      mentions_append hn h.breaks_source, mentions_append_of_not_mem hs]
    simp [or_assoc]
  case filteredCount =>
    simp only [text, inOrder, mentions_append hn h.filter.breaks,
      mentions_append hn h.breaks_source, mentions_append_of_not_mem hs]
    simp [or_assoc]

-- What a count counts is the root, which is selected from, or what rows are grouped by.
theorem mentions_count (hn : IsIdentifier name.toList) (hm : Mentions name s.count) :
    Mentions name s.source ∨ Mentions name s.grouping := by
  by_cases hg : p.clauses.grouping = []
  case pos =>
    rw [h.rowCount hg, mentions_enclosed hn (by decide) (by decide) (by decide)] at hm
    refine .inl ?_
    rw [h.source, mentions_append hn (.join fun _ hj => ?joins)]
    case joins =>
      have ⟨j, _, hj⟩ := List.mem_map.mp hj
      simp only [String.append_assoc] at hj
      exact hj ▸ (by decide : Breaks " ").append_right (by decide) _
    refine .inl (hm.append_left ?_)
    rw [String.toList_append, List.getLast?_append]
    simp
  case neg =>
    rw [h.groupCount hg, mentions_enclosed hn (by decide) (by decide) (by decide)] at hm
    refine .inr ?_
    rw [h.grouping.present hg, mentions_append_of_not_mem (by decide)]
    exact hm

-- The total has its conditions from the filtered count, if it has any.
theorem mentions_filteredCount (hn : IsIdentifier name.toList)
    (hm : Mentions name (s.text .totalCount)) :
    Mentions name (s.text .filteredCount) := by
  have ht := h.totalFilter.mentions_iff hn (by decide) (by decide) (by decide) (by decide)
  have hf := h.filter.mentions_iff hn (by decide) (by decide) (by decide) (by decide)
  rw [h.mentions_text_iff hn] at hm ⊢
  simp only [inOrder, List.exists_mem_cons_iff, ht, hf] at hm ⊢
  refine hm.imp_right (·.imp_right (·.imp_left fun ⟨item, hi, hm⟩ => ?_))
  split at hi
  case isTrue  => exact ⟨item, List.mem_append_left _ hi, hm⟩
  case isFalse => contradiction

theorem mentions_page (hn : IsIdentifier name.toList) (hm : Mentions name (s.text .filteredCount)) :
    Mentions name (s.text .page) := by
  rw [h.mentions_text_iff hn] at hm ⊢
  simp only [inOrder, List.exists_mem_cons_iff] at hm ⊢
  have hc := h.mentions_count hn
  tauto

end Describe
end Parts

theorem names_bound :
    (p.bound kind).names =
      p.clauses.values.names ++ if kind = .totalCount then [] else p.searchNames := by
  cases kind
  case totalCount => simp [bound]
  all_goals simp [bound, Clauses.names_withEntries, names_searchEntries]

theorem isIdentifier_of_mem_names_bound (hs : IsIdentifier p.settings.parameterStem.toList)
    (hv : ∀ name ∈ p.clauses.values.names, IsIdentifier name.toList)
    (hn : name ∈ (p.bound kind).names) :
    IsIdentifier name.toList := by
  rw [names_bound] at hn
  cases List.mem_append.mp hn
  case inl hn => exact hv name hn
  case inr hn =>
    have hn : name ∈ p.searchNames := by grind
    have ⟨k, hk⟩ := exists_number_of_mem_freeNames hn
    exact hk ▸ hs.append_toString k

theorem mentioned_queryText_iff (hn : IsIdentifier name.toList) :
    mentioned (p.queryText kind) name ↔ Mentions name (p.parts.text kind) := by
  rw [mentioned_iff hn, queryText_eq]

-- The search binds its texts beside the caller's values.
theorem bound_totalCount_sub (kind : QueryKind) : (p.bound .totalCount).Sub (p.bound kind) := by
  intro name value hv
  by_cases hk : kind = .totalCount
  case pos => exact hk ▸ hv
  case neg =>
    rw [bound] at hv
    rw [get?_bound hk, hv, Option.some_or]

theorem params_nested (h : prepare entity request clauses settings = .ok p)
    (hs : IsIdentifier settings.parameterStem.toList)
    (hv : ∀ name ∈ clauses.values.names, IsIdentifier name.toList) :
    ∃ page total filtered pageSelect filteredSelect pageValues filteredValues exprs names,
      p.query .page = .ok page ∧ p.query .totalCount = .ok total ∧
      p.query .filteredCount = .ok filtered ∧
      total.params.Sub filtered.params ∧ filtered.params.Sub page.params ∧
      p.statement .page = .ok (pageSelect, pageValues) ∧
      p.statement .filteredCount = .ok (filteredSelect, filteredValues) ∧
      p.Searches pageSelect page.params exprs names ∧
      p.Searches filteredSelect filtered.params exprs names := by
  have hr := validate_of_prepare h
  have hd := @parts_describe p
  rw [← settings_of_prepare h] at hs
  rw [← values_of_prepare h] at hv
  have hc := hs.not_mem_colon
  have hn {kind : QueryKind} {name : String} :
      name ∈ (p.bound kind).names → IsIdentifier name.toList :=
    isIdentifier_of_mem_names_bound hs hv
  refine ⟨_, _, _, _, _, _, _, p.searchExprs, p.searchNames, query_eq hr .page,
    query_eq hr .totalCount, query_eq hr .filteredCount, ?total, ?filtered, statement_eq hr .page,
    statement_eq hr .filteredCount, searches hc nofun, searches hc nofun⟩
  case total =>
    refine (bound_totalCount_sub .filteredCount).restrict fun name hm => ?_
    rw [mentioned_queryText_iff (hn hm), mentioned_queryText_iff (hn hm)]
    exact hd.mentions_filteredCount (hn hm)
  case filtered =>
    have hb : (p.bound .filteredCount).Sub (p.bound .page) := fun _ _ => id
    refine hb.restrict fun name hm => ?_
    rw [mentioned_queryText_iff (hn hm), mentioned_queryText_iff (hn hm)]
    exact hd.mentions_page (hn hm)

-- The total has a value of the caller, and the search binds one more in both of the others.
theorem params_nested_of_condition :
    ∃ p, prepare { name := "Parent" }
        { search := { value := "b" }, columns := [.ofDescriptor "name" ""] }
        { conditions := ["parent.rank > :low"], values := ⟨[("low", .int 1)]⟩ }
        { totalCountConditions := true } = .ok p ∧
      ∃ page total filtered name, p.query .page = .ok page ∧ p.query .totalCount = .ok total ∧
        p.query .filteredCount = .ok filtered ∧
        total.params.get? "low" = some (.int 1) ∧ filtered.params.get? "low" = some (.int 1) ∧
        page.params.get? "low" = some (.int 1) ∧
        filtered.params.get? name = some (.string "b") ∧
        page.params.get? name = some (.string "b") := by
  refine exists_prepare (check_eq_ok_of_order_eq_nil rfl rfl (by decide) rfl) fun hp => ?_
  have hv := validate_of_prepare hp
  obtain ⟨page, total, filtered, _, _, _, _, _, names, hq, ht, hf, htf, hfp, _, _, hsp, hsf⟩ :=
    params_nested hp (by decide) (by decide)
  have hte := Except.ok.inj (ht.symm.trans (query_eq hv .totalCount))
  have hl : total.params.get? "low" = some (.int 1) := by
    rw [hte, params, Bindings.get?_restrict, if_pos (by decide +kernel)]
    rfl
  have hbp := hsp.bound
  have hbf := hsf.bound
  rw [request_of_prepare hp, Request.searched, List.filter_eq_self.mpr (by decide +kernel)]
    at hbp hbf
  obtain ⟨name, ns, hnp, _, hn⟩ := List.forall₂_cons_left_iff.mp hbp
  rw [hn] at hbf
  obtain ⟨hnf, _⟩ := List.forall₂_cons.mp hbf
  exact ⟨page, total, filtered, name, hq, ht, hf, hl, htf _ _ hl, hfp _ _ (htf _ _ hl), hnf, hnp⟩

-- A query is looked through for its parameters as a whole, literals included. So it gets a value
-- that it has no use for if a literal says the name of it and nothing else does.
theorem params_exact_iff (h : prepare entity request clauses settings = .ok p)
    (hs : IsIdentifier settings.parameterStem.toList)
    (hv : ∀ name ∈ clauses.values.names, IsIdentifier name.toList) (kind : QueryKind) :
    ∃ select values q names, p.statement kind = .ok (select, values) ∧ p.query kind = .ok q ∧
      q.text = select.text settings.dialect ∧ values.names = clauses.values.names ++ names ∧
      (kind = .totalCount → names = []) ∧
      (kind ≠ .totalCount → ∃ exprs, p.Searches select q.params exprs names) ∧
      (∀ name, name ∈ q.params.names ↔ name ∈ values.names ∧
        (MentionsOutside name q.text ∨ ∃ w ∈ Text.literals q.text, Occurs name.toList none w)) ∧
      ((∀ name, name ∈ q.params.names ↔ name ∈ values.names ∧ MentionsOutside name q.text) ↔
        ∀ name ∈ values.names, (∃ w ∈ Text.literals q.text, Occurs name.toList none w) →
          MentionsOutside name q.text) := by
  have hr := validate_of_prepare h
  have hb := @names_bound p kind
  rw [← settings_of_prepare h] at hs ⊢
  rw [values_of_prepare h] at hb
  rw [← values_of_prepare h] at hv
  have hm (name : String) : name ∈ (p.params kind).names ↔ name ∈ (p.bound kind).names ∧
      (MentionsOutside name (p.queryText kind) ∨
        ∃ w ∈ Text.literals (p.queryText kind), Occurs name.toList none w) := by
    rw [params, Bindings.names_restrict, List.mem_filter]
    refine and_congr_right fun hn => ?_
    have hn := isIdentifier_of_mem_names_bound hs hv hn
    rw [mentioned_iff hn, mentions_iff_outside_or_literal hn]
  refine ⟨_, _, _, _, statement_eq hr kind, query_eq hr kind, rfl, hb, ?total, ?searches, hm,
    ?exact⟩
  case total => exact fun hk => if_pos hk
  case searches =>
    intro hk
    rw [if_neg hk]
    exact ⟨_, searches hs.not_mem_colon hk⟩
  case exact =>
    refine forall_congr' fun name => ?_
    rw [show (name ∈ (p.params kind).names ↔ _) from hm name, and_congr_right_iff,
      or_iff_left_iff_imp]

-- The literal says the name as well, and it is not all that does.
theorem params_exact_of_condition :
    ∃ p, prepare { name := "P" } {}
        { conditions := ["p.a <> ':id'", "p.id = :id"], values := ⟨[("id", .int 7)]⟩ } {} = .ok p ∧
      ∃ q, p.query .page = .ok q ∧ MentionsOutside "id" q.text ∧ "id" ∈ q.params.names := by
  refine exists_prepare (check_eq_ok_of_order_eq_nil rfl rfl (by decide) rfl) fun hp => ?_
  have ⟨_, _, q, _, _, hq, _, hb, _, _, hm, _⟩ := params_exact_iff hp (by decide) (by decide) .page
  have he := Except.ok.inj (hq.symm.trans (query_eq (validate_of_prepare hp) .page))
  have ht : q.text = "SELECT p FROM P AS p WHERE (p.a <> ':id') AND (p.id = " ++ ":id)" := by
    rw [he]
    decide +kernel
  have ho : MentionsOutside "id" q.text := by
    rw [ht, MentionsOutside, String.toList_append]
    exact ⟨_, [')'], rfl, by decide, rfl, by decide⟩
  refine ⟨q, hq, ho, (hm "id").mpr ⟨?_, .inl ho⟩⟩
  rw [hb]
  exact List.mem_append_left _ List.mem_cons_self

-- Nothing but a literal says the name, and still the page gets the value.
theorem params_of_literal :
    ∃ p, prepare { name := "Parent" } {}
        { conditions := ["parent.note <> ':id'"], values := ⟨[("id", .int 7)]⟩ } {} = .ok p ∧
      ∃ q, p.query .page = .ok q ∧
        q.text = "SELECT parent FROM Parent AS parent WHERE (parent.note <> ':id')" ∧
        "id" ∈ q.params.names ∧ ¬MentionsOutside "id" q.text := by
  refine exists_prepare (check_eq_ok_of_order_eq_nil rfl rfl (by decide) rfl) fun hp => ?_
  have ht : (prepared { name := "Parent" } {}
      { conditions := ["parent.note <> ':id'"], values := ⟨[("id", .int 7)]⟩ } {}).queryText .page
        = "SELECT parent FROM Parent AS parent WHERE (parent.note <> ':id')" := by
    decide +kernel
  refine ⟨_, query_eq (validate_of_prepare hp) .page, ht, ?mem, ?outside⟩
  case mem => decide +kernel
  case outside =>
    intro hm
    rw [MentionsOutside, ht] at hm
    have hs : "SELECT parent FROM Parent AS parent WHERE (parent.note <> ':id')".toList
        = "SELECT parent FROM Parent AS parent WHERE (parent.note <> '".toList ++
            ':' :: ("id')".toList ++ []) := by
      simp
    rw [hs, occursWhere_append_iff (by decide), occursWhere_cons_iff,
      occursWhere_append_iff (by decide)] at hm
    cases hm
    case inl hm => exact hm.right.right.right (by decide)
    case inr hm => exact not_occursWhere_nil hm

end Plan

end TableQuery
