import Mathlib.Data.List.Forall2
import Mathlib.Data.List.Zip
import TableQuery.Proofs.Placeholder
import TableQuery.Proofs.Plan.Statement

/-!
The search of a query. Each column that is searched has one condition and one value, under a name
that nothing else is bound to, and no name is lost when the text is looked through for it.
-/

namespace TableQuery

open Text

-- What is behind the parameter depends on how the dialect puts texts together. In both of them it
-- cannot go on with the name.
theorem Expr.within_pattern (d : Dialect) (name : String) :
    ∃ after, after.toList ≠ [] ∧ Placeholder.endsName after.toList ∧
      Within (" :" ++ name ++ after)
        ((concat [.literal "%", .param name, .literal "%"]).text d) := by
  let quoted := Dialect.literal "%"
  simp only [text, texts_eq_map, List.map_cons, List.map_nil, concatText,
    String.intercalate_cons_cons, String.intercalate_singleton, Dialect.placeholder]
  cases d
  case jpql =>
    refine ⟨",", by decide, by decide, "CONCAT(" ++ quoted ++ ",", " " ++ quoted ++ ")", ?_⟩
    simp [Dialect.concatOperator?, parenthesized, quoted, ← String.toList_inj]
  case hql =>
    refine ⟨" ", by decide, by decide, "(" ++ quoted ++ " ||", "|| " ++ quoted ++ ")", ?_⟩
    simp [Dialect.concatOperator?, parenthesized, quoted, ← String.toList_inj]

theorem FieldContext.mentioned_of_within_searchCondition {d : Dialect} {ctx : FieldContext}
    {e : Expr} {name text : String} (hn : ':' ∉ name.toList)
    (hw : Within ((ctx.searchCondition e name).text d) text) : Placeholder.mentioned text name := by
  have ⟨after, ha, he, hp⟩ := Expr.within_pattern d name
  have hc : Within (" :" ++ name ++ after) ((ctx.searchCondition e name).text d) :=
    (hp.trans (Expr.within_upper _)).trans (Expr.within_like _ _)
  exact Placeholder.mentioned_of_within hn ha he (hc.trans hw)

theorem forall₂_filterMap {α β : Type} {f : α → Option β} {l : List α}
    (h : ∀ a ∈ l, ∃ b, f a = some b) : l.Forall₂ (f · = some ·) (l.filterMap f) := by
  induction l
  case nil          => exact .nil
  case cons a as ih =>
    have ⟨⟨b, hb⟩, h⟩ := List.forall_mem_cons.mp h
    rw [List.filterMap_cons_some hb]
    exact .cons hb (ih h)

theorem forall₂_zipWith {α β γ δ : Type} {R : α → β → Prop} {f : β → γ → δ} {as : List α}
    {bs : List β} {cs : List γ} (h : as.Forall₂ R bs) (hl : bs.length = cs.length) :
    as.Forall₂ (fun a d => ∃ b c, R a b ∧ d = f b c) (List.zipWith f bs cs) := by
  induction h generalizing cs
  case nil          => exact .nil
  case cons hr _ ih =>
    obtain ⟨c, cs, rfl⟩ := List.exists_cons_of_length_eq_add_one hl.symm
    exact .cons ⟨_, c, hr, rfl⟩ (ih (Nat.succ.inj hl))

namespace Plan

variable {entity : Entity} {request : Request} {clauses : Clauses} {settings : Settings} {p : Plan}
  {kind : QueryKind} {column : Column} {name : String}

theorem searched_forall₂_searchExprs :
    p.request.searched.Forall₂ (fun column e => p.fields.columnExpr true column = .ok (some e))
      p.searchExprs := by
  simp only [FieldContext.columnExpr_eq, Except.ok.injEq]
  exact forall₂_filterMap fun _ hc => exists_expr_of_isSearched (List.of_mem_filter hc)

theorem length_searchNames : p.searchNames.length = p.request.searched.length :=
  length_freeNames

theorem not_mem_names_of_mem_searchNames (h : name ∈ p.searchNames) :
    name ∉ p.clauses.values.names :=
  not_mem_of_mem_freeNames h

-- A stem without a colon gives names without one.
theorem not_mem_of_mem_searchNames (hs : ':' ∉ p.settings.parameterStem.toList)
    (h : name ∈ p.searchNames) : ':' ∉ name.toList := by
  have ⟨k, hk⟩ := exists_number_of_mem_freeNames h
  rw [hk, String.toList_append, List.mem_append, not_or]
  exact ⟨hs, not_mem_toString (by decide) k⟩

theorem conditions_select (hk : kind ≠ .totalCount) :
    (p.select kind).conditions = p.callerConditions ++ searchJunction p.searchPredicates := by
  cases kind
  case totalCount => contradiction
  all_goals rfl

theorem length_searchPredicates : p.searchPredicates.length = p.request.searched.length := by
  rw [searchPredicates, List.length_zipWith, ← searched_forall₂_searchExprs.length_eq,
    length_searchNames, min_self]

theorem searchPredicates_eq_nil_iff : p.searchPredicates = [] ↔ p.request.searched = [] := by
  rw [← List.length_eq_zero_iff, length_searchPredicates, List.length_eq_zero_iff]

theorem exists_predicate_of_mem_searchNames (h : name ∈ p.searchNames) :
    ∃ e, p.fields.searchCondition e name ∈ p.searchPredicates := by
  have ⟨i, hi, hn⟩ := List.mem_iff_getElem.mp h
  have hp : i < p.searchPredicates.length := by rwa [length_searchPredicates, ← length_searchNames]
  subst hn
  exact ⟨_, List.mem_iff_getElem.mpr ⟨i, hp, List.getElem_zipWith ..⟩⟩

-- The search is one condition of the text, and each of its parts mentions its own parameter.
theorem mentioned_of_mem_searchNames (hs : ':' ∉ p.settings.parameterStem.toList)
    (hk : kind ≠ .totalCount) (h : name ∈ p.searchNames) :
    Placeholder.mentioned (p.queryText kind) name := by
  have ⟨e, he⟩ := exists_predicate_of_mem_searchNames h
  have hj : .junction .or p.searchPredicates ∈ (p.select kind).conditions := by
    rw [conditions_select hk, List.mem_append]
    cases hp : p.searchPredicates
    case nil  => rw [hp] at he; contradiction
    case cons => exact .inr (List.mem_singleton.mpr rfl)
  have hw := Expr.within_junction (d := p.settings.dialect) .or he
  exact FieldContext.mentioned_of_within_searchCondition (not_mem_of_mem_searchNames hs h)
    (hw.trans (Select.within_text_of_mem_conditions hj))

-- A name of the search has its own value, any other name the caller's.
theorem get?_bound (hk : kind ≠ .totalCount) :
    (p.bound kind).get? name = (p.clauses.values.get? name).or (p.searchEntries.lookup name) := by
  cases kind
  case totalCount => contradiction
  all_goals exact Bindings.get?_append ..

theorem names_searchEntries : p.searchEntries.map (·.1) = p.searchNames := by
  rw [searchEntries, List.map_fst_zip]
  rw [List.length_map, length_searchNames]

theorem lookup_searchEntries (h : (column, name) ∈ p.request.searched.zip p.searchNames) :
    p.searchEntries.lookup name = some (p.searchValue column) := by
  have hz : (name, column) ∈ p.searchNames.zip p.request.searched := by
    rw [← List.zip_swap]
    exact List.mem_map_of_mem (f := Prod.swap) h
  have hm : (name, p.searchValue column) ∈ p.searchEntries := by
    rw [searchEntries, List.zip_map_right]
    exact List.mem_map_of_mem hz
  exact Bindings.lookup_eq_some_of_mem (names_searchEntries ▸ freeNames_nodup) hm

theorem lookup_searchEntries_eq_none (h : name ∉ p.searchNames) :
    p.searchEntries.lookup name = none := by
  rw [← names_searchEntries] at h
  exact Bindings.get?_eq_none_iff.mpr h

theorem get?_params_of_mem (hs : ':' ∉ p.settings.parameterStem.toList) (hk : kind ≠ .totalCount)
    (h : name ∈ p.searchNames) : (p.params kind).get? name = p.searchEntries.lookup name := by
  have hn := Bindings.get?_eq_none_iff.mpr (not_mem_names_of_mem_searchNames h)
  rw [params, Bindings.get?_restrict, if_pos (mentioned_of_mem_searchNames hs hk h), get?_bound hk,
    hn, Option.none_or]

-- The caller's value, where the text mentions it.
theorem get?_params_of_not_mem (h : name ∉ p.searchNames) :
    (p.params kind).get? name =
      if Placeholder.mentioned (p.queryText kind) name then p.clauses.values.get? name
      else none := by
  have hb : (p.bound kind).get? name = p.clauses.values.get? name := by
    by_cases hk : kind = .totalCount
    case pos => rw [hk, bound]
    case neg => rw [get?_bound hk, lookup_searchEntries_eq_none h, Option.or_none]
  rw [params, Bindings.get?_restrict, hb]

-- How the columns that are searched, their expressions and the names of their parameters correspond
-- in a statement and the values that go with its text.
structure Searches (p : Plan) (select : Select) (params : Bindings) (exprs : List Expr)
    (names : List String) : Prop where
  expressed : p.request.searched.Forall₂
    (fun column e => p.fields.columnExpr true column = .ok (some e)) exprs
  unchanged : p.request.searched = [] → select.conditions = p.callerConditions
  junction  : p.request.searched ≠ [] → select.conditions =
    p.callerConditions ++ [.junction .or (List.zipWith p.fields.searchCondition exprs names)]
  nodup     : names.Nodup
  fresh     : ∀ name ∈ names, name ∉ p.clauses.values.names
  bound     : p.request.searched.Forall₂ (fun column name => params.get? name =
    some (.string (Like.escape (p.request.searchText column) p.settings.escapeChar))) names
  kept      : ∀ name value, params.get? name = some value →
    name ∈ names ∨ p.clauses.values.get? name = some value

theorem searches (hs : ':' ∉ p.settings.parameterStem.toList) (hk : kind ≠ .totalCount) :
    p.Searches (p.select kind) (p.params kind) p.searchExprs p.searchNames where
  expressed := searched_forall₂_searchExprs
  unchanged hn := by
    have hp : p.searchPredicates = [] := by simp [searchPredicates, searchExprs, hn]
    rw [conditions_select hk, hp, searchJunction, List.append_nil]
  junction hn := by
    rw [conditions_select hk, searchJunction, ← searchPredicates]
    intro hp
    rw [← List.length_eq_zero_iff, length_searchPredicates, List.length_eq_zero_iff] at hp
    exact hn hp
  nodup := freeNames_nodup
  fresh _ := not_mem_names_of_mem_searchNames
  bound := by
    refine List.forall₂_iff_zip.mpr ⟨length_searchNames.symm, fun hz => ?_⟩
    have hm := (List.of_mem_zip hz).right
    exact (get?_params_of_mem hs hk hm).trans (lookup_searchEntries hz)
  kept name value hv := by
    by_cases hm : name ∈ p.searchNames
    case pos => exact .inl hm
    case neg =>
      rw [get?_params_of_not_mem hm] at hv
      exact .inr (Option.ite_none_right_eq_some.mp hv).right

theorem search_bound_one_to_one (h : prepare entity request clauses settings = .ok p)
    (hs : ':' ∉ settings.parameterStem.toList) (hk : kind ≠ .totalCount) :
    (p.request = request ∧ p.clauses.values = clauses.values ∧ p.settings = settings) ∧
    ∃ select values q exprs names,
      p.statement kind = .ok (select, values) ∧ p.query kind = .ok q ∧
      q.text = select.text settings.dialect ∧
      p.Searches select q.params exprs names := by
  have hv := validate_of_prepare h
  rw [← settings_of_prepare h] at hs ⊢
  exact ⟨⟨request_of_prepare h, values_of_prepare h, rfl⟩, _, _, _, _, _,
    statement_eq hv kind, query_eq hv kind, rfl, searches hs hk⟩

-- The caller has taken the first name that the search would give out, and the second column has a
-- text of its own.
theorem search_bound_beside_caller :
    ∃ p, prepare { name := "Parent" }
        { search  := { value := "50%" }
          columns := [.ofDescriptor "name" "", .ofDescriptor "city" "b"] }
        { conditions := ["parent.rank = :value_1"], values := ⟨[("value_1", .string "x")]⟩ }
        {} = .ok p ∧
      ∃ q m n, p.query .page = .ok q ∧ [m, n].Nodup ∧ "value_1" ∉ [m, n] ∧
        q.params.get? m = some (.string "50#%") ∧ q.params.get? n = some (.string "b") := by
  refine exists_prepare (check_eq_ok_of_order_eq_nil rfl rfl (by decide) rfl) fun hp => ?_
  have hk : QueryKind.page ≠ .totalCount := nofun
  have ⟨⟨hr, _⟩, _, _, q, _, names, _, hq, _, hs⟩ := search_bound_one_to_one hp (by decide) hk
  have hb := hs.bound
  rw [hr, Request.searched, List.filter_eq_self.mpr ?all] at hb
  case all => decide +kernel
  have ⟨m, ms, hm, hb, hms⟩ := List.forall₂_cons_left_iff.mp hb
  have ⟨n, ns, hn, hb, hns⟩ := List.forall₂_cons_left_iff.mp hb
  rw [hms, hns, List.forall₂_nil_left_iff.mp hb] at hs
  exact ⟨q, m, n, hq, hs.nodup, fun hv => hs.fresh _ hv List.mem_cons_self, hm, hn⟩

end Plan

end TableQuery
