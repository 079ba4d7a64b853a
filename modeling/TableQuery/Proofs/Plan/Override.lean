import TableQuery.Proofs.Opening
import TableQuery.Proofs.Plan.Composition
import TableQuery.Proofs.Projection

/-!
What a SELECT override does to the queries of a plan. A page selects what the override says, and the
counts do not look at it.
-/

namespace TableQuery

open Text

namespace Projection

variable {lead word gap select : String}

namespace Introduces

variable (h : Introduces lead word gap)
include h

theorem isBlank_of_mem_getLast? {c : Char} (hc : c ∈ (lead ++ word ++ gap).toList.getLast?) :
    isBlank c := by
  have ⟨hb, hn⟩ := h.gap
  rw [String.toList_append,
    List.getLast?_append_of_ne_nil _ (mt String.toList_eq_nil_iff.mp hn)] at hc
  exact List.all_eq_true.mp hb c (List.mem_of_getLast? hc)

theorem closed : Fragment.Closed (lead ++ word ++ gap).toList where
  point := h.not_mem (by decide) (by decide)
  quote := h.not_mem (by decide) (by decide)
  last _ hc := not_isWord_of_isBlank (h.isBlank_of_mem_getLast? hc)

end Introduces

-- Rewriting does not bring the keyword about.
theorem startsWithKeyword_of_resolve {aliases : Aliases} {relationships : List String}
    (hs : aliases.Spelled) (h : StartsWithKeyword (Fragment.resolve aliases relationships select)) :
    StartsWithKeyword select := by
  have ⟨lead, word, gap, rest, hi, he⟩ := h
  have hp : (lead ++ word ++ gap).toList <+:
      (Fragment.resolve aliases relationships select).toList :=
    he ▸ ⟨rest.toList, String.toList_append.symm⟩
  obtain ⟨rest', hr⟩ := hi.closed.prefix_of_prefix_resolve hs hp
  exact ⟨lead, word, gap, .ofList rest', hi, by simp [← String.toList_inj, ← hr]⟩

-- What a count selects.
def counted (root : String) (grouping : List String) : String :=
  if grouping = [] then "COUNT(" ++ root ++ ")"
  else "COUNT(DISTINCT " ++ ", ".intercalate grouping ++ ")"

end Projection

open Projection

namespace Plan

variable {entity : Entity} {request : Request} {clauses : Clauses} {settings : Settings}
  {scope : Scope} {select select' : String} {p : Plan} {kind : QueryKind}

-- What stands between SELECT and FROM.
def Parts.selected (s : Parts) : QueryKind → String
  | .page => s.projection
  | _     => s.count

theorem selects_queryText (kind : QueryKind) :
    Selects (p.queryText kind) (p.parts.selected kind) := by
  have hs := @parts_describe p |>.source
  rw [queryText_eq]
  cases kind
  all_goals
    simp only [Selects, Parts.text, Parts.selected, hs, String.append_assoc]
    exact ⟨_, rfl⟩

theorem selects_page (h : p.clauses.select = some select) :
    Selects (p.queryText .page) (stripSelect select) := by
  have hp : p.parts.selected .page = stripSelect select := by
    rw [Parts.selected, parts_describe.projection, h, Option.elim_some]
  exact hp ▸ selects_queryText .page

theorem selected_of_ne_page (hk : kind ≠ .page) :
    p.parts.selected kind = counted p.root p.clauses.grouping := by
  have hc : p.parts.selected kind = p.parts.count := by
    cases kind
    case page => contradiction
    all_goals rfl
  rw [hc, counted]
  split
  case isTrue h  => exact parts_describe.rowCount h
  case isFalse h => exact parts_describe.groupCount h

theorem ofScope_of_prepare (h : prepare entity request clauses settings = .ok p) :
    p = ofScope entity request clauses settings p.scope :=
  scope_of_prepare h ▸ (prepare_eq_ok_iff.mp h).right

-- Counts do not look at what a page selects.
theorem query_ofScope_setSelect (hk : kind ≠ .page) (hv : request.validate = .ok ()) :
    (ofScope entity request (clauses.setSelect select) settings scope).query kind
      = (ofScope entity request (clauses.setSelect select') settings scope).query kind := by
  have hq (s : String) := @query_eq (ofScope entity request (clauses.setSelect s) settings scope) hv
  rw [hq, hq]
  cases kind
  case page => contradiction
  all_goals rfl

theorem override_selected
    (h : prepare entity request (clauses.setSelect select) settings = .ok p)
    (hb : ¬blank select) :
    let rewrite := Fragment.resolve p.scope.aliases entity.relationships
    (∃ page, p.query .page = .ok page ∧
      (∀ lead word gap projection, Introduces lead word gap → trimStart projection = projection →
        rewrite select = lead ++ word ++ gap ++ projection →
        (Selects page.text projection ↔ gap.toList.head? = some ' ') ∧
        (gap.toList.head? ≠ some ' ' → Selects page.text (word ++ gap ++ projection))) ∧
      (¬StartsWithKeyword select → Selects page.text (trimStart (rewrite select)))) ∧
    ((∀ c ∈ p.root.toList, ¬isBlank c) → ∀ lead word gap projection,
      Introduces lead word gap → select = lead ++ word ++ gap ++ projection →
      rewrite select = lead ++ word ++ gap ++ rewrite projection) ∧
    (∀ kind ≠ .page, ∃ count, p.query kind = .ok count ∧ Selects count.text
      (counted (Aliases.ofRoot entity.name settings.aliasLength).rootAlias
        (clauses.mapFragments rewrite).grouping)) ∧
    ∀ select' p', prepare entity request (clauses.setSelect select') settings = .ok p' →
      p'.scope = p.scope → ∀ kind ≠ .page, p'.query kind = p.query kind := by
  intro rewrite
  have hv := validate_of_prepare h
  have hc := clauses_of_prepare h
  have hs : p.clauses.select = some (rewrite select) := by
    rw [hc, Clauses.mapFragments, Clauses.setSelect, if_neg hb]
    rfl
  refine ⟨⟨_, query_eq hv .page, ?introduced, ?bare⟩, ?rewritten, ?counts, ?same⟩
  case introduced =>
    intro lead word gap projection hi hp hw
    have ht := selects_page hs
    rw [hw, stripSelect_introduced hi hp] at ht
    by_cases hg : gap.toList.head? = some ' '
    case pos =>
      rw [if_pos hg] at ht
      exact ⟨iff_of_true ht hg, fun hn => absurd hg hn⟩
    case neg =>
      rw [if_neg hg] at ht
      exact ⟨iff_of_false (hi.not_selects ht) hg, fun _ => ht⟩
  case bare =>
    intro hn
    have hr : ¬StartsWithKeyword (rewrite select) :=
      mt (startsWithKeyword_of_resolve (spelled_of_prepare h)) hn
    rw [← stripSelect_of_not_startsWithKeyword hr]
    exact selects_page hs
  case rewritten =>
    intro hr lead word gap projection hi he
    rw [he]
    refine hi.closed.resolve_append (fun c hc hm => ?_) entity.relationships projection
    exact hr c hm (hi.isBlank_of_mem_getLast? hc)
  case counts =>
    intro kind hk
    refine ⟨_, query_eq hv kind, ?_⟩
    have ht := @selects_queryText p kind
    rw [selected_of_ne_page hk, root_eq_of_prepare h, hc] at ht
    exact ht
  case same =>
    intro select' p' h' hs kind hk
    have hr := request_of_prepare h ▸ hv
    rw [ofScope_of_prepare h', hs, ofScope_of_prepare h]
    exact query_ofScope_setSelect hk hr

-- The keyword of the override is gone, with all of the blanks around it.
theorem override_selected_of_spaces :
    ∃ p, prepare { name := "Parent", relationships := ["child"] } {}
        ({ grouping := ["parent.city"] : Clauses }.setSelect " Select  parent.child.data") {}
          = .ok p ∧
      (∃ page, p.query .page = .ok page ∧ Selects page.text "child_1.data") ∧
      ∃ count, p.query .totalCount = .ok count ∧
        Selects count.text "COUNT(DISTINCT parent.city)" := by
  refine exists_prepare (check_eq_ok_of_order_eq_nil rfl rfl (by decide) rfl) fun hp => ?_
  have ⟨⟨page, hq, hi, _⟩, _, hc, _⟩ := override_selected hp (by decide)
  have hi := hi " " "Select" "  " "child_1.data" ⟨by decide, by decide, by decide⟩ (by decide)
    (by decide +kernel)
  have ⟨count, hq', hs⟩ := hc .totalCount (by decide)
  refine ⟨⟨page, hq, hi.left.mpr rfl⟩, count, hq', (congrArg (Selects count.text) ?counted).mp hs⟩
  decide +kernel

-- A tab is a blank as well, but the keyword in front of it is not recognised.
theorem keyword_repeated_before_tab :
    Introduces "" "SELECT" "\t" ∧
    ∃ p, prepare { name := "Parent" } {} (({} : Clauses).setSelect "SELECT\tparent.id") {} = .ok p ∧
      Fragment.resolve p.scope.aliases [] "parent.id" = "parent.id" ∧
      ∃ page, p.query .page = .ok page ∧
        page.text = "SELECT SELECT\tparent.id FROM Parent AS parent" ∧
        ¬Selects page.text "parent.id" := by
  have hi : Introduces "" "SELECT" "\t" := ⟨by decide, by decide, by decide⟩
  refine ⟨hi, exists_prepare (check_eq_ok_of_order_eq_nil rfl rfl (by decide) rfl) fun hp => ?_⟩
  refine ⟨by decide +kernel, _, query_eq (validate_of_prepare hp) .page, ?text, ?selects⟩
  case text    => decide +kernel
  case selects =>
    refine hi.not_selects ⟨"Parent AS parent", ?_⟩
    decide +kernel

end Plan

end TableQuery
