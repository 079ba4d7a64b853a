import TableQuery.Proofs.Operands
import TableQuery.Proofs.Plan.Composition
import TableQuery.Proofs.Plan.Injection

/-!
The conditions of a query keep apart. None of them takes in a part of another one, whatever
operators stand in the caller's fragments and in what the columns have between their fields.
-/

namespace TableQuery

open Text

theorem FieldContext.undivided_searchCondition {ctx : FieldContext} {e : Expr} {name : String}
    (h : (ctx.searchCondition e name).Plain) (d : Dialect) :
    Undivided .or ((ctx.searchCondition e name).text d) := by
  cases h
  case like he hp =>
    cases he
    case call he =>
      cases hp
      case call hp =>
        have he := List.forall_mem_singleton.mp he
        have hp := List.forall_mem_singleton.mp hp
        exact Expr.undivided_like_upper he.wellFormed.closed hp.wellFormed.closed _

namespace Plan

variable {entity : Entity} {request : Request} {clauses : Clauses} {settings : Settings} {p : Plan}

-- That a text is the condition by which a column is searched.
def Tests (p : Plan) (column : Column) (predicate : String) : Prop :=
  ∃ e name, p.fields.columnExpr true column = .ok (some e) ∧
    predicate = (p.fields.searchCondition e name).text p.settings.dialect

theorem searched_forall₂_predicates :
    p.request.searched.Forall₂ p.Tests
      (p.searchPredicates.map (Expr.text p.settings.dialect)) := by
  have hl : p.searchExprs.length = p.searchNames.length := by
    rw [length_searchNames, searched_forall₂_searchExprs.length_eq]
  rw [List.forall₂_map_right_iff]
  refine (forall₂_zipWith searched_forall₂_searchExprs hl).imp fun _ _ hc => ?_
  obtain ⟨e, name, he, rfl⟩ := hc
  exact ⟨e, name, he, rfl⟩

namespace Named

variable (h : p.Named)
include h

theorem operands_or (hs : p.request.searched ≠ []) :
    operands .or (" OR ".intercalate (p.searchPredicates.map (Expr.text p.settings.dialect)))
      = some (p.searchPredicates.map (Expr.text p.settings.dialect)) := by
  refine operands_intercalate (List.forall_mem_map.mpr fun e he => ?undivided) ?nonempty
  case undivided =>
    have hp := h.plain_of_mem_searchPredicates he
    obtain ⟨_, _, _, _, rfl⟩ := exists_of_mem_searchPredicates he
    exact FieldContext.undivided_searchCondition hp _
  case nonempty => exact mt List.map_eq_nil_iff.mp (mt searchPredicates_eq_nil_iff.mp hs)

theorem undivided_of_mem_searchText {s : String} (hs : s ∈ p.searchText) : Undivided .and s := by
  by_cases hn : p.request.searched = []
  case pos =>
    rw [searchText_eq_nil hn] at hs
    contradiction
  case neg =>
    rw [searchText_eq hn, List.mem_singleton] at hs
    have hc : Closed (" OR ".intercalate (p.searchPredicates.map (Expr.text p.settings.dialect))) :=
      (WellFormed.intercalate_map (.operator .or) fun e he =>
        (h.plain_of_mem_searchPredicates he).wellFormed).closed
    exact hs ▸ .parenthesized hc

theorem operands_and (hc : ∀ fragment ∈ p.clauses.conditions, Closed fragment)
    (hn : p.clauses.conditions.map ("(" ++ · ++ ")") ++ p.searchText ≠ []) :
    operands .and
        (" AND ".intercalate (p.clauses.conditions.map ("(" ++ · ++ ")") ++ p.searchText))
      = some (p.clauses.conditions.map ("(" ++ · ++ ")") ++ p.searchText) := by
  refine operands_intercalate (List.forall_mem_append.mpr ⟨?conditions, ?search⟩) hn
  case conditions => exact List.forall_mem_map.mpr fun fragment hf => .parenthesized (hc fragment hf)
  case search     => exact fun _ => h.undivided_of_mem_searchText

end Named

theorem operands_keep_apart (h : prepare entity request clauses settings = .ok p)
    (he : IsName entity.name) (hr : ∀ field ∈ entity.relationships, IsName field)
    (hs : IsName settings.parameterStem) (hf : IsName settings.formatFunction)
    (hm : request.Made) (hc : ∀ fragment ∈ p.clauses.conditions, Closed fragment) :
    p.clauses = clauses.mapFragments (Fragment.resolve p.scope.aliases entity.relationships) ∧
    ∃ (parts : Parts) (search : List String), parts.Describe p search ∧
      (∀ kind, ∃ q, p.query kind = .ok q ∧ q.text = parts.text kind) ∧
      (p.clauses.conditions.map ("(" ++ · ++ ")") ++ search ≠ [] →
        ∃ filter, parts.filter = " WHERE " ++ filter ∧
          operands .and filter = some (p.clauses.conditions.map ("(" ++ · ++ ")") ++ search)) ∧
      (request.searched = [] → search = []) ∧
      (request.searched ≠ [] →
        ∃ inner predicates, search = ["(" ++ inner ++ ")"] ∧
          operands .or inner = some predicates ∧ request.searched.Forall₂ p.Tests predicates) := by
  have hn := named_of_prepare h he hr hs hf hm
  have hq := request_of_prepare h
  refine ⟨clauses_of_prepare h, p.parts, p.searchText, parts_describe, fun kind => ?text, ?filter,
    ?none, ?junction⟩
  case text => exact ⟨_, query_eq (validate_of_prepare h) kind, queryText_eq kind⟩
  case filter =>
    intro hi
    exact ⟨_, parts_describe.filter.present hi, hn.operands_and hc hi⟩
  case none => exact fun hs => searchText_eq_nil (hq ▸ hs)
  case junction =>
    intro hs
    rw [← hq] at hs ⊢
    exact ⟨_, _, searchText_eq hs, hn.operands_or hs, searched_forall₂_predicates⟩

-- Operators and parentheses stand in a literal of the caller's, in one of a format, and around what
-- the caller puts together.
theorem operands_keep_apart_of_literals :
    ∃ p, prepare { name := "Parent" }
        { search  := { value := "b" }
          columns := [.ofDescriptor "name) (city" "",
            { Column.ofDescriptor "born" "" with format := some "%d') OR ('%m" }] }
        { conditions := ["parent.a = 1 OR parent.b = ') AND ('",
            "(parent.c = 2 AND parent.d = 3) OR parent.e = 4"] } {} = .ok p ∧
      ∃ q filter inner predicates, p.query .filteredCount = .ok q ∧
        q.text = "SELECT COUNT(parent) FROM Parent AS parent WHERE " ++ filter ∧
        operands .and filter = some (["(parent.a = 1 OR parent.b = ') AND (')",
          "((parent.c = 2 AND parent.d = 3) OR parent.e = 4)"] ++ ["(" ++ inner ++ ")"]) ∧
        operands .or inner = some predicates ∧ predicates.length = 2 := by
  refine exists_prepare (check_eq_ok_of_order_eq_nil rfl rfl (by decide) rfl) fun hp => ?_
  have hm : Request.Made { columns := [.ofDescriptor "name) (city" "",
      { Column.ofDescriptor "born" "" with format := some "%d') OR ('%m" }] } := by
    simp only [Request.Made, List.forall_mem_cons]
    exact ⟨.ofDescriptor .., .update (.ofDescriptor "born" "") "" true true {} _, nofun⟩
  have ⟨_, parts, search, hd, hq, hf, _, hs⟩ := operands_keep_apart hp (by decide) (by decide)
    (by decide) (by decide) hm (by decide +kernel)
  obtain ⟨inner, predicates, rfl, ho, hl⟩ := hs (by decide +kernel)
  have ⟨filter, hw, hf⟩ := hf (List.append_ne_nil_of_right_ne_nil _ (List.cons_ne_nil _ []))
  have ⟨q, hq, ht⟩ := hq .filteredCount
  have hc := hd.rowCount (by decide +kernel)
  refine ⟨q, filter, inner, predicates, hq, ?text, ?operands, ho, ?length⟩
  case text =>
    rw [ht, Parts.text, hc, hd.source, hw, ← String.append_assoc]
    exact congrArg (· ++ filter) (by decide +kernel)
  case operands =>
    rw [hf]
    exact congrArg (fun fragments => some (fragments ++ ["(" ++ inner ++ ")"])) (by decide +kernel)
  case length =>
    rw [← hl.length_eq]
    decide +kernel

end Plan

end TableQuery
