import TableQuery.Field
import TableQuery.Proofs.Outcome

/-!
The expressions of columns. Every column has one unless it is blank, and it names nothing but the
fields that the column's paths lead to.
-/

namespace TableQuery

open Outcome

namespace Expr

mutual

-- The identifiers that are written in an expression, apart from those in raw fragments.
def idents : Expr → List Ident
  | ident i             => [i]
  | literal _           => []
  | param _             => []
  | raw _               => []
  | nested e            => e.idents
  | junction _ operands => identsOfAll operands
  | call _ _ args       => identsOfAll args
  | concat parts        => identsOfAll parts
  | format _ e _        => e.idents
  | like e pattern _    => e.idents ++ pattern.idents

def identsOfAll : List Expr → List Ident
  | []      => []
  | e :: es => e.idents ++ identsOfAll es

end

theorem mem_identsOfAll {i : Ident} {es : List Expr} :
    i ∈ identsOfAll es ↔ ∃ e ∈ es, i ∈ e.idents := by
  induction es
  case nil          => simp [identsOfAll]
  case cons e es ih => simp [identsOfAll, ih]

end Expr

namespace FieldContext

variable {ctx : FieldContext} {forSearch : Bool}

-- A field of a column that has several.
def subExpr (ctx : FieldContext) (forSearch : Bool) (f : SubField) : Expr :=
  ctx.formatted forSearch f.format (ctx.pathExpr f.path)

def expr? (ctx : FieldContext) (forSearch : Bool) (c : Column) : Option Expr :=
  match c.layout with
  | .empty             => none
  | .single p          => some (ctx.formatted forSearch c.format (ctx.pathExpr p))
  | .multi ps ds slots =>
    some (.concat (alternate ((SubField.zip ps slots).map (ctx.subExpr forSearch)) ds))

theorem mapM_singleExpr (c : Column) (fs : List SubField) :
    (fs.map c.ofSubField).mapM (ctx.singleExpr forSearch)
      = .ok ((fs.map (ctx.subExpr forSearch)).map some) := by
  induction fs
  case nil          => rfl
  case cons f fs ih =>
    rw [List.map_cons, List.mapM_cons, ih]
    rfl

-- Only a column with several fields is asked for its sub-columns, and only one with at most one
-- field is asked for that, so the expression is always found out.
theorem columnExpr_eq (c : Column) : ctx.columnExpr forSearch c = .ok (ctx.expr? forSearch c) := by
  unfold columnExpr expr? Column.isMultiField
  cases h : c.layout
  case empty | single =>
    simp only [Bool.false_eq_true, ↓reduceIte, singleExpr, Column.fieldPath, h, ok_bind]
    rfl
  case multi ps ds slots =>
    have hs : c.subColumns = .ok ((SubField.zip ps slots).map c.ofSubField) := by
      rw [Column.subColumns, h]
    have hd : c.delimiters = ds := by rw [Column.delimiters, h]
    simp only [↓reduceIte, hs, hd, ok_bind, mapM_singleExpr, List.filterMap_map, Function.id_comp,
      List.filterMap_eq_map]
    rfl

theorem expr?_isSome_iff {c : Column} : (ctx.expr? forSearch c).isSome ↔ ¬c.isEmpty := by
  simp only [expr?, Column.isEmpty]
  cases c.layout <;> simp

section Idents

variable {i : Ident}

theorem idents_formatted {format : Option String} {e : Expr} :
    (ctx.formatted forSearch format e).idents = e.idents := by
  simp only [formatted]
  cases format
  case none => rfl
  case some => cases forSearch <;> simp [Expr.idents]

theorem mem_alternate {x : Expr} {es : List Expr} {ds : List String} (h : x ∈ alternate es ds) :
    x ∈ es ∨ ∃ d, x = .literal d := by
  fun_induction alternate es ds with
  | case1            => contradiction
  | case2 e          => exact .inl h
  | case3 e es _ ih =>
    cases List.mem_cons.mp h
    case inl h => exact .inl (h ▸ List.mem_cons_self)
    case inr h => exact (ih h).imp_left (List.mem_cons_of_mem e)
  | case4 e es d ds _ ih =>
    cases List.mem_cons.mp h
    case inl h => exact .inl (h ▸ List.mem_cons_self)
    case inr h =>
      cases List.mem_cons.mp h
      case inl h => exact .inr ⟨d, h⟩
      case inr h => exact (ih h).imp_left (List.mem_cons_of_mem e)

-- Formats and delimiters name nothing, so every identifier is that of a path.
theorem exists_path_of_mem_idents {c : Column} {e : Expr} (he : ctx.expr? forSearch c = some e)
    (hi : i ∈ e.idents) : ∃ p ∈ c.layout.paths, i ∈ (ctx.pathExpr p).idents := by
  simp only [expr?] at he
  cases h : c.layout <;> simp only [h, Option.some.injEq, reduceCtorEq] at he <;> subst he
  case single p => exact ⟨p, List.mem_singleton.mpr rfl, idents_formatted ▸ hi⟩
  case multi ps ds slots =>
    rw [Expr.idents] at hi
    have ⟨x, hx, hi⟩ := Expr.mem_identsOfAll.mp hi
    cases mem_alternate hx
    case inl hx =>
      have ⟨f, hf, he⟩ := List.mem_map.mp hx
      subst he
      exact ⟨f.path, List.mem_map_of_mem hf, idents_formatted ▸ hi⟩
    case inr hx =>
      have ⟨d, hd⟩ := hx
      simp [hd, Expr.idents] at hi

end Idents

end FieldContext

end TableQuery
