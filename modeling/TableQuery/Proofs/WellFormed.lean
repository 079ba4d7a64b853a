import TableQuery.Proofs.Lexeme
import TableQuery.Proofs.Name

/-!
Queries that consist of names, literals and what the language puts between them. Where the names are
names, the text of an expression has no further characters outside literals, whatever the literals
say.
-/

namespace TableQuery

open Lexeme

namespace Text

-- What stands between names and literals.
def marks : List Char :=
  ['.', ':', ',', '(', ')', '|', ' ']

def IsPlain (c : Char) : Prop :=
  isWord c ∨ c ∈ marks ∧ c ≠ '(' ∧ c ≠ ')'

instance : DecidablePred IsPlain :=
  fun c => inferInstanceAs (Decidable (isWord c ∨ c ∈ marks ∧ c ≠ '(' ∧ c ≠ ')'))

def Plain (s : String) : Prop :=
  ∀ c ∈ s.toList, IsPlain c

instance : DecidablePred Plain :=
  fun s => List.decidableBAll IsPlain s.toList

-- What may stand between two texts, whatever the first ends with.
structure Separates (s : String) : Prop where
  plain    : Plain s
  nonempty : s ≠ ""

structure WellRead (ls : List Lexeme) : Prop where
  allowed  : ∀ c ∈ outside ls, isWord c ∨ c ∈ marks
  balanced : Balanced (outside ls)

def WellFormed (s : String) : Prop :=
  ∃ ls, read s = some ls ∧ WellRead ls

-- What may stand behind a literal.
structure Follows (s : String) : Prop where
  wellFormed : WellFormed s
  head       : s.toList.head? ≠ some '\''

variable {s t sep : String} {ls ms : List Lexeme}

theorem IsName.plain (h : IsName s) : Plain s :=
  fun c hc => .inl (h c hc)

theorem WellRead.append (hl : WellRead ls) (hm : WellRead ms) : WellRead (ls ++ ms) where
  allowed c hc := by
    rw [outside_append] at hc
    cases List.mem_append.mp hc
    case inl hc => exact hl.allowed c hc
    case inr hc => exact hm.allowed c hc
  balanced := outside_append ls ms ▸ hl.balanced.append hm.balanced

theorem WellRead.parenthesized (h : WellRead ls) : WellRead (char '(' :: ls ++ [char ')']) := by
  have ho : outside (char '(' :: ls ++ [char ')']) = '(' :: outside ls ++ [')'] :=
    outside_append (char '(' :: ls) [char ')']
  constructor
  case allowed =>
    rw [ho]
    intro c hc
    have hp : '(' ∈ marks ∧ ')' ∈ marks := by decide
    cases List.mem_append.mp hc
    case inr hc => exact .inr (List.mem_singleton.mp hc ▸ hp.right)
    case inl hc =>
      cases List.mem_cons.mp hc
      case inl hc => exact .inr (hc ▸ hp.left)
      case inr hc => exact h.allowed c hc
  case balanced => exact ho ▸ h.balanced.parenthesized

namespace Plain

theorem append (hs : Plain s) (ht : Plain t) : Plain (s ++ t) :=
  forall_mem_append hs ht

theorem not_mem {c : Char} (h : Plain s) (hc : ¬IsPlain c) : c ∉ s.toList :=
  fun hm => hc (h c hm)

theorem wellRead (h : Plain s) : WellRead (s.toList.map .char) where
  allowed c hc := by
    rw [outside_map_char] at hc
    exact (h c hc).imp_right And.left
  balanced := by
    rw [outside_map_char]
    exact balanced_of_not_mem (h.not_mem (by decide)) (h.not_mem (by decide))

theorem wellFormed (h : Plain s) : WellFormed s :=
  ⟨_, read_of_not_mem (h.not_mem (by decide)), h.wellRead⟩

theorem append_wellFormed (hs : Plain s) (ht : WellFormed t) : WellFormed (s ++ t) := by
  have ⟨ls, hr, hl⟩ := ht
  exact ⟨_, read_append_of_not_mem (hs.not_mem (by decide)) hr, hs.wellRead.append hl⟩

end Plain

namespace Separates

theorem comma : Separates ", " :=
  ⟨by decide, by decide⟩

theorem space : Separates " " :=
  ⟨by decide, by decide⟩

theorem operator (op : LogicalOperator) : Separates (Expr.separator op) := by
  cases op <;> exact ⟨by decide, by decide⟩

theorem head (hs : Separates s) (t : String) : (s ++ t).toList.head? ≠ some '\'' := by
  have ⟨c, cs, hc⟩ := List.exists_cons_of_ne_nil (mt String.toList_eq_nil_iff.mp hs.nonempty)
  rw [String.toList_append, hc]
  intro hq
  have hm : '\'' ∈ s.toList := by
    rw [hc, Option.some.inj hq]
    exact List.mem_cons_self
  exact hs.plain.not_mem (by decide) hm

theorem follows (hs : Separates s) (ht : WellFormed t) : Follows (s ++ t) where
  wellFormed := hs.plain.append_wellFormed ht
  head       := hs.head t

end Separates

namespace WellFormed

theorem empty : WellFormed "" :=
  Plain.wellFormed nofun

theorem literal (s : String) : WellFormed (Dialect.literal s) :=
  ⟨_, read_literal s, nofun, fun _ => rfl⟩

theorem append (hs : WellFormed s) (ht : Follows t) : WellFormed (s ++ t) := by
  have ⟨ls, hr, hl⟩ := hs
  have ⟨⟨ms, hq, hm⟩, hd⟩ := ht
  exact ⟨_, read_append hr hq hd, hl.append hm⟩

theorem parenthesized (h : WellFormed s) : WellFormed (Expr.parenthesized s) := by
  have ⟨ls, hr, hl⟩ := h
  exact ⟨_, read_parenthesized hr, hl.parenthesized⟩

theorem intercalate {l : List String} (hp : Separates sep) (h : ∀ s ∈ l, WellFormed s) :
    WellFormed (sep.intercalate l) := by
  induction l
  case nil         => exact empty
  case cons s l ih =>
    have ⟨hs, hl⟩ := List.forall_mem_cons.mp h
    cases l
    case nil      => rwa [String.intercalate_singleton]
    case cons t l =>
      rw [String.intercalate_cons_cons, String.append_assoc]
      exact hs.append (hp.follows (ih hl))

theorem intercalate_map {α : Type} {f : α → String} {l : List α} (hp : Separates sep)
    (h : ∀ a ∈ l, WellFormed (f a)) : WellFormed (sep.intercalate (l.map f)) :=
  .intercalate hp (List.forall_mem_map.mpr h)

end WellFormed

namespace Follows

theorem empty : Follows "" where
  wellFormed := .empty
  head       := nofun

theorem append (hs : Follows s) (ht : Follows t) : Follows (s ++ t) where
  wellFormed := hs.wellFormed.append ht
  head := by
    rw [String.toList_append, List.head?_append]
    cases hd : s.toList.head?
    case none   => exact ht.head
    case some c => rw [Option.some_or, ← hd]; exact hs.head

theorem join {l : List String} (h : ∀ s ∈ l, Follows s) : Follows (String.join l) := by
  induction l
  case nil         => exact empty
  case cons s l ih =>
    have ⟨hs, hl⟩ := List.forall_mem_cons.mp h
    rw [String.join_cons]
    exact hs.append (ih hl)

end Follows

end Text

open Text

namespace Expr

-- What an expression is written with apart from its literals. A fragment is written as it is.
inductive Plain : Expr → Prop
  | ident {i : Ident} (hi : Text.Plain i.text) : Plain (.ident i)
  | literal (s : String) : Plain (.literal s)
  | param {name : String} (hn : Text.Plain name) : Plain (.param name)
  | raw {fragment : String} (hf : WellFormed fragment) : Plain (.raw fragment)
  | nested {e : Expr} (he : Plain e) : Plain (.nested e)
  | junction {operands : List Expr} (op : LogicalOperator) (ho : ∀ e ∈ operands, Plain e) :
      Plain (.junction op operands)
  | call {function : String} {args : List Expr} (distinct : Bool) (hf : Text.Plain function)
      (ha : ∀ e ∈ args, Plain e) : Plain (.call function distinct args)
  | concat {parts : List Expr} (hp : ∀ e ∈ parts, Plain e) : Plain (.concat parts)
  | format {function : String} {e : Expr} (pattern : String) (hf : Text.Plain function)
      (he : Plain e) : Plain (.format function e pattern)
  | like {e pattern : Expr} (esc : Char) (he : Plain e) (hp : Plain pattern) :
      Plain (.like e pattern esc)

variable {d : Dialect} {e : Expr}

theorem wellFormed_texts {sep : String} {es : List Expr} (hp : Separates sep)
    (h : ∀ e ∈ es, WellFormed (e.text d)) : WellFormed (sep.intercalate (texts d es)) :=
  texts_eq_map d es ▸ .intercalate_map hp h

theorem formatText_jpql (function s pattern : String) :
    formatText .jpql function s pattern = "FUNCTION" ++ parenthesized
      (Dialect.literal function ++ (", " ++ (s ++ (", " ++ Dialect.literal pattern)))) := by
  simp [formatText, Dialect.wrapsFunctions, parenthesized, ← String.toList_inj]

theorem formatText_hql (function s pattern : String) :
    formatText .hql function s pattern
      = function ++ parenthesized (s ++ (", " ++ Dialect.literal pattern)) := by
  simp [formatText, Dialect.wrapsFunctions, parenthesized, ← String.toList_inj]

theorem wellFormed_formatText {function s : String} (pattern : String) (hf : Text.Plain function)
    (hs : WellFormed s) : WellFormed (formatText d function s pattern) := by
  have hp : Follows (", " ++ Dialect.literal pattern) := Separates.comma.follows (.literal pattern)
  cases d
  case jpql =>
    have hw := (WellFormed.literal function).append (Separates.comma.follows (hs.append hp))
    rw [formatText_jpql]
    exact (by decide : Text.Plain "FUNCTION").append_wellFormed hw.parenthesized
  case hql =>
    rw [formatText_hql]
    exact hf.append_wellFormed (hs.append hp).parenthesized

theorem Plain.wellFormed (h : e.Plain) : WellFormed (e.text d) := by
  induction h
  case ident hi   => exact hi.wellFormed
  case literal s  => exact .literal s
  case param hn   => exact ((by decide : Text.Plain ":").append hn).wellFormed
  case raw hf     => exact hf
  case nested ih  => exact ih.parenthesized
  case junction op _ ih => exact (wellFormed_texts (.operator op) ih).parenthesized
  case call distinct hf _ ih =>
    have hd : Text.Plain (if distinct then "DISTINCT " else "") := by cases distinct <;> decide
    have ha := wellFormed_texts .comma ih
    exact hf.append_wellFormed (hd.append_wellFormed ha).parenthesized
  case concat ih =>
    cases d
    case jpql =>
      have hc : Text.Plain "CONCAT" := by decide
      exact hc.append_wellFormed (wellFormed_texts .comma ih).parenthesized
    case hql =>
      have ho : Separates " || " := ⟨by decide, by decide⟩
      exact (wellFormed_texts ho ih).parenthesized
  case format pattern hf _ ih => exact wellFormed_formatText pattern hf ih
  case like esc _ _ ihe ihp =>
    have hl : Separates " LIKE " := ⟨by decide, by decide⟩
    have hs : Separates " ESCAPE " := ⟨by decide, by decide⟩
    have hp := ihp.append (hs.follows (.literal (String.singleton esc)))
    rw [text, String.append_assoc, String.append_assoc, String.append_assoc]
    exact ihe.append (hl.follows hp)

end Expr

namespace Select

structure Plain (s : Select) : Prop where
  columns    : ∀ e ∈ s.columns, e.Plain
  source     : ∀ t ∈ s.source, Text.Plain t.text
  joins      : ∀ j ∈ s.joins, Text.Plain j.text
  conditions : ∀ e ∈ s.conditions, e.Plain
  grouping   : ∀ e ∈ s.grouping, e.Plain
  having     : ∀ e ∈ s.having, e.Plain
  order      : ∀ o ∈ s.order, o.expr.Plain

variable {d : Dialect} {s : Select}

theorem follows_clause {α : Type} {f : α → String} {l : List α} {keyword sep : String}
    (hk : Text.Plain keyword) (hp : Separates sep) (h : ∀ a ∈ l, WellFormed (f a)) :
    Follows (clause keyword sep (l.map f)) := by
  rw [clause]
  split
  case isTrue  => exact .empty
  case isFalse =>
    have hi := Separates.space.follows (.intercalate_map hp h)
    rw [String.append_assoc, String.append_assoc]
    exact Separates.space.follows (hk.append_wellFormed hi.wellFormed)

theorem wellFormed_orderItem {o : OrderItem} (h : o.expr.Plain) : WellFormed (o.text d) := by
  rw [OrderItem.text]
  refine h.wellFormed.append ?_
  cases o.direction
  case none     => exact .empty
  case some dir =>
    have hk : Text.Plain dir.keyword := by cases dir <;> decide
    exact Separates.space.follows hk.wellFormed

namespace Plain

theorem follows_fromText (h : s.Plain) : Follows s.fromText := by
  refine Follows.append ?source (.join fun t ht => ?joins)
  case source =>
    cases hd : s.source
    case none        => exact .empty
    case some source => exact Separates.space.follows (h.source source hd).wellFormed
  case joins =>
    have ⟨j, hj, hd⟩ := List.mem_map.mp ht
    exact hd ▸ Separates.space.follows (h.joins j hj).wellFormed

theorem wellFormed (h : s.Plain) : WellFormed (s.text d) := by
  have hi {es : List Expr} (hp : ∀ e ∈ es, e.Plain) : ∀ e ∈ es, WellFormed (e.text d) :=
    fun e he => (hp e he).wellFormed
  have hs : Text.Plain "SELECT " := by decide
  have hc := hs.append_wellFormed (.intercalate_map .comma (hi h.columns))
  have hw : Follows (s.whereText d) :=
    follows_clause (by decide) (.operator .and) (hi h.conditions)
  have hg : Follows (clause "GROUP BY" ", " (s.grouping.map (Expr.text d))) :=
    follows_clause (by decide) .comma (hi h.grouping)
  have hh : Follows (clause "HAVING" " AND " (s.having.map (Expr.text d))) :=
    follows_clause (by decide) (.operator .and) (hi h.having)
  have ho : Follows (clause "ORDER BY" ", " (s.order.map (OrderItem.text d))) :=
    follows_clause (by decide) .comma fun o ho => wellFormed_orderItem (h.order o ho)
  exact ((hc.append h.follows_fromText).append hw).append ((hg.append hh).append ho)

end Plain
end Select

end TableQuery
