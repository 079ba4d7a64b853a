import TableQuery.Proofs.Quotation
import TableQuery.Proofs.WellFormed

/-!
What is written between quotes. Where there is no quote in what is written as it is, the literals of
an expression or a query are read back just as they are, whatever they say.
-/

namespace TableQuery

open Lexeme

namespace Text

def Unquoted (s : String) : Prop :=
  '\'' ∉ s.toList

instance : DecidablePred Unquoted :=
  fun s => inferInstanceAs (Decidable ('\'' ∉ s.toList))

-- What the literals of a text say, where all of them are closed.
structure Quotes (s : String) (texts : List String) : Prop where
  closed   : (read s).isSome
  literals : Text.literals s = texts.map String.toList

variable {s t sep keyword : String} {ts us : List String}

theorem Unquoted.append (hs : Unquoted s) (ht : Unquoted t) : Unquoted (s ++ t) := by
  rw [Unquoted, String.toList_append, List.mem_append]
  exact not_or.mpr ⟨hs, ht⟩

theorem Unquoted.join {l : List String} (h : ∀ s ∈ l, Unquoted s) : Unquoted (String.join l) := by
  rw [Unquoted, String.toList_join, List.mem_flatMap]
  exact fun ⟨s, hs, hq⟩ => h s hs hq

theorem Separates.unquoted (h : Separates s) : Unquoted s :=
  h.plain.not_mem (by decide)

namespace Quotes

theorem of_read {ls : List Lexeme} (h : read s = some ls)
    (hl : ls.filterMap literal? = ts.map String.toList) : Quotes s ts where
  closed   := Option.isSome_of_eq_some h
  literals := (literals_eq_of_read h).trans hl

theorem exists_read (h : Quotes s ts) :
    ∃ ls, read s = some ls ∧ ls.filterMap literal? = ts.map String.toList := by
  have ⟨ls, hr⟩ := Option.isSome_iff_exists.mp h.closed
  exact ⟨ls, hr, (literals_eq_of_read hr).symm.trans h.literals⟩

theorem literal (s : String) : Quotes (Dialect.literal s) [s] :=
  .of_read (read_literal s) rfl

theorem append (hs : Quotes s ts) (ht : Quotes t us) (hd : t.toList.head? ≠ some '\'') :
    Quotes (s ++ t) (ts ++ us) := by
  have ⟨ls, hr, hl⟩ := hs.exists_read
  have ⟨ms, hq, hm⟩ := ht.exists_read
  refine .of_read (read_append hr hq hd) ?_
  rw [List.filterMap_append, hl, hm, List.map_append]

-- What has no quote adds no literal, in front of a text or behind it.
theorem unquoted_append (hs : Unquoted s) (ht : Quotes t us) : Quotes (s ++ t) us := by
  have ⟨ms, hq, hm⟩ := ht.exists_read
  refine .of_read (read_append_of_not_mem hs hq) ?_
  rw [List.filterMap_append, List.filterMap_map]
  simp [Function.comp_def, literal?, hm]

theorem of_unquoted (h : Unquoted s) : Quotes s [] := by
  refine .of_read (read_of_not_mem h) ?_
  simp [List.filterMap_map, Function.comp_def, literal?]

theorem empty : Quotes "" [] :=
  .of_unquoted (by decide)

theorem append_unquoted (hs : Quotes s ts) (ht : Unquoted t) : Quotes (s ++ t) ts := by
  have hd : t.toList.head? ≠ some '\'' := fun hq => ht (List.mem_of_head? hq)
  exact List.append_nil ts ▸ hs.append (.of_unquoted ht) hd

-- The literals on both sides of a separator stay apart.
theorem separated (hp : Separates sep) (hs : Quotes s ts) (ht : Quotes t us) :
    Quotes (s ++ (sep ++ t)) (ts ++ us) :=
  hs.append (.unquoted_append hp.unquoted ht) (hp.head t)

theorem parenthesized (h : Quotes s ts) : Quotes (Expr.parenthesized s) ts :=
  append_unquoted (unquoted_append (by decide) h) (by decide)

theorem intercalate_map {α : Type} {f : α → String} {g : α → List String} {l : List α}
    (hp : Separates sep) (h : ∀ a ∈ l, Quotes (f a) (g a)) :
    Quotes (sep.intercalate (l.map f)) (l.flatMap g) := by
  induction l
  case nil         => exact empty
  case cons a l ih =>
    have ⟨ha, hl⟩ := List.forall_mem_cons.mp h
    cases l
    case nil      => simpa using ha
    case cons b l =>
      rw [List.map_cons, List.map_cons, String.intercalate_cons_cons, String.append_assoc]
      exact separated hp ha (ih hl)

theorem append_clause {α : Type} {f : α → String} {g : α → List String} {l : List α}
    (hk : Separates (" " ++ keyword ++ " ")) (hp : Separates sep) (hs : Quotes s ts)
    (h : ∀ a ∈ l, Quotes (f a) (g a)) :
    Quotes (s ++ Select.clause keyword sep (l.map f)) (ts ++ l.flatMap g) := by
  rw [Select.clause]
  split
  case isTrue hl =>
    rw [List.isEmpty_iff, List.map_eq_nil_iff] at hl
    simpa [hl] using hs
  case isFalse => exact separated hk hs (intercalate_map hp h)

end Quotes

end Text

open Text

structure Ident.Unquoted (i : Ident) : Prop where
  qualifier : ∀ q ∈ i.qualifier, Text.Unquoted q
  name      : Text.Unquoted i.name

theorem Ident.Unquoted.text {i : Ident} (h : i.Unquoted) : Text.Unquoted i.text := by
  rw [Ident.text]
  cases hq : i.qualifier
  case none   => exact h.name
  case some q => exact ((h.qualifier q hq).append (by decide)).append h.name

namespace Expr

mutual

-- What is written between quotes in an expression, in this order. Where functions of the database
-- are wrapped, the name of the function is.
def literals (d : Dialect) : Expr → List String
  | ident _                   => []
  | literal text              => [text]
  | param _                   => []
  | raw _                     => []
  | nested e                  => e.literals d
  | junction _ operands       => literalsOfAll d operands
  | call _ _ args             => literalsOfAll d args
  | concat parts              => literalsOfAll d parts
  | format function e pattern =>
    (if d.wrapsFunctions then [function] else []) ++ e.literals d ++ [pattern]
  | like e pattern esc        => e.literals d ++ pattern.literals d ++ [String.singleton esc]

def literalsOfAll (d : Dialect) : List Expr → List String
  | []      => []
  | e :: es => e.literals d ++ literalsOfAll d es

end

-- That there is no quote in what is written as it is.
inductive Unquoted (d : Dialect) : Expr → Prop
  | ident {i : Ident} (hi : i.Unquoted) : Unquoted d (.ident i)
  | literal (text : String) : Unquoted d (.literal text)
  | param {name : String} (hn : Text.Unquoted name) : Unquoted d (.param name)
  | raw {fragment : String} (hf : Text.Unquoted fragment) : Unquoted d (.raw fragment)
  | nested {e : Expr} (he : Unquoted d e) : Unquoted d (.nested e)
  | junction {operands : List Expr} (op : LogicalOperator) (ho : ∀ e ∈ operands, Unquoted d e) :
      Unquoted d (.junction op operands)
  | call {function : String} {args : List Expr} (distinct : Bool) (hf : Text.Unquoted function)
      (ha : ∀ e ∈ args, Unquoted d e) : Unquoted d (.call function distinct args)
  | concat {parts : List Expr} (hp : ∀ e ∈ parts, Unquoted d e) : Unquoted d (.concat parts)
  | format {function : String} {e : Expr} (pattern : String)
      (hf : d.wrapsFunctions ∨ Text.Unquoted function) (he : Unquoted d e) :
      Unquoted d (.format function e pattern)
  | like {e pattern : Expr} (esc : Char) (he : Unquoted d e) (hp : Unquoted d pattern) :
      Unquoted d (.like e pattern esc)

variable {d : Dialect} {e : Expr}

theorem literalsOfAll_eq_flatMap (d : Dialect) (es : List Expr) :
    literalsOfAll d es = es.flatMap (literals d) := by
  induction es
  case nil          => rw [literalsOfAll, List.flatMap_nil]
  case cons e es ih => rw [literalsOfAll, ih, List.flatMap_cons]

theorem quotes_texts {sep : String} {es : List Expr} (hp : Separates sep)
    (h : ∀ e ∈ es, Quotes (e.text d) (e.literals d)) :
    Quotes (sep.intercalate (texts d es)) (literalsOfAll d es) := by
  rw [texts_eq_map, literalsOfAll_eq_flatMap]
  exact .intercalate_map hp h

theorem quotes_formatText {function s : String} {ts : List String} (pattern : String)
    (hf : d.wrapsFunctions ∨ Text.Unquoted function) (hs : Quotes s ts) :
    Quotes (formatText d function s pattern)
      ((if d.wrapsFunctions then [function] else []) ++ ts ++ [pattern]) := by
  have hp := Quotes.separated .comma hs (.literal pattern)
  cases d
  case jpql =>
    have hq := Quotes.separated .comma (.literal function) hp
    rw [formatText_jpql]
    exact .unquoted_append (by decide) hq.parenthesized
  case hql =>
    rw [formatText_hql]
    exact .unquoted_append (hf.resolve_left nofun) hp.parenthesized

theorem Unquoted.quotes (h : e.Unquoted d) : Quotes (e.text d) (e.literals d) := by
  induction h
  case ident hi         => exact .of_unquoted hi.text
  case literal text     => exact .literal text
  case param name hn    => exact .of_unquoted (Text.Unquoted.append (by decide) hn)
  case raw hf           => exact .of_unquoted hf
  case nested ih        => exact ih.parenthesized
  case junction op _ ih => exact (quotes_texts (.operator op) ih).parenthesized
  case call distinct hf _ ih =>
    have hd : Text.Unquoted (if distinct then "DISTINCT " else "") := by cases distinct <;> decide
    exact .unquoted_append hf (.parenthesized (.unquoted_append hd (quotes_texts .comma ih)))
  case concat ih =>
    cases d
    case jpql => exact .unquoted_append (by decide) (quotes_texts .comma ih).parenthesized
    case hql  =>
      have ho : Separates " || " := ⟨by decide, by decide⟩
      exact (quotes_texts ho ih).parenthesized
  case format pattern hf _ ih => exact quotes_formatText pattern hf ih
  case like esc _ _ ihe ihp =>
    have hl : Separates " LIKE " := ⟨by decide, by decide⟩
    have hs : Separates " ESCAPE " := ⟨by decide, by decide⟩
    have hp := Quotes.separated hs ihp (.literal (String.singleton esc))
    rw [text, literals, String.append_assoc, String.append_assoc, String.append_assoc,
      List.append_assoc]
    exact .separated hl ihe hp

end Expr

namespace Select

def literals (d : Dialect) (s : Select) : List String :=
  s.columns.flatMap (Expr.literals d) ++ s.conditions.flatMap (Expr.literals d)
    ++ s.grouping.flatMap (Expr.literals d) ++ s.having.flatMap (Expr.literals d)
    ++ s.order.flatMap (·.expr.literals d)

structure Unquoted (d : Dialect) (s : Select) : Prop where
  columns    : ∀ e ∈ s.columns, e.Unquoted d
  source     : ∀ t ∈ s.source, Text.Unquoted t.entity ∧ ∀ a ∈ t.aliasName, Text.Unquoted a
  joins      : ∀ j ∈ s.joins, j.path.Unquoted ∧ Text.Unquoted j.aliasName
  conditions : ∀ e ∈ s.conditions, e.Unquoted d
  grouping   : ∀ e ∈ s.grouping, e.Unquoted d
  having     : ∀ e ∈ s.having, e.Unquoted d
  order      : ∀ o ∈ s.order, o.expr.Unquoted d

variable {d : Dialect} {s : Select}

theorem quotes_orderItem {o : OrderItem} (h : o.expr.Unquoted d) :
    Quotes (o.text d) (o.expr.literals d) := by
  refine .append_unquoted h.quotes ?_
  cases o.direction
  case none     => exact (by decide : Text.Unquoted "")
  case some dir => cases dir <;> decide

namespace Unquoted

theorem source_text (h : s.Unquoted d) : ∀ t ∈ s.source, Text.Unquoted t.text := by
  intro t ht
  have ⟨he, ha⟩ := h.source t ht
  refine Text.Unquoted.append (.append (by decide) he) ?_
  cases hn : t.aliasName
  case none   => exact (by decide : Text.Unquoted "")
  case some a => exact .append (by decide) (ha a hn)

theorem join_text (h : s.Unquoted d) : ∀ j ∈ s.joins, Text.Unquoted j.text := by
  intro j hj
  have ⟨hp, ha⟩ := h.joins j hj
  have hk : Text.Unquoted j.kind.keyword := by cases j.kind <;> decide
  exact (((hk.append (by decide)).append hp.text).append (by decide)).append ha

theorem fromText (h : s.Unquoted d) : Text.Unquoted s.fromText := by
  refine Text.Unquoted.append ?source (.join (List.forall_mem_map.mpr fun j hj => ?joins))
  case source =>
    cases hd : s.source
    case none   => exact (by decide : Text.Unquoted "")
    case some t => exact .append (by decide) (h.source_text t hd)
  case joins => exact .append (by decide) (h.join_text j hj)

-- Each clause begins with a blank, and so does not go on with a literal in front of it.
theorem quotes (h : s.Unquoted d) : Quotes (s.text d) (s.literals d) := by
  have hi {es : List Expr} (he : ∀ e ∈ es, e.Unquoted d) :
      ∀ e ∈ es, Quotes (e.text d) (e.literals d) := fun e hm => (he e hm).quotes
  have hc := Quotes.unquoted_append (by decide : Text.Unquoted "SELECT ")
    (.intercalate_map .comma (hi h.columns))
  have hf := hc.append_unquoted h.fromText
  have hw : Quotes (_ ++ s.whereText d) _ :=
    hf.append_clause ⟨by decide, by decide⟩ (.operator .and) (hi h.conditions)
  have hg : Quotes (_ ++ clause "GROUP BY" ", " _) _ :=
    hw.append_clause ⟨by decide, by decide⟩ .comma (hi h.grouping)
  have hh : Quotes (_ ++ clause "HAVING" " AND " _) _ :=
    hg.append_clause ⟨by decide, by decide⟩ (.operator .and) (hi h.having)
  have ho : Quotes (_ ++ clause "ORDER BY" ", " _) _ :=
    hh.append_clause ⟨by decide, by decide⟩ .comma fun o ho => quotes_orderItem (h.order o ho)
  rw [text, tailText, ← String.append_assoc, ← String.append_assoc]
  exact ho

end Unquoted
end Select

-- Scanned from left to right, what is written has all its literals, each with what it says.
theorem Dialect.literals_read_back (d : Dialect) :
    (∀ e : Expr, e.Unquoted d → Quotes (e.text d) (e.literals d)) ∧
    ∀ s : Select, s.Unquoted d → Quotes (s.text d) (s.literals d) :=
  ⟨fun _ h => h.quotes, fun _ h => h.quotes⟩

-- Literals next to each other that are empty or say nothing but quotes, and a function whose name
-- has one.
theorem Dialect.literals_read_back_of_quotes : ∃ s : Select, s.Unquoted .jpql ∧
    s.text .jpql = "SELECT CONCAT('it''s', '''''', '') FROM Parent AS parent"
      ++ " WHERE :p LIKE '%' ESCAPE '''' ORDER BY FUNCTION('f''n', parent.date, ' ''') DESC" ∧
    s.literals .jpql = ["it's", "''", "", "%", "'", "f'n", " '"] ∧
    Quotes (s.text .jpql) (s.literals .jpql) := by
  have hs : (⟨[.concat [.literal "it's", .literal "''", .literal ""]],
      some ⟨"Parent", some "parent"⟩, [], [.like (.param "p") (.literal "%") '\''], [], [],
      [⟨.format "f'n" (.path "parent" "date") " '", some .desc⟩]⟩ : Select).Unquoted .jpql := by
    constructor
    case columns    =>
      refine List.forall_mem_singleton.mpr (.concat ?_)
      simp [Expr.Unquoted.literal]
    case source     => decide
    case joins      => exact nofun
    case conditions =>
      exact List.forall_mem_singleton.mpr (.like _ (.param (by decide)) (.literal _))
    case grouping   => exact nofun
    case having     => exact nofun
    case order      =>
      exact List.forall_mem_singleton.mpr (.format _ (.inl rfl) (.ident ⟨by decide, by decide⟩))
  exact ⟨_, hs, by decide +kernel, by decide +kernel, (literals_read_back .jpql).right _ hs⟩

end TableQuery
