import TableQuery.Proofs.Placeholder
import TableQuery.Proofs.WellFormed

/-!
What the dialects write differently, and what that leaves alone. They differ in how texts are put
together and functions are called, so an expression that does neither has one text. Whatever it does,
it mentions the same parameters in each of them.
-/

namespace TableQuery

namespace Placeholder

variable {name cs : List Char} {before : Option Char}

-- A name has no quote in it, so writing the quotes twice tears none.
theorem exists_name_quoted_iff (hn : IsIdentifier name) :
    (∃ b, cs.flatMap Dialect.literal.quoted = name ++ b ∧ endsName b) ↔
      ∃ b, cs = name ++ b ∧ endsName b := by
  induction cs generalizing name
  case nil          => rfl
  case cons c cs ih =>
    rw [List.flatMap_cons, Dialect.literal.quoted]
    by_cases hc : c = '\''
    case pos =>
      rw [hc, if_pos rfl]
      exact exists_name_iff_of_endsName hn (by rfl) (by rfl)
    case neg =>
      rw [if_neg hc, List.singleton_append]
      cases name
      case nil         => simp [endsName]
      case cons n name =>
        have ih := @ih name fun d hd => hn d (List.mem_cons_of_mem n hd)
        simp only [List.cons_append, List.cons.injEq, and_assoc, exists_and_left, ih]

theorem occurs_quoted_iff (hn : IsIdentifier name) :
    Occurs name before (cs.flatMap Dialect.literal.quoted) ↔ Occurs name before cs := by
  induction cs generalizing before
  case nil          => rfl
  case cons c cs ih =>
    rw [List.flatMap_cons, Dialect.literal.quoted, occurs_cons_iff]
    by_cases hc : c = '\''
    case pos => simp [hc, occurs_cons_iff, ih]
    case neg =>
      rw [if_neg hc, List.singleton_append, occurs_cons_iff, exists_name_quoted_iff hn, ih]

end Placeholder

open Placeholder

section Mentions

variable {name s t sep function pattern : String} {parts : List String} {d : Dialect}
  (hn : IsIdentifier name.toList)
include hn

theorem mentions_literal : Mentions name (Dialect.literal s) ↔ Mentions name s := by
  have hl : Dialect.literal s
      = "'" ++ .ofList (s.toList.flatMap Dialect.literal.quoted) ++ "'" := by
    simp [Dialect.literal, ← String.toList_inj]
  rw [hl, mentions_enclosed hn (by decide) (by decide) (by decide), Mentions, String.toList_ofList,
    occurs_quoted_iff hn, Mentions]

theorem mentions_parenthesized : Mentions name (Expr.parenthesized s) ↔ Mentions name s :=
  mentions_enclosed hn (by decide) (by decide) (by decide)

theorem mentions_separated (hb : Breaks sep) (he : sep ≠ "") (hs : ':' ∉ sep.toList) :
    Mentions name (s ++ (sep ++ t)) ↔ Mentions name s ∨ Mentions name t := by
  rw [mentions_append hn (hb.append_right he t), mentions_append_of_not_mem hs]

theorem mentions_call :
    Mentions name (function ++ Expr.parenthesized s) ↔
      Mentions name function ∨ Mentions name s := by
  have hb : Breaks (Expr.parenthesized s) := by
    rw [Expr.parenthesized, String.append_assoc]
    exact (by decide : Breaks "(").append_right (by decide) _
  rw [mentions_append hn hb, mentions_parenthesized hn]

theorem mentions_concatText :
    Mentions name (Expr.concatText d parts) ↔ ∃ s ∈ parts, Mentions name s := by
  cases d
  case jpql =>
    have hc : ¬Mentions name "CONCAT" := not_mentions_of_not_mem (by decide)
    exact (mentions_call hn).trans ((or_iff_right hc).trans
      (mentions_intercalate hn (by decide) (by decide) (by decide)))
  case hql =>
    exact (mentions_parenthesized hn).trans
      (mentions_intercalate hn (by decide) (by decide) (by decide))

-- The name of the function is written as a literal in one of the dialects.
theorem mentions_formatText :
    Mentions name (Expr.formatText d function s pattern) ↔
      Mentions name function ∨ Mentions name s ∨ Mentions name pattern := by
  have hc {s t : String} :
      Mentions name (s ++ (", " ++ t)) ↔ Mentions name s ∨ Mentions name t :=
    mentions_separated hn (by decide) (by decide) (by decide)
  cases d
  case jpql =>
    have hf : ¬Mentions name "FUNCTION" := not_mentions_of_not_mem (by decide)
    rw [Expr.formatText_jpql, mentions_call hn, or_iff_right hf, hc, hc, mentions_literal hn,
      mentions_literal hn]
  case hql => rw [Expr.formatText_hql, mentions_call hn, hc, mentions_literal hn]

end Mentions

namespace Expr

-- An expression that holds others in a list has the property if all of these have it.
@[elab_as_elim]
theorem induction {motive : Expr → Prop} (ident : ∀ i, motive (.ident i))
    (literal : ∀ text, motive (.literal text)) (param : ∀ name, motive (.param name))
    (raw : ∀ fragment, motive (.raw fragment)) (nested : ∀ e, motive e → motive (.nested e))
    (junction : ∀ op operands, (∀ e ∈ operands, motive e) → motive (.junction op operands))
    (call : ∀ function distinct args, (∀ e ∈ args, motive e) →
      motive (.call function distinct args))
    (concat : ∀ parts, (∀ e ∈ parts, motive e) → motive (.concat parts))
    (format : ∀ function e pattern, motive e → motive (.format function e pattern))
    (like : ∀ e pattern esc, motive e → motive pattern → motive (.like e pattern esc))
    (e : Expr) : motive e :=
  @Expr.rec motive (fun es => ∀ e ∈ es, motive e) ident literal param raw nested junction call
    concat format like (List.forall_mem_nil _)
    (fun _ _ he hes => List.forall_mem_cons.mpr ⟨he, hes⟩) e

variable {name sep sep' : String} {d d' : Dialect} {es : List Expr}

theorem exists_mem_texts_iff (h : ∀ e ∈ es, (Mentions name (e.text d) ↔ Mentions name (e.text d'))) :
    (∃ s ∈ texts d es, Mentions name s) ↔ ∃ s ∈ texts d' es, Mentions name s := by
  simp only [texts_eq_map, List.mem_map, exists_exists_and_eq_and]
  exact exists_congr fun e => and_congr_right (h e)

theorem mentions_text_iff (hn : IsIdentifier name.toList) (d d' : Dialect) (e : Expr) :
    Mentions name (e.text d) ↔ Mentions name (e.text d') := by
  induction e using Expr.induction
  case ident     => rfl
  case literal   => rfl
  case param     => rfl
  case raw       => rfl
  case nested ih => rwa [text, text, mentions_parenthesized hn, mentions_parenthesized hn]
  case junction op es ih =>
    have hb : Breaks (separator op) := by cases op <;> decide
    have he : separator op ≠ "" := by cases op <;> decide
    have hs : ':' ∉ (separator op).toList := by cases op <;> decide
    rw [text, text, mentions_parenthesized hn, mentions_parenthesized hn,
      mentions_intercalate hn hb he hs, mentions_intercalate hn hb he hs, exists_mem_texts_iff ih]
  case call function distinct es ih =>
    have hd : ':' ∉ (if distinct then "DISTINCT " else "").toList := by cases distinct <;> decide
    have hi (d : Dialect) : Mentions name (", ".intercalate (texts d es)) ↔
        ∃ s ∈ texts d es, Mentions name s :=
      mentions_intercalate hn (by decide) (by decide) (by decide)
    rw [text, text, mentions_call hn, mentions_call hn, mentions_append_of_not_mem hd,
      mentions_append_of_not_mem hd, hi, hi, exists_mem_texts_iff ih]
  case concat es ih =>
    rw [text, text, mentions_concatText hn, mentions_concatText hn, exists_mem_texts_iff ih]
  case format function e pattern ih =>
    rw [text, text, mentions_formatText hn, mentions_formatText hn, ih]
  case like e pattern esc ihe ihp =>
    have hl {s t : String} :
        Mentions name (s ++ (" LIKE " ++ t)) ↔ Mentions name s ∨ Mentions name t :=
      mentions_separated hn (by decide) (by decide) (by decide)
    have he {s t : String} :
        Mentions name (s ++ (" ESCAPE " ++ t)) ↔ Mentions name s ∨ Mentions name t :=
      mentions_separated hn (by decide) (by decide) (by decide)
    simp only [text, String.append_assoc, hl, he, ihe, ihp]

-- That the dialects write it alike.
def Uniform (e : Expr) : Prop :=
  ∀ d d', e.text d = e.text d'

theorem Uniform.ident (i : Ident) : Uniform (.ident i) :=
  fun _ _ => rfl

theorem Uniform.raw (fragment : String) : Uniform (.raw fragment) :=
  fun _ _ => rfl

theorem Uniform.nested {e : Expr} (h : e.Uniform) : Uniform (.nested e) :=
  fun d d' => congrArg parenthesized (h d d')

theorem Uniform.call {function : String} {distinct : Bool} {args : List Expr}
    (h : ∀ e ∈ args, e.Uniform) : Uniform (.call function distinct args) := by
  intro d d'
  have ht : args.map (text d) = args.map (text d') :=
    List.map_congr_left fun e he => h e he d d'
  rw [text, text, texts_eq_map, texts_eq_map, ht]

end Expr

namespace Select

structure Uniform (s : Select) : Prop where
  columns    : ∀ e ∈ s.columns, e.Uniform
  conditions : ∀ e ∈ s.conditions, e.Uniform
  grouping   : ∀ e ∈ s.grouping, e.Uniform
  having     : ∀ e ∈ s.having, e.Uniform
  order      : ∀ o ∈ s.order, o.expr.Uniform

theorem Uniform.text_eq {s : Select} (h : s.Uniform) (d d' : Dialect) :
    s.text d = s.text d' := by
  have ht {es : List Expr} (he : ∀ e ∈ es, e.Uniform) :
      es.map (Expr.text d) = es.map (Expr.text d') :=
    List.map_congr_left fun e hm => he e hm d d'
  have ho : s.order.map (OrderItem.text d) = s.order.map (OrderItem.text d') :=
    List.map_congr_left fun o hm => by rw [OrderItem.text, OrderItem.text, h.order o hm d d']
  simp only [text, whereText, tailText, ht h.columns, ht h.conditions, ht h.grouping,
    ht h.having, ho]

end Select

end TableQuery
