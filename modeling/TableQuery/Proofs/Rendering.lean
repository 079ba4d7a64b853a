import TableQuery.Query.Select

/-!
What is written of a part stands in what is written of the whole.
-/

namespace TableQuery

namespace Text

def Within (s t : String) : Prop :=
  ∃ a b, t = a ++ s ++ b

namespace Within

variable {s t u : String}

theorem refl (s : String) : Within s s :=
  ⟨"", "", by simp⟩

theorem trans (h₁ : Within s t) (h₂ : Within t u) : Within s u := by
  have ⟨a, b, ht⟩ := h₁
  have ⟨c, d, hu⟩ := h₂
  exact ⟨c ++ a, b ++ d, by simp only [hu, ht, String.append_assoc]⟩

theorem append_left (h : Within s t) (u : String) : Within s (u ++ t) :=
  h.trans ⟨u, "", by simp⟩

theorem append_right (h : Within s t) (u : String) : Within s (t ++ u) :=
  h.trans ⟨"", u, by simp⟩

theorem intercalate {l : List String} (sep : String) (h : s ∈ l) :
    Within s (sep.intercalate l) := by
  induction l
  case nil         => contradiction
  case cons t l ih =>
    cases l
    case nil => rw [List.mem_singleton.mp h, String.intercalate_singleton]; exact refl t
    case cons u l =>
      rw [String.intercalate_cons_cons]
      cases List.mem_cons.mp h
      case inl h => exact h ▸ ((refl t).append_right sep).append_right _
      case inr h => exact (ih h).append_left _

end Within
end Text

open Text

namespace Expr

variable {d : Dialect} {e : Expr}

theorem within_parenthesized (s : String) : Within s (parenthesized s) :=
  ((Within.refl s).append_left "(").append_right ")"

theorem within_junction {operands : List Expr} (op : LogicalOperator) (h : e ∈ operands) :
    Within (e.text d) ((junction op operands).text d) := by
  rw [text, texts_eq_map]
  exact (Within.intercalate _ (List.mem_map_of_mem h)).trans (within_parenthesized _)

theorem within_upper (e : Expr) : Within (e.text d) ((upper e).text d) := by
  rw [upper, text, texts_eq_map]
  exact ((Within.intercalate _ (by simp)).append_left _).trans
    ((within_parenthesized _).append_left "UPPER")

theorem within_like (pattern : Expr) (esc : Char) :
    Within (pattern.text d) ((like e pattern esc).text d) :=
  (((Within.refl _).append_left _).append_right _).append_right _

end Expr

namespace Select

variable {d : Dialect} {s : Select} {e : Expr}

theorem within_text_of_mem_conditions (h : e ∈ s.conditions) :
    Within (e.text d) (s.text d) := by
  have hw : Within (e.text d) (s.whereText d) := by
    have hm := List.mem_map_of_mem (f := Expr.text d) h
    simp only [whereText, clause]
    split
    case isTrue he  => simp_all
    case isFalse    => exact (Within.intercalate _ hm).append_left _
  exact (hw.append_left _).append_right _

end Select

end TableQuery
