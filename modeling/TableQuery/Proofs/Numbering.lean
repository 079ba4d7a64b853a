import Mathlib.Order.Bounds.Defs
import TableQuery.Naming

/-!
Names that end in a number. Two of them with one stem differ if their numbers do, so the search for
a free one finds it.
-/

namespace TableQuery

theorem isLeast_firstFree {name : Nat → String} (inj : ∀ m n, name m = name n → m = n)
    (taken : List String) (start : Nat) :
    IsLeast {k | start ≤ k ∧ name k ∉ taken} (firstFree name taken start) where
  left         := ⟨le_firstFree taken start, firstFree_not_mem inj taken start⟩
  right _ hk   := Nat.le_of_not_lt fun hl => hk.right (mem_of_lt_firstFree hk.left hl)

-- The search as a loop that looks at `count` names at most, and finds nothing if all are taken.
def searchFree (name : Nat → String) (taken : List String) : Nat → Nat → Option Nat
  | 0, _             => none
  | count + 1, start =>
    if name start ∈ taken then searchFree name taken count (start + 1) else some start

theorem searchFree_eq_some {name : Nat → String} {taken : List String} {count start n : Nat}
    (h : IsLeast {k | start ≤ k ∧ name k ∉ taken} n) (hn : n < start + count) :
    searchFree name taken count start = some n := by
  induction count generalizing start
  case zero          => exact absurd hn (Nat.not_lt.mpr h.left.left)
  case succ count ih =>
    have ⟨⟨hs, hf⟩, hl⟩ := h
    rw [searchFree]
    split
    case isFalse ht => exact congrArg some (Nat.le_antisymm hs (hl ⟨Nat.le_refl _, ht⟩))
    case isTrue ht  =>
      have hne : start ≠ n := fun he => hf (he ▸ ht)
      refine ih ⟨⟨Nat.lt_of_le_of_ne hs hne, hf⟩, ?_⟩ (by omega)
      exact fun k hk => hl ⟨Nat.le_of_succ_le hk.left, hk.right⟩

-- One name more than are taken is enough to look at.
theorem searchFree_eq_firstFree {name : Nat → String} (inj : ∀ m n, name m = name n → m = n)
    (taken : List String) (start : Nat) :
    searchFree name taken (taken.length + 1) start = some (firstFree name taken start) :=
  searchFree_eq_some (isLeast_firstFree inj taken start)
    (Nat.lt_succ_of_le (firstFree_le taken start))

theorem append_toString_inj {stem : String} {m n : Nat}
    (h : stem ++ toString m = stem ++ toString n) : m = n := by
  have hl : (stem ++ toString m).toList = (stem ++ toString n).toList := by rw [h]
  simp only [String.toList_append, Nat.toString_eq_repr, Nat.toList_repr] at hl
  have hd := List.append_cancel_left hl
  rw [← Nat.ofDigitChars_ten_toDigits (n := m), hd, Nat.ofDigitChars_ten_toDigits]

theorem isDigit_of_mem_toString {c : Char} {n : Nat} (h : c ∈ (toString n).toList) : c.isDigit := by
  rw [Nat.toString_eq_repr, Nat.toList_repr] at h
  exact Nat.isDigit_of_mem_toDigits (by decide) (by decide) h

theorem not_mem_toString {c : Char} (h : ¬c.isDigit) (n : Nat) : c ∉ (toString n).toList :=
  mt isDigit_of_mem_toString h

theorem firstFree_append_not_mem (stem : String) (taken : List String) (start : Nat) :
    stem ++ toString (firstFree (stem ++ toString ·) taken start) ∉ taken :=
  @firstFree_not_mem (stem ++ toString ·) (fun _ _ => append_toString_inj) taken start

end TableQuery
