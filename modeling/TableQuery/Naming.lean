/-!
Numbered names: the first one from a given number on that is not taken.
-/

namespace TableQuery

-- The least number from `start` on whose name is not taken. Each step past a taken name leaves
-- one taken name less to meet, so the search ends.
def firstFree (name : Nat → String) (taken : List String) (start : Nat) : Nat :=
  if name start ∈ taken then firstFree name (taken.erase (name start)) (start + 1) else start
termination_by taken.length
decreasing_by
  rename_i h
  have := List.length_pos_of_mem h
  simp only [List.length_erase, h, ↓reduceIte]
  omega

variable {name : Nat → String}

theorem le_firstFree (taken : List String) (start : Nat) : start ≤ firstFree name taken start := by
  fun_induction firstFree name taken start with
  | case1 _ _ _ ih => exact Nat.le_of_succ_le ih
  | case2 => exact Nat.le_refl _

theorem firstFree_not_mem (inj : ∀ m n, name m = name n → m = n) (taken : List String)
    (start : Nat) : name (firstFree name taken start) ∉ taken := by
  fun_induction firstFree name taken start with
  | case1 taken start _ ih =>
    have hle : start + 1 ≤ firstFree name (taken.erase (name start)) (start + 1) := le_firstFree ..
    have hne : name (firstFree name (taken.erase (name start)) (start + 1)) ≠ name start :=
      fun h => absurd (inj _ _ h) (by omega)
    exact fun h => ih ((List.mem_erase_of_ne hne).mpr h)
  | case2 _ _ h => exact h

theorem mem_of_lt_firstFree {taken : List String} {start k : Nat} (hs : start ≤ k)
    (hk : k < firstFree name taken start) : name k ∈ taken := by
  fun_induction firstFree name taken start with
  | case1 taken start h ih =>
    by_cases hks : k = start
    · exact hks ▸ h
    · exact List.mem_of_mem_erase (ih (by omega) hk)
  | case2 => omega

theorem firstFree_le (taken : List String) (start : Nat) :
    firstFree name taken start ≤ start + taken.length := by
  fun_induction firstFree name taken start with
  | case1 taken start h ih =>
    have hl := List.length_erase_of_mem h
    have hp := List.length_pos_of_mem h
    omega
  | case2 => exact Nat.le_add_right ..

end TableQuery
