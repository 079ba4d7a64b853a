import TableQuery.Value

/-!
Values under names, in the order in which the names were first bound.
-/

namespace TableQuery

structure Bindings where
  entries : List (String × Value) := []

namespace Bindings

variable (b : Bindings)

def names : List String :=
  b.entries.map Prod.fst

def size : Nat :=
  b.entries.length

def get? (name : String) : Option Value :=
  b.entries.lookup name

def insert (name : String) (value : Value) : Bindings where
  entries := go b.entries
where
  go : List (String × Value) → List (String × Value)
    | []      => [(name, value)]
    | e :: es => if e.1 = name then (name, value) :: es else e :: go es

def restrict (p : String → Bool) : Bindings where
  entries := b.entries.filter fun e => p e.1

def toJson : Json :=
  .object (b.entries.map fun e => (e.1, e.2.toJson))

variable {b}

theorem lookup_cons (n m : String) (w : Value) (es : List (String × Value)) :
    List.lookup n ((m, w) :: es) = if n = m then some w else es.lookup n := by
  change (match n == m with | true => some w | false => es.lookup n) = _
  by_cases h : n = m
  · rw [beq_iff_eq.mpr h, if_pos h]
  · rw [beq_false_of_ne h, if_neg h]

theorem get?_insert (name : String) (value : Value) (n : String) :
    (b.insert name value).get? n = if n = name then some value else b.get? n := by
  change (insert.go name value b.entries).lookup n = if n = name then some value else b.entries.lookup n
  induction b.entries with
  | nil => exact lookup_cons n name value []
  | cons e es ih =>
    rw [insert.go]
    split
    case isTrue h => rw [lookup_cons, ← h, lookup_cons]; split <;> rfl
    case isFalse h =>
      rw [lookup_cons, ih, lookup_cons]
      by_cases hm : n = e.1
      · simp [hm, h]
      · simp [hm]

theorem get?_restrict (p : String → Bool) (n : String) :
    (b.restrict p).get? n = if p n then b.get? n else none := by
  change (b.entries.filter fun e => p e.1).lookup n = if p n then b.entries.lookup n else none
  induction b.entries with
  | nil => simp
  | cons e es ih =>
    rw [List.filter_cons, lookup_cons]
    by_cases hn : n = e.1
    · subst hn
      split
      case isTrue h => rw [lookup_cons, if_pos rfl, if_pos rfl]
      case isFalse h => rw [ih, if_neg h]
    · rw [if_neg hn]
      split
      · rw [lookup_cons, if_neg hn, ih]
      · exact ih

theorem mem_names_iff {n : String} : n ∈ b.names ↔ (b.get? n).isSome := by
  change n ∈ b.entries.map Prod.fst ↔ (b.entries.lookup n).isSome
  induction b.entries with
  | nil => simp
  | cons e es ih =>
    rw [lookup_cons, List.map_cons, List.mem_cons, ih]
    by_cases hn : n = e.1 <;> simp only [hn, true_or, false_or, if_true, if_false, Option.isSome_some]

end Bindings

end TableQuery
