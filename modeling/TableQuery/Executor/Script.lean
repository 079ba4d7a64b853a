import TableQuery.Executor.Basic

/-!
Executors that follow a script and note the calls made.
-/

namespace TableQuery

inductive Call
  | page (query : String) (params : Bindings) (offset limit : UInt64)
  | count (query : String) (params : Bindings)

def Call.isCount : Call → Bool
  | page ..  => false
  | count .. => true

structure Script (ρ : Type) where
  page   : Pending (List ρ)
  counts : List (Pending Int) -- for the count calls in turn; after them every count is zero

namespace Script

variable {ρ : Type} (s : Script ρ)

def executor : Executor (List Call) ρ where
  fetchPage query params offset limit := do
    modify (· ++ [.page query params offset limit])
    return s.page
  fetchCount query params := do
    let calls ← get
    set (calls ++ [.count query params])
    return s.counts.getD (calls.countP Call.isCount) ⟨0, .ok 0⟩

end Script

end TableQuery
