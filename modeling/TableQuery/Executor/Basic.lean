import TableQuery.Plan

/-!
Executors: what runs the queries. A call is answered at once or after it has been polled a number
of times in vain.
-/

namespace TableQuery

inductive ExecutorError
  | connection (message : String)
  | query (message : String)
  | invalidCount (count : Int)
  | other (message : String)
deriving DecidableEq

def ExecutorError.message : ExecutorError → String
  | connection m   => "Connection error: " ++ m
  | query m        => "Query error: " ++ m
  | invalidCount n => "Invalid row count: " ++ toString n
  | other m        => m

structure Pending (α : Type) where
  waits   : Nat
  outcome : Except ExecutorError α

-- `σ` is what an executor keeps track of over its calls, `ρ` its rows.
structure Executor (σ ρ : Type) where
  fetchPage  : (query : String) → (params : Bindings) → (offset limit : UInt64) →
    StateM σ (Pending (List ρ))
  fetchCount : (query : String) → (params : Bindings) → StateM σ (Pending Int)

namespace Executor

variable {σ ρ : Type} (x : Executor σ ρ)

-- Without bounds a page starts at the first row and ends nowhere.
def page (q : Query) : StateM σ (Pending (List ρ)) :=
  x.fetchPage q.text q.params (q.offset.getD 0) (q.limit.getD 0xffffffffffffffff)

def rowCount (n : Int) : Except ExecutorError Nat :=
  if n < 0 then .error (.invalidCount n) else .ok n.toNat

def count (q : Query) : StateM σ (Pending Nat) := do
  let p ← x.fetchCount q.text q.params
  return ⟨p.waits, p.outcome >>= rowCount⟩

end Executor

end TableQuery
