import TableQuery.Executor.Basic
import TableQuery.Response

/-!
Tables that answer requests. The page and both counts are run together: they are polled in turn,
and the first failure to be seen ends all of them.
-/

namespace TableQuery

-- A call that has been made: waited for, or answered.
inductive Task (α : Type)
  | waiting (p : Pending α)
  | done (a : α)

namespace Task

-- The polls that it takes to an answer.
def polls : Task α → Nat
  | waiting p => p.waits + 1
  | done _    => 0

def poll : Task α → Except ExecutorError (Task α)
  | done a    => .ok (done a)
  | waiting p =>
    match p.waits with
    | 0         => p.outcome.map done
    | waits + 1 => .ok (waiting { p with waits })

theorem polls_poll {t t' : Task α} (h : t.poll = .ok t') : t'.polls = t.polls - 1 := by
  unfold poll at h
  split at h
  case h_1 =>
    cases h
    rfl
  case h_2 p =>
    split at h
    case h_1 hw =>
      cases ho : p.outcome with
      | error => simp [ho, Except.map] at h
      | ok =>
        rw [ho] at h
        cases h
        simp [polls, hw]
    case h_2 hw =>
      cases h
      simp [polls, hw]

def answers? : Task α → Task β → Task γ → Option (α × β × γ)
  | done a, done b, done c => some (a, b, c)
  | _, _, _                => none

theorem polls_pos_of_answers?_eq_none {a : Task α} {b : Task β} {c : Task γ}
    (h : answers? a b c = none) : 0 < a.polls + b.polls + c.polls := by
  cases a with
  | waiting => simp only [polls]; omega
  | done    =>
    cases b with
    | waiting => simp only [polls]; omega
    | done    =>
      cases c with
      | waiting => simp only [polls]; omega
      | done    => contradiction

-- Polls three tasks in turn until all are answered or one has failed.
def finish (a : Task α) (b : Task β) (c : Task γ) : Except ExecutorError (α × β × γ) :=
  match _h : answers? a b c with
  | some answers => .ok answers
  | none         =>
    match _ha : a.poll, _hb : b.poll, _hc : c.poll with
    | .error e, _, _         => .error e
    | _, .error e, _         => .error e
    | _, _, .error e         => .error e
    | .ok a', .ok b', .ok c' => finish a' b' c'
termination_by a.polls + b.polls + c.polls
decreasing_by
  have := polls_pos_of_answers?_eq_none _h
  rw [polls_poll _ha, polls_poll _hb, polls_poll _hc]
  omega

-- Makes a call and polls it for the first time.
def start (call : StateM σ (Pending α)) : ExceptT ExecutorError (StateM σ) (Task α) := do
  let p ← call
  MonadExcept.ofExcept (waiting p).poll

end Task

-- Makes three calls and waits for their answers. A call that comes after one which fails at once
-- is never made.
def runTogether (a : StateM σ (Pending α)) (b : StateM σ (Pending β)) (c : StateM σ (Pending γ)) :
    ExceptT ExecutorError (StateM σ) (α × β × γ) := do
  let a ← Task.start a
  let b ← Task.start b
  let c ← Task.start c
  MonadExcept.ofExcept (Task.finish a b c)

-- The answer that is made of what came of the calls.
def Response.ofOutcome (draw : UInt64) :
    Except ExecutorError (List ρ × Nat × Nat) → Response ρ
  | .ok (rows, total, filtered) => .ofRows draw total filtered rows
  | .error e                    => .failed draw e.message

structure Table where
  entity   : Entity
  settings : Settings := {}
  clauses  : Clauses := {} -- added to every request

namespace Table

variable (t : Table) (request : Request)

-- The queries that a request is answered by.
def queries : Except CompileError Plan.Queries := do
  (← Plan.prepare t.entity request t.clauses t.settings).queries

-- Answers a request. An executor that fails is an answer too; only a request, an entity or
-- settings that cannot be compiled are not answered, and then no call is made.
def serve (x : Executor σ ρ) : ExceptT CompileError (StateM σ) (Response ρ) := do
  let queries ← MonadExcept.ofExcept (t.queries request)
  return .ofOutcome request.draw (← (runTogether (x.page queries.page)
    (x.count queries.totalCount) (x.count queries.filteredCount)).run)

-- The answer, with what the executor keeps track of.
def respond (x : Executor σ ρ) (s : σ) : Except CompileError (Response ρ × σ) :=
  match t.serve request x s with
  | (.ok response, s) => .ok (response, s)
  | (.error e, _)     => .error e

end Table

end TableQuery
