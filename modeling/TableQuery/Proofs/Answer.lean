import TableQuery.Executor.Script
import TableQuery.Proofs.Plan.Acceptance
import TableQuery.Proofs.Polling

/-!
Answers to requests. A request that cannot be compiled is refused without a call; any other is
answered by all rows and counts that were asked for, or by what failed first and nothing else.
-/

namespace TableQuery

open Outcome

variable {σ ρ : Type}

namespace Pending

-- What a count fails with. A negative number is a failure as well.
def countFailure? (p : Pending Int) : Option Failure :=
  match p.outcome with
  | .ok n    => if n < 0 then some (p.waits, .invalidCount n) else none
  | .error e => some (p.waits, e)

theorem failure?_rowCount (p : Pending Int) :
    failure? ⟨p.waits, p.outcome >>= Executor.rowCount⟩ = p.countFailure? := by
  obtain ⟨waits, outcome⟩ := p
  cases outcome
  case error => rfl
  case ok n  => by_cases hn : n < 0 <;> simp [failure?, countFailure?, Executor.rowCount, hn]

end Pending

namespace Executor

theorem rowCount_eq_ok_iff {n : Int} {k : Nat} :
    rowCount n = .ok k ↔ 0 ≤ n ∧ n.toNat = k := by
  rw [rowCount]
  split
  case isTrue hn  => exact ⟨nofun, fun h => absurd h.left (Int.not_le.mpr hn)⟩
  case isFalse hn => rw [Except.ok.injEq, and_iff_right (Int.not_lt.mp hn)]

theorem page_eq {x : Executor σ ρ} {q : Query} {start limit : UInt64}
    (ho : q.offset = some start) (hl : q.limit = some limit) :
    x.page q = x.fetchPage q.text q.params start limit := by
  simp [page, ho, hl]

end Executor

namespace Plan

variable {p : Plan} {kind : QueryKind}

-- A query with what goes with it.
def compiledQuery (p : Plan) (kind : QueryKind) : Query where
  kind
  text   := p.queryText kind
  params := p.params kind
  offset := if kind = .page then some p.request.start else none
  limit  := if kind = .page then some (.ofNat p.request.length.toInt.toNat) else none

theorem queries_eq_compiledQuery (h : p.request.validate = .ok ()) :
    p.queries = .ok ⟨p.compiledQuery .page, p.compiledQuery .totalCount,
      p.compiledQuery .filteredCount⟩ := by
  simp only [queries, query_eq h, ok_bind]
  rfl

end Plan

namespace Table

variable {t : Table} {request : Request} {queries : Plan.Queries} {x : Executor σ ρ} {s : σ}

theorem queries_eq_of_prepare {p : Plan}
    (h : Plan.prepare t.entity request t.clauses t.settings = .ok p) :
    t.queries request = .ok ⟨p.compiledQuery .page, p.compiledQuery .totalCount,
      p.compiledQuery .filteredCount⟩ := by
  rw [Table.queries, h, ok_bind, Plan.queries_eq_compiledQuery (Plan.validate_of_prepare h)]

theorem page_of_queries (h : t.queries request = .ok queries) :
    ∃ limit, request.limit = .ok limit ∧ queries.page.offset = some request.start ∧
      queries.page.limit = some limit := by
  have ⟨p, hp, _⟩ := bind_eq_ok_iff.mp h
  have hv := Plan.validate_of_prepare hp
  rw [queries_eq_of_prepare hp, Except.ok.injEq] at h
  rw [Plan.request_of_prepare hp] at hv
  have hl := (Request.validate_eq_ok_iff.mp hv).left
  refine ⟨_, Request.limit_eq_ok_iff.mpr ⟨hl, rfl⟩, ?_⟩
  rw [← h, Plan.compiledQuery, Plan.request_of_prepare hp]
  exact ⟨rfl, rfl⟩

theorem serve_of_error {e : CompileError} (h : t.queries request = .error e) :
    t.serve request x s = (.error e, s) := by
  unfold serve
  rw [h]
  exact run_bind_of_error (run_ofExcept _)

theorem serve_of_ok {r : Except ExecutorError (List ρ × Nat × Nat)} {s' : σ}
    (h : t.queries request = .ok queries)
    (hr : runTogether (x.page queries.page) (x.count queries.totalCount)
      (x.count queries.filteredCount) s = (r, s')) :
    t.serve request x s = (.ok (.ofOutcome request.draw r), s') := by
  have hr : (runTogether (x.page queries.page) (x.count queries.totalCount)
      (x.count queries.filteredCount)).run s = (r, s') := hr
  unfold serve
  rw [h, run_bind_of_ok (run_ofExcept _), run_bind_of_ok (run_liftM hr)]
  rfl

theorem respond_of_serve {response : Response ρ} {s' : σ}
    (h : t.serve request x s = (.ok response, s')) :
    t.respond request x s = .ok (response, s') := by
  unfold respond
  rw [h]

theorem respond_of_error {e : CompileError} (h : t.queries request = .error e) :
    t.respond request x s = .error e := by
  unfold respond
  rw [serve_of_error h]

end Table

namespace Script

variable (script : Script ρ)

-- What a count call gets that comes after `n` others.
def count (n : Nat) : Pending Int :=
  script.counts.getD n ⟨0, .ok 0⟩

-- What the three calls fail with, in the order in which they are polled.
def failures : List (Option Failure) :=
  [script.page.failure?, (script.count 0).countFailure?, (script.count 1).countFailure?]

-- The calls that are made, the last one being the first that fails when it is made.
def made (calls : List Call) : List Call :=
  calls.take (script.failures.findIdx Task.failsAtOnce + 1)

variable {script} {q : Query} {calls : List Call}

theorem executor_page {start limit : UInt64} (ho : q.offset = some start)
    (hl : q.limit = some limit) : script.executor.page q calls
      = (script.page, calls ++ [.page q.text q.params start limit]) :=
  Executor.page_eq ho hl ▸ rfl

theorem executor_count {n : Nat} (hn : calls.countP (·.isCount) = n) :
    script.executor.count q calls =
      (⟨(script.count n).waits, (script.count n).outcome >>= Executor.rowCount⟩,
        calls ++ [.count q.text q.params]) :=
  hn ▸ rfl

theorem made_eq (a b c : Call) :
    script.made [a, b, c] = if Task.failsAtOnce script.page.failure? then [a]
      else if Task.failsAtOnce (script.count 0).countFailure? then [a, b] else [a, b, c] := by
  simp only [made, failures, List.findIdx_cons]
  cases Task.failsAtOnce script.page.failure?
  case true  => rfl
  case false =>
    cases Task.failsAtOnce (script.count 0).countFailure?
    case true  => rfl
    case false => cases Task.failsAtOnce (script.count 1).countFailure? <;> rfl

theorem runTogether_executor (script : Script ρ) {queries : Plan.Queries} {start limit : UInt64}
    (ho : queries.page.offset = some start) (hl : queries.page.limit = some limit) :
    runTogether (script.executor.page queries.page) (script.executor.count queries.totalCount)
        (script.executor.count queries.filteredCount) []
      = (Task.finish (.waiting script.page)
          (.waiting ⟨(script.count 0).waits, (script.count 0).outcome >>= Executor.rowCount⟩)
          (.waiting ⟨(script.count 1).waits, (script.count 1).outcome >>= Executor.rowCount⟩),
        script.made [
          .page queries.page.text queries.page.params start limit,
          .count queries.totalCount.text queries.totalCount.params,
          .count queries.filteredCount.text queries.filteredCount.params]) := by
  rw [runTogether_eq (executor_page ho hl) (@executor_count _ script _ _ 0 rfl)
    (@executor_count _ script _ _ 1 rfl), Pending.failure?_rowCount, made_eq]
  rfl

end Script

namespace Table

-- The least failure decides, by the polls that it takes and then by the order of the calls.
theorem respond_all_or_nothing (t : Table) (request : Request) (script : Script ρ) :
    (∀ e, t.queries request = .error e →
      t.respond request script.executor [] = .error e ∧
      t.serve request script.executor [] = (.error e, [])) ∧
    ∀ queries, t.queries request = .ok queries → ∃ response limit,
      request.limit = .ok limit ∧
      t.respond request script.executor [] = .ok (response, script.made [
        .page queries.page.text queries.page.params request.start limit,
        .count queries.totalCount.text queries.totalCount.params,
        .count queries.filteredCount.text queries.filteredCount.params]) ∧
      response.draw = request.draw ∧
      ((∃ total filtered, script.page.outcome = .ok response.data ∧
          (script.count 0).outcome = .ok total ∧ (script.count 1).outcome = .ok filtered ∧
          total = response.recordsTotal ∧ filtered = response.recordsFiltered ∧
          response.error = none) ∨
        ∃ n e, SeenFirst script.failures (n, e) ∧ response.data = [] ∧
          response.recordsTotal = 0 ∧ response.recordsFiltered = 0 ∧
          response.error = some e.message) := by
  refine ⟨fun e h => ⟨respond_of_error h, serve_of_error h⟩, fun queries h => ?_⟩
  have ⟨limit, hl, hpo, hpl⟩ := page_of_queries h
  have hr := respond_of_serve (serve_of_ok h (script.runTogether_executor hpo hpl))
  refine ⟨_, limit, hl, hr, ?_⟩
  cases hf : Task.finish _ _ _
  case ok answers =>
    obtain ⟨rows, n, m⟩ := answers
    have ⟨hp, ht, hc⟩ := Task.finish_eq_ok hf
    have ⟨total, hto, hn⟩ := bind_eq_ok_iff.mp (toOption_eq_some_iff.mp ht)
    have ⟨filtered, hco, hm⟩ := bind_eq_ok_iff.mp (toOption_eq_some_iff.mp hc)
    obtain ⟨hn0, rfl⟩ := Executor.rowCount_eq_ok_iff.mp hn
    obtain ⟨hm0, rfl⟩ := Executor.rowCount_eq_ok_iff.mp hm
    exact ⟨rfl, .inl ⟨total, filtered, toOption_eq_some_iff.mp hp, hto, hco,
      (Int.toNat_of_nonneg hn0).symm, (Int.toNat_of_nonneg hm0).symm, rfl⟩⟩
  case error e =>
    have ⟨n, hs⟩ := Task.finish_eq_error hf
    simp only [Task.failure?, Pending.failure?_rowCount] at hs
    exact ⟨rfl, .inr ⟨n, e, hs, rfl, rfl, rfl, rfl⟩⟩

-- The total fails in an earlier round than the page, so the page's own failure is not seen. All
-- three calls are made by then. What is no entity is not asked for at all.
theorem respond_all_or_nothing_of_invalidCount :
    let script : Script String := {
      page   := ⟨2, .error (.query "page")⟩
      counts := [⟨1, .ok (-1)⟩, ⟨0, .ok 3⟩] }
    (∃ response calls,
      respond { entity := { name := "Parent" } } { draw := 7 } script.executor []
        = .ok (response, calls) ∧
      response.draw = 7 ∧ response.data = [] ∧ response.error = some "Invalid row count: -1" ∧
      calls.length = 3) ∧
    serve { entity := { name := "Parent", isEntity := false } } {} script.executor []
      = (.error (.invalidEntity "Parent"), []) := by
  intro script
  constructor
  case left =>
    have hc : Plan.check { name := "Parent" } { draw := 7 } {} = .ok () :=
      Plan.check_eq_ok_of_order_eq_nil rfl rfl (by decide) rfl
    have hq := queries_eq_of_prepare (t := { entity := { name := "Parent" } })
      (Plan.prepare_eq_ok_iff.mpr ⟨hc, rfl⟩)
    have ⟨response, limit, _, hr, hd, h⟩ := (respond_all_or_nothing _ _ script).right _ hq
    obtain ⟨_, _, hp, _⟩ | ⟨n, e, hs, hn, _, _, he⟩ := h
    · contradiction
    · have hf : script.failures = [some (2, .query "page"), some (1, .invalidCount (-1)), none] :=
        rfl
      rw [hf] at hs
      have hl : n ≤ 1 := hs.le (g := (1, .invalidCount (-1))) (by simp)
      have hm := hs.mem
      simp only [List.mem_cons, Option.some.injEq, Prod.mk.injEq, reduceCtorEq, List.not_mem_nil,
        or_false] at hm
      obtain ⟨rfl, _⟩ | ⟨_, rfl⟩ := hm
      · contradiction
      · exact ⟨response, _, hr, hd, hn, he, rfl⟩
  case right => exact ((respond_all_or_nothing _ _ script).left _ rfl).right

end Table

end TableQuery
