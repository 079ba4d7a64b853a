import TableQuery.Proofs.Plan.Statement

/-!
Which requests are accepted. The checks before a plan is made are the only place where anything is
refused: what a plan is made for compiles to all of its queries.
-/

namespace TableQuery.Plan

open Outcome

variable {entity : Entity} {request : Request} {clauses : Clauses} {settings : Settings} {p : Plan}

structure Accepted (entity : Entity) (request : Request) (settings : Settings) : Prop where
  settings : settings.validate = .ok ()
  entity   : entity.isEntity
  length   : 0 < request.length.toInt
  orders   : ∀ o ∈ request.order, request.InRange o

-- Each fault only counts if there is none of those before it.
inductive Refused (entity : Entity) (request : Request) (settings : Settings) :
    CompileError → Prop
  | settings {e : SettingsError} (hs : settings.validate = .error e) :
      Refused entity request settings (.settings e)
  | entity (hs : settings.validate = .ok ()) (he : ¬entity.isEntity) :
      Refused entity request settings (.invalidEntity entity.name)
  | request {e : RequestError} (hs : settings.validate = .ok ()) (he : entity.isEntity)
      (hr : request.Refused e) : Refused entity request settings (.request e)

theorem accepted_iff : Accepted entity request settings ↔ check entity request settings = .ok () := by
  rw [check_eq_ok_iff, Request.validate_eq_ok_iff]
  exact ⟨fun ⟨hs, he, hl, ho⟩ => ⟨hs, he, hl, ho⟩, fun ⟨hs, he, hl, ho⟩ => ⟨hs, he, hl, ho⟩⟩

theorem check_eq_error_iff {e : CompileError} :
    check entity request settings = .error e ↔ Refused entity request settings e := by
  simp only [check, bind_eq_error_iff, mapError_eq_error_iff, mapError_eq_ok_iff]
  constructor
  case mp =>
    intro h
    cases h
    case inl h =>
      obtain ⟨_, hs, he⟩ := h
      exact he ▸ .settings hs
    case inr h =>
      obtain ⟨_, hs, h⟩ := h
      split at h
      case isTrue he =>
        rw [ok_bind, mapError_eq_error_iff] at h
        obtain ⟨_, hr, hm⟩ := h
        exact hm ▸ .request hs he (Request.validate_eq_error_iff.mp hr)
      case isFalse he => exact Except.error.inj h ▸ .entity hs he
  case mpr =>
    intro h
    cases h
    case settings hs  => exact .inl ⟨_, hs, rfl⟩
    case entity hs he => exact .inr ⟨(), hs, if_neg he⟩
    case request hs he hr =>
      have hv := Request.validate_eq_error_iff.mpr hr
      refine .inr ⟨(), hs, ?_⟩
      rw [if_pos he, ok_bind, mapError_eq_error_iff]
      exact ⟨_, hv, rfl⟩

-- Aliases and joins are found for any columns, so only the checks refuse anything.
theorem prepare_eq_error_iff {e : CompileError} :
    prepare entity request clauses settings = .error e ↔ Refused entity request settings e := by
  rw [← check_eq_error_iff, prepare, bind_eq_error_iff]
  simp only [Scope.joinColumns_eq, ok_mapError, ok_bind]
  apply or_iff_left
  intro h
  obtain ⟨_, _, h⟩ := h
  contradiction

theorem queries_eq (h : p.request.validate = .ok ()) :
    ∃ q : QueryKind → Query, (∀ kind, p.query kind = .ok (q kind)) ∧
      p.queries = .ok ⟨q .page, q .totalCount, q .filteredCount⟩ := by
  refine ⟨_, query_eq h, ?_⟩
  simp only [queries, query_eq h, ok_bind]
  rfl

theorem prepare_decides (entity : Entity) (request : Request) (clauses : Clauses)
    (settings : Settings) :
    ((∃ p, prepare entity request clauses settings = .ok p) ↔
      Accepted entity request settings) ∧
    (∀ e, prepare entity request clauses settings = .error e ↔
      Refused entity request settings e) ∧
    ∀ p, prepare entity request clauses settings = .ok p →
      ∃ q : QueryKind → Query, (∀ kind, p.query kind = .ok (q kind)) ∧
        p.queries = .ok ⟨q .page, q .totalCount, q .filteredCount⟩ := by
  refine ⟨?accepted, fun _ => prepare_eq_error_iff, fun _ h => queries_eq (validate_of_prepare h)⟩
  case accepted =>
    simp only [accepted_iff, prepare_eq_ok_iff]
    exact ⟨fun ⟨_, hc, _⟩ => hc, fun hc => ⟨_, hc, rfl⟩⟩

-- Of three orders the first names the only column; without the other two there is nothing to refuse.
theorem prepare_decides_by_orders :
    prepare { name := "Parent" }
        { order   := [{}, { column := 3, dir := .desc }, { column := 5 }]
          columns := [.ofDescriptor "a + b" ""] } {} {}
      = .error (.request (.columnIndexOutOfRange 3 1)) ∧
    ∃ p, prepare { name := "Parent" }
        { order   := [{}]
          columns := [.ofDescriptor "a + b" ""] } {} {} = .ok p ∧
      ∃ queries, p.queries = .ok queries := by
  constructor
  case left =>
    refine ((prepare_decides ..).right.left _).mpr (.request rfl rfl ?_)
    exact @Request.Refused.order _ [{}] { column := 3, dir := .desc } _ (by decide) rfl (by decide)
      (by decide)
  case right =>
    have ⟨ha, _, hq⟩ := prepare_decides { name := "Parent" }
      { order   := [{}]
        columns := [.ofDescriptor "a + b" ""] } {} {}
    have ⟨p, hp⟩ := ha.mpr ⟨rfl, rfl, by decide, by decide⟩
    have ⟨_, _, hs⟩ := hq p hp
    exact ⟨p, hp, _, hs⟩

end TableQuery.Plan
