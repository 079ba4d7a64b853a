import TableQuery.Proofs.Outcome
import TableQuery.Table

/-!
Calls that are polled in rounds. The first round in which one of them fails is the last, and of
several that fail in it the first one polled decides.
-/

namespace TableQuery

open Outcome

variable {α β γ σ : Type}

-- What a call that fails ends with, and after how many polls in vain.
abbrev Failure := Nat × ExecutorError

def Pending.failure? (p : Pending α) : Option Failure :=
  match p.outcome with
  | .ok _    => none
  | .error e => some (p.waits, e)

-- The failure that is seen first: no call fails in an earlier round, and in the same round none of
-- those that are polled before.
def SeenFirst (failures : List (Option Failure)) (f : Failure) : Prop :=
  ∃ before after, failures = before ++ some f :: after ∧
    (∀ g, some g ∈ before → f.1 < g.1) ∧ ∀ g, some g ∈ after → f.1 ≤ g.1

-- What is left of a failure once a round has passed.
def Failure.sooner (f : Failure) : Failure :=
  (f.1 - 1, f.2)

namespace SeenFirst

variable {failures : List (Option Failure)} {f g : Failure}

theorem mem (h : SeenFirst failures f) : some f ∈ failures := by
  obtain ⟨before, after, rfl, _, _⟩ := h
  exact List.mem_append_right _ List.mem_cons_self

theorem le (h : SeenFirst failures f) (hg : some g ∈ failures) : f.1 ≤ g.1 := by
  obtain ⟨before, after, rfl, hb, ha⟩ := h
  simp only [List.mem_append, List.mem_cons] at hg
  obtain hg | hg | hg := hg
  · exact Nat.le_of_lt (hb g hg)
  · exact Nat.le_of_eq (congrArg Prod.fst (Option.some.inj hg).symm)
  · exact ha g hg

theorem later (hw : ∀ g, some g ∈ failures → 0 < g.1)
    (h : SeenFirst (failures.map (·.map Failure.sooner)) f) :
    SeenFirst failures (f.1 + 1, f.2) := by
  obtain ⟨before, after, hs, hb, ha⟩ := h
  obtain ⟨before, rest, rfl, rfl, hr⟩ := List.map_eq_append_iff.mp hs
  obtain ⟨f', after, rfl, hf, rfl⟩ := List.map_eq_cons_iff.mp hr
  obtain ⟨f', rfl, rfl⟩ := Option.map_eq_some_iff.mp hf
  have hf := hw f' (by simp)
  refine ⟨before, after, ?_, fun g hg => ?_, fun g hg => ?_⟩
  · simp [Failure.sooner, Nat.sub_add_cancel hf]
  · have := hb g.sooner (List.mem_map_of_mem (f := (·.map Failure.sooner)) hg)
    have := hw g (by simp [hg])
    simp only [Failure.sooner] at *
    omega
  · have := ha g.sooner (List.mem_map_of_mem (f := (·.map Failure.sooner)) hg)
    have := hw g (by simp [hg])
    simp only [Failure.sooner] at *
    omega

end SeenFirst

namespace Task

variable {t t' : Task α} {a : Task α} {b : Task β} {c : Task γ} {e : ExecutorError}

def failure? : Task α → Option Failure
  | waiting p => p.failure?
  | done _    => none

-- What comes of a call that does not fail.
def result? : Task α → Option α
  | waiting p => p.outcome.toOption
  | done a    => some a

section Poll

theorem poll_eq_error_iff : t.poll = .error e ↔ t.failure? = some (0, e) := by
  cases t
  case done        => simp [poll, failure?]
  case waiting p =>
    obtain ⟨waits, outcome⟩ := p
    cases waits <;> cases outcome <;> simp [poll, failure?, Pending.failure?, Except.map]

theorem result?_poll (h : t.poll = .ok t') : t'.result? = t.result? := by
  cases t
  case done        => cases h; rfl
  case waiting p =>
    obtain ⟨waits, outcome⟩ := p
    cases waits <;> cases outcome <;> cases h <;> rfl

theorem failure?_poll (h : t.poll = .ok t') : t'.failure? = t.failure?.map Failure.sooner := by
  cases t
  case done        => cases h; rfl
  case waiting p =>
    obtain ⟨waits, outcome⟩ := p
    cases waits <;> cases outcome <;> cases h <;> rfl

-- A call that does not fail when it is polled has that before it.
theorem pos_of_failure? {f : Failure} (h : ∀ e, t.poll ≠ .error e) (hf : t.failure? = some f) :
    0 < f.1 := by
  refine Nat.pos_of_ne_zero fun hz => h f.2 (poll_eq_error_iff.mpr ?_)
  rw [hf, ← hz]

end Poll

section Finish

theorem result?_of_answers? {x : α} {y : β} {z : γ} (h : answers? a b c = some (x, y, z)) :
    a.result? = some x ∧ b.result? = some y ∧ c.result? = some z := by
  cases a <;> cases b <;> cases c <;> simp_all [answers?, result?]

theorem finish_eq_ok {x : α} {y : β} {z : γ} (h : finish a b c = .ok (x, y, z)) :
    a.result? = some x ∧ b.result? = some y ∧ c.result? = some z := by
  fun_induction finish a b c with
  | case1 a b c answers ha => exact result?_of_answers? (Except.ok.inj h ▸ ha)
  | case2 => contradiction
  | case3 => contradiction
  | case4 => contradiction
  | case5 a b c hn a' b' c' ha hb hc ih =>
    rw [← result?_poll ha, ← result?_poll hb, ← result?_poll hc]
    exact ih h

-- Each round either shows a failure or brings all of them one round nearer.
theorem finish_eq_error (h : finish a b c = .error e) :
    ∃ n, SeenFirst [a.failure?, b.failure?, c.failure?] (n, e) := by
  fun_induction finish a b c with
  | case1 => contradiction
  | case2 a b c _ e ha =>
    cases h
    rw [poll_eq_error_iff.mp ha]
    exact ⟨0, [], _, rfl, nofun, fun _ _ => Nat.zero_le _⟩
  | case3 a b c _ e hb ha =>
    cases h
    rw [poll_eq_error_iff.mp hb]
    refine ⟨0, [_], _, rfl, fun f hf => ?_, fun _ _ => Nat.zero_le _⟩
    exact pos_of_failure? ha (List.mem_singleton.mp hf).symm
  | case4 a b c _ e hc ha hb =>
    cases h
    rw [poll_eq_error_iff.mp hc]
    refine ⟨0, [_, _], _, rfl, fun f hf => ?_, fun _ _ => Nat.zero_le _⟩
    cases List.mem_cons.mp hf
    case inl hf => exact pos_of_failure? ha hf.symm
    case inr hf => exact pos_of_failure? hb (List.mem_singleton.mp hf).symm
  | case5 a b c _ a' b' c' ha hb hc ih =>
    have ⟨n, hs⟩ := ih h
    rw [failure?_poll ha, failure?_poll hb, failure?_poll hc] at hs
    refine ⟨n + 1, @SeenFirst.later [_, _, _] (n, e) (fun f hf => ?_) hs⟩
    simp only [List.mem_cons, List.not_mem_nil, or_false] at hf
    obtain hf | hf | hf := hf
    · exact pos_of_failure? (by simp [ha]) hf.symm
    · exact pos_of_failure? (by simp [hb]) hf.symm
    · exact pos_of_failure? (by simp [hc]) hf.symm

theorem failure?_of_result? {x : α} (h : a.result? = some x) : a.failure? = none := by
  cases a
  case done      => rfl
  case waiting p =>
    obtain ⟨waits, outcome⟩ := p
    cases outcome
    case ok    => rfl
    case error => contradiction

-- Calls that do not fail are waited for until all of them are answered.
theorem finish_of_result? {x : α} {y : β} {z : γ} (ha : a.result? = some x)
    (hb : b.result? = some y) (hc : c.result? = some z) : finish a b c = .ok (x, y, z) := by
  cases hf : finish a b c
  case ok answers =>
    obtain ⟨x', y', z'⟩ := answers
    have ⟨ha', hb', hc'⟩ := finish_eq_ok hf
    cases ha.symm.trans ha'
    cases hb.symm.trans hb'
    cases hc.symm.trans hc'
    rfl
  case error e =>
    have ⟨n, hs⟩ := finish_eq_error hf
    rw [failure?_of_result? ha, failure?_of_result? hb, failure?_of_result? hc] at hs
    exact absurd hs.mem (by simp)

theorem finish_eq (h : answers? a b c = none) :
    finish a b c = (do finish (← a.poll) (← b.poll) (← c.poll)) := by
  rw [finish]
  split
  case h_1 => simp_all
  case h_2 =>
    cases a.poll
    case error => rfl
    case ok    =>
      cases b.poll
      case error => rfl
      case ok    => cases c.poll <;> rfl

end Finish

section Start

-- Whether a call fails when it is polled for the first time.
def failsAtOnce (f : Option Failure) : Bool :=
  f.any (·.1 == 0)

variable {p : Pending α}

theorem failsAtOnce_of_error (h : (waiting p).poll = .error e) : failsAtOnce p.failure? := by
  rw [show p.failure? = some (0, e) from poll_eq_error_iff.mp h]
  rfl

theorem not_failsAtOnce_of_ok (h : (waiting p).poll = .ok t') : ¬failsAtOnce p.failure? := by
  rw [failsAtOnce, Option.any_eq_true]
  intro ⟨f, hf, hz⟩
  have hp := @pos_of_failure? _ (waiting p) f (by simp [h]) hf
  exact Nat.ne_of_gt hp (beq_iff_eq.mp hz)

variable {call : StateM σ (Pending α)} {s s' : σ} (h : call s = (p, s'))
include h

theorem start_bind_of_error {f : Task α → ExceptT ExecutorError (StateM σ) β}
    (he : (waiting p).poll = .error e) : (start call >>= f).run s = (.error e, s') := by
  refine run_bind_of_error ?_
  unfold start
  rw [run_bind_of_ok (run_liftM h), run_ofExcept, he]

theorem start_bind_of_ok {f : Task α → ExceptT ExecutorError (StateM σ) β}
    (ht : (waiting p).poll = .ok t') : (start call >>= f).run s = (f t').run s' := by
  refine run_bind_of_ok ?_
  unfold start
  rw [run_bind_of_ok (run_liftM h), run_ofExcept, ht]

end Start

end Task

-- The first round is polled while the calls are made, and a call that fails in it is the last.
theorem runTogether_eq {x : StateM σ (Pending α)} {y : StateM σ (Pending β)}
    {z : StateM σ (Pending γ)} {a : Pending α} {b : Pending β} {c : Pending γ} {s s₁ s₂ s₃ : σ}
    (hx : x s = (a, s₁)) (hy : y s₁ = (b, s₂)) (hz : z s₂ = (c, s₃)) :
    runTogether x y z s = (Task.finish (.waiting a) (.waiting b) (.waiting c),
      if Task.failsAtOnce a.failure? then s₁
      else if Task.failsAtOnce b.failure? then s₂ else s₃) := by
  rw [Task.finish_eq rfl]
  unfold runTogether
  cases ha : (Task.waiting a).poll
  case error =>
    rw [if_pos (Task.failsAtOnce_of_error ha)]
    exact Task.start_bind_of_error hx ha
  case ok a' =>
    rw [if_neg (Task.not_failsAtOnce_of_ok ha)]
    refine (Task.start_bind_of_ok hx ha).trans ?_
    cases hb : (Task.waiting b).poll
    case error =>
      rw [if_pos (Task.failsAtOnce_of_error hb)]
      exact Task.start_bind_of_error hy hb
    case ok b' =>
      rw [if_neg (Task.not_failsAtOnce_of_ok hb)]
      refine (Task.start_bind_of_ok hy hb).trans ?_
      cases hc : (Task.waiting c).poll
      case error => exact Task.start_bind_of_error hz hc
      case ok c' => exact (Task.start_bind_of_ok hz hc).trans (run_ofExcept _)

end TableQuery
