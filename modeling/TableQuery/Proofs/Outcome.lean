/-!
Computations that can fail, taken apart step by step.
-/

namespace TableQuery.Outcome

variable {ε ε' α β : Type}

@[simp]
theorem ok_bind (a : α) (f : α → Except ε β) : (Except.ok a >>= f) = f a :=
  rfl

@[simp]
theorem ok_mapError (a : α) (f : ε → ε') : (Except.ok a).mapError f = .ok a :=
  rfl

theorem bind_eq_ok_iff {x : Except ε α} {f : α → Except ε β} {b : β} :
    (x >>= f) = .ok b ↔ ∃ a, x = .ok a ∧ f a = .ok b := by
  cases x
  case ok a    => simp
  case error e => exact ⟨nofun, fun ⟨_, h, _⟩ => nomatch h⟩

theorem bind_eq_error_iff {x : Except ε α} {f : α → Except ε β} {e : ε} :
    (x >>= f) = .error e ↔ x = .error e ∨ ∃ a, x = .ok a ∧ f a = .error e := by
  cases x
  case ok a    => simp
  case error i =>
    constructor
    case mp  => exact fun h => .inl (congrArg Except.error (Except.error.inj h))
    case mpr =>
      intro h
      cases h
      case inl h => exact congrArg Except.error (Except.error.inj h)
      case inr h => exact nomatch h.choose_spec.left

theorem mapError_eq_ok_iff {x : Except ε α} {f : ε → ε'} {a : α} :
    x.mapError f = .ok a ↔ x = .ok a := by
  cases x
  case ok      => simp
  case error e => exact ⟨nofun, nofun⟩

theorem mapError_eq_error_iff {x : Except ε α} {f : ε → ε'} {e' : ε'} :
    x.mapError f = .error e' ↔ ∃ e, x = .error e ∧ f e = e' := by
  cases x
  case ok      => exact ⟨nofun, nofun⟩
  case error e =>
    constructor
    case mp  => exact fun h => ⟨e, rfl, Except.error.inj h⟩
    case mpr => exact fun ⟨_, he, hf⟩ => congrArg Except.error (Except.error.inj he ▸ hf)

theorem toOption_eq_some_iff {x : Except ε α} {a : α} : x.toOption = some a ↔ x = .ok a := by
  cases x <;> simp [Except.toOption]

theorem forM_eq_ok_iff {xs : List α} {f : α → Except ε Unit} :
    xs.forM f = .ok () ↔ ∀ x ∈ xs, f x = .ok () := by
  induction xs
  case nil          => simp; rfl
  case cons x xs ih =>
    rw [List.forM, bind_eq_ok_iff, List.forall_mem_cons, ← ih]
    exact ⟨fun ⟨(), hx, hs⟩ => ⟨hx, hs⟩, fun ⟨hx, hs⟩ => ⟨(), hx, hs⟩⟩

-- The first element that fails is the one whose error comes out.
theorem forM_eq_error_iff {xs : List α} {f : α → Except ε Unit} {e : ε} :
    xs.forM f = .error e ↔
      ∃ before x after, xs = before ++ x :: after ∧ (∀ y ∈ before, f y = .ok ()) ∧
        f x = .error e := by
  induction xs
  case nil =>
    constructor
    case mp  => exact nofun
    case mpr => exact fun ⟨_, _, _, hs, _⟩ => absurd hs (by simp)
  case cons x xs ih =>
    rw [List.forM, bind_eq_error_iff, ih]
    constructor
    case mp =>
      intro h
      cases h
      case inl h => exact ⟨[], x, xs, rfl, nofun, h⟩
      case inr h =>
        have ⟨(), hx, before, y, after, hs, hb, hy⟩ := h
        exact ⟨x :: before, y, after, congrArg _ hs, List.forall_mem_cons.mpr ⟨hx, hb⟩, hy⟩
    case mpr =>
      intro ⟨before, y, after, hs, hb, hy⟩
      cases before
      case nil =>
        have ⟨hx, _⟩ := List.cons.inj hs
        exact .inl (hx ▸ hy)
      case cons z before =>
        have ⟨hx, hs⟩ := List.cons.inj hs
        have ⟨hz, hb⟩ := List.forall_mem_cons.mp hb
        exact .inr ⟨(), hx ▸ hz, before, y, after, hs, hb, hy⟩

theorem exists_of_mem_mapM {f : α → Except ε β} {xs : List α} {ys : List β} {y : β}
    (h : xs.mapM f = .ok ys) (hy : y ∈ ys) : ∃ x ∈ xs, f x = .ok y := by
  induction xs generalizing ys
  case nil =>
    cases h
    contradiction
  case cons x xs ih =>
    rw [List.mapM_cons, bind_eq_ok_iff] at h
    have ⟨z, hz, h⟩ := h
    have ⟨zs, hs, h⟩ := bind_eq_ok_iff.mp h
    cases h
    cases List.mem_cons.mp hy
    case inl hy => exact ⟨x, List.mem_cons_self, hy ▸ hz⟩
    case inr hy =>
      have ⟨w, hw, hf⟩ := ih hs hy
      exact ⟨w, List.mem_cons_of_mem x hw, hf⟩

section Stateful

variable {σ : Type} {s s' : σ}

theorem run_bind_of_ok {m : ExceptT ε (StateM σ) α} {f : α → ExceptT ε (StateM σ) β} {a : α}
    (h : m s = (.ok a, s')) : (m >>= f) s = f a s' := by
  simp only [bind, ExceptT.bind, ExceptT.mk, StateT.bind, h]
  rfl

-- A failure keeps what the state has become by then.
theorem run_bind_of_error {m : ExceptT ε (StateM σ) α} {f : α → ExceptT ε (StateM σ) β} {e : ε}
    (h : m s = (.error e, s')) : (m >>= f) s = (.error e, s') := by
  simp only [bind, ExceptT.bind, ExceptT.mk, StateT.bind, h]
  rfl

theorem run_liftM {m : StateM σ α} {a : α} (h : m s = (a, s')) :
    (liftM m : ExceptT ε (StateM σ) α) s = (.ok a, s') := by
  simp only [liftM, monadLift, MonadLift.monadLift, ExceptT.lift, ExceptT.mk, Functor.map,
    StateT.map, h]
  rfl

theorem run_ofExcept (x : Except ε α) :
    (MonadExcept.ofExcept x : ExceptT ε (StateM σ) α) s = (x, s) := by
  cases x <;> rfl

end Stateful

end TableQuery.Outcome
