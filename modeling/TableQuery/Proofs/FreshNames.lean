import TableQuery.Proofs.Tidy

/-!
Values that are bound one after the other under names of their own. A new name is never one that has
a value already, so no value is lost to another but by inserting one under its name.
-/

namespace TableQuery.Clauses

variable {c : Clauses} {a : Action} {actions : List Action} {name stem : String} {value : Value}

-- What binding a value anew does: the name has the least number that makes it free, and it alone is
-- added.
structure BindsAt (c : Clauses) (stem : String) (value : Value) (n : Nat) : Prop where
  name   : c.nextName stem = stem ++ toString n
  least  : IsLeast {k | c.values.size ≤ k ∧ stem ++ toString k ∉ c.values.names} n
  search : searchFree (stem ++ toString ·) c.values.names (c.values.size + 1) c.values.size = some n
  names  : (c.bindNext stem value).values.names = c.values.names ++ [stem ++ toString n]
  get    : ∀ name, (c.bindNext stem value).values.get? name =
    if name = stem ++ toString n then some value else c.values.get? name
  rest   : c.bindNext stem value = { c with values := (c.bindNext stem value).values }

theorem exists_bindsAt (c : Clauses) (stem : String) (value : Value) :
    ∃ n, c.BindsAt stem value n := by
  have hi (m n : Nat) : stem ++ toString m = stem ++ toString n → m = n := append_toString_inj
  have hl : c.values.names.length = c.values.size := List.length_map _
  refine ⟨firstFree (stem ++ toString ·) c.values.names c.values.size, ?_⟩
  constructor
  case name   => rfl
  case least  => exact isLeast_firstFree hi _ _
  case search => exact hl ▸ searchFree_eq_firstFree hi _ _
  case names  => rw [bindNext_eq, names_withEntries]; rfl
  case get    => exact Bindings.get?_insert _ value
  case rest   => rfl

section Run

-- The name that a step binds a value to, if it is to choose one.
def newName? (c : Clauses) : Action → Option String
  | .bindNext stem _ => some (c.nextName stem)
  | _                => none

-- The names that are chosen, one after the other.
def newNames (c : Clauses) : List Action → List String
  | []           => []
  | a :: actions => (c.newName? a).toList ++ newNames (c.act a) actions

theorem newName?_not_mem (h : c.newName? a = some name) : name ∉ c.values.names := by
  cases a
  case bindNext stem value => exact Option.some.inj h ▸ nextName_not_mem
  all_goals contradiction

theorem mem_names_of_newName? (h : c.newName? a = some name) : name ∈ (c.act a).values.names := by
  cases a
  case bindNext stem value =>
    rw [act, bindNext_eq, names_withEntries]
    exact List.mem_append_right _ (List.mem_singleton.mpr (Option.some.inj h).symm)
  all_goals contradiction

-- A step leaves a value where it is, unless it inserts one under the same name.
theorem get?_act (h : c.values.get? name = some value) (hn : ∀ v, a ≠ .insert name v) :
    (c.act a).values.get? name = some value := by
  cases a
  case insert name' v =>
    have hne : name ≠ name' := fun he => hn v (he ▸ rfl)
    rw [act, insert, Bindings.get?_insert, if_neg hne, h]
  case bindNext stem v =>
    have hm : name ∈ c.values.names := Bindings.mem_names_iff.mpr (Option.isSome_of_eq_some h)
    have hne : name ≠ c.nextName stem := ne_of_mem_of_not_mem hm nextName_not_mem
    rw [act, bindNext, insert, Bindings.get?_insert, if_neg hne, h]
  all_goals exact h

theorem get?_after (h : c.values.get? name = some value) (hn : ∀ v, .insert name v ∉ actions) :
    (c.after actions).values.get? name = some value := by
  induction actions generalizing c
  case nil               => exact h
  case cons a actions ih =>
    refine ih (get?_act h fun v he => ?_) fun v => mt (List.mem_cons_of_mem a) (hn v)
    exact hn v (he ▸ List.mem_cons_self)

-- No name is given up.
theorem mem_names_act (h : name ∈ c.values.names) : name ∈ (c.act a).values.names := by
  rw [Bindings.mem_names_iff] at h ⊢
  have ⟨value, hv⟩ := Option.isSome_iff_exists.mp h
  by_cases hi : ∃ v, a = .insert name v
  case pos =>
    obtain ⟨v, rfl⟩ := hi
    rw [act, insert, Bindings.get?_insert, if_pos rfl, Option.isSome_some]
  case neg => rw [get?_act hv (not_exists.mp hi), Option.isSome_some]

theorem not_mem_names_of_mem_newNames (h : name ∈ c.newNames actions) : name ∉ c.values.names := by
  induction actions generalizing c
  case nil               => contradiction
  case cons a actions ih =>
    cases List.mem_append.mp h
    case inl h => exact newName?_not_mem (Option.mem_toList.mp h)
    case inr h => exact mt mem_names_act (ih h)

theorem newNames_nodup : (c.newNames actions).Nodup := by
  induction actions generalizing c
  case nil               => exact List.nodup_nil
  case cons a actions ih =>
    refine List.nodup_append.mpr ⟨Option.toList_nodup _, ih, fun name hn name' hn' he => ?_⟩
    have hm := mem_names_of_newName? (Option.mem_toList.mp hn)
    exact not_mem_names_of_mem_newNames hn' (he ▸ hm)

end Run

-- Whatever is done with a bag, and whatever names the caller gives in between.
theorem new_names_fresh (c : Clauses) (actions : List Action) :
    (∀ stem value, ∃ n, (c.after actions).BindsAt stem value n) ∧
    (c.newNames actions).Nodup ∧
    (∀ name ∈ c.newNames actions, name ∉ c.values.names) ∧
    ∀ name value, c.values.get? name = some value → (∀ v, .insert name v ∉ actions) →
      (c.after actions).values.get? name = some value :=
  ⟨exists_bindsAt _, newNames_nodup, fun _ => not_mem_names_of_mem_newNames, fun _ _ => get?_after⟩

-- The caller has a number of its own that would come next, and then gives the first name that was
-- chosen another value.
theorem new_names_fresh_beside_caller :
    ∃ c c' : Clauses, c = { values := ⟨[("v2", .boolean true)]⟩ } ∧
      c' = c.after [.bindNext "v" (.string "a"), .bindNext "v" (.string "b"),
        .insert "v1" (.string "c"), .bindNext "v" (.string "d")] ∧
      ["v1", "v3", "v4"].Nodup ∧ "v2" ∉ ["v1", "v3", "v4"] ∧
      c'.values.get? "v2" = some (.boolean true) ∧ ∃ n, c'.BindsAt "v" .null n := by
  have ⟨hb, hn, hf, hk⟩ := new_names_fresh { values := ⟨[("v2", .boolean true)]⟩ }
    [.bindNext "v" (.string "a"), .bindNext "v" (.string "b"), .insert "v1" (.string "c"),
      .bindNext "v" (.string "d")]
  have hs : newNames { values := ⟨[("v2", .boolean true)]⟩ }
      [.bindNext "v" (.string "a"), .bindNext "v" (.string "b"), .insert "v1" (.string "c"),
        .bindNext "v" (.string "d")] = ["v1", "v3", "v4"] := by
    decide +kernel
  rw [hs] at hn hf
  refine ⟨_, _, rfl, rfl, hn, fun hm => hf _ hm (by decide), hk _ _ rfl ?_, hb _ _⟩
  simp

end TableQuery.Clauses
