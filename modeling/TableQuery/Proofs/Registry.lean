import Mathlib.Data.Finset.Card
import TableQuery.Proofs.Aliases

/-!
Runs of the registry of aliases. Paths are registered and looked up in any order; only the first
time that a path is registered changes anything, and the registry tells by its size how often that
was.
-/

namespace TableQuery.Aliases

-- What can be done with a registry.
inductive Action
  | register (path : String)
  | lookup (path : String)

def Action.registered? : Action → Option String
  | register path => some path
  | lookup _      => none

-- The registry afterwards, and the alias that is answered.
def act (a : Aliases) : Action → Aliases × Option String
  | .register path => (a.register path, a.aliasOf path)
  | .lookup path   => (a, a.lookup path)

def after (a : Aliases) (actions : List Action) : Aliases :=
  actions.foldl (fun a action => (a.act action).1) a

variable {a : Aliases} {path name : String} {actions : List Action}

section After

-- What registering a path keeps is kept by all that can be done.
theorem after_induction {P : Aliases → Prop} (h : P a)
    (hr : ∀ {b : Aliases} {path : String}, P b → P (b.register path)) : P (a.after actions) := by
  induction actions generalizing a
  case nil               => exact h
  case cons action _ ih =>
    cases action
    case register => exact ih (hr h)
    case lookup   => exact ih h

theorem root_after : (a.after actions).root = a.root :=
  after_induction (P := fun b => b.root = a.root) rfl register_root.trans

@[simp]
theorem register_length : (a.register path).length = a.length := by
  simp only [register]
  split <;> rfl

theorem length_after : (a.after actions).length = a.length :=
  after_induction (P := fun b => b.length = a.length) rfl register_length.trans

theorem Distinct.after (h : a.Distinct) : (a.after actions).Distinct :=
  after_induction h Distinct.register

theorem lookup_after_of_some (h : a.lookup path = some name) :
    (a.after actions).lookup path = some name :=
  after_induction (P := fun b => b.lookup path = some name) h lookup_register_of_some

theorem mem_paths_after :
    path ∈ (a.after actions).paths ↔ path ∈ a.paths ∨ path ∈ actions.filterMap (·.registered?) := by
  induction actions generalizing a
  case nil              => simp [Aliases.after]
  case cons action _ ih =>
    rw [Aliases.after, List.foldl_cons, ← Aliases.after, ih]
    cases action
    case register => simp [act, Action.registered?, mem_paths_register, or_assoc]
    case lookup   => simp [act, Action.registered?]

end After

-- A path that is there already is answered with its alias.
theorem act_register_of_lookup (h : a.lookup path = some name) :
    a.act (.register path) = (a, some name) := by
  have hm := lookup_isSome_iff.mp (Option.isSome_of_eq_some h)
  rw [act, register_of_mem hm, ← aliasOf_of_mem hm, h]

section Reserved

-- A numbered name has an underscore, and no word of the query language does.
theorem numbered_not_mem_reserved (stem : String) (k : Nat) : numbered stem k ∉ reserved := by
  intro h
  have hr : ∀ word ∈ reserved, '_' ∉ word.toList := by decide +kernel
  exact hr _ h (by simp [numbered])

def Unreserved (a : Aliases) : Prop :=
  ∀ name ∈ a.names, name ∉ reserved

theorem ofRoot_unreserved (root : String) (length : Nat) : (ofRoot root length).Unreserved := by
  refine List.forall_mem_singleton.mpr ?_
  simp only [ofRoot]
  split
  case isTrue    => exact numbered_not_mem_reserved _ 0
  case isFalse h => simp_all

theorem Unreserved.register (h : a.Unreserved) : (a.register path).Unreserved := by
  by_cases hm : path ∈ a.paths
  case pos => rwa [register_of_mem hm]
  case neg =>
    rw [Unreserved, names, register_entries_of_not_mem hm, List.map_append]
    exact List.forall_mem_append.mpr
      ⟨h, List.forall_mem_singleton.mpr (numbered_not_mem_reserved _ _)⟩

end Reserved

-- How a new path is named: by the least number, from the number of entries on, that is not taken.
structure Numbered (a : Aliases) (path : String) (k : Nat) : Prop where
  least : IsLeast {k | a.size ≤ k ∧ numbered (stem a.length path) k ∉ a.names} k
  bound : k ≤ a.size + a.size
  act   : a.act (.register path) =
    ({ a with others := a.others ++ [(path, numbered (stem a.length path) k)] },
      some (numbered (stem a.length path) k))

theorem exists_numbered (h : path ∉ a.paths) : ∃ k, a.Numbered path k := by
  have hi (m n : Nat) : numbered (stem a.length path) m = numbered (stem a.length path) n → m = n :=
    append_toString_inj
  refine ⟨_, isLeast_firstFree hi a.names a.size, ?bound, ?act⟩
  case bound =>
    have hl : a.names.length = a.size := List.length_map _
    have hb := @firstFree_le (numbered (stem a.length path)) a.names a.size
    rwa [hl] at hb
  case act =>
    rw [Aliases.act, register, if_neg (mt lookup_isSome_iff.mp h), aliasOf_of_not_mem h]
    rfl

-- What is known of a registry after all that can be done with the one of a root.
structure Settled (root : String) (length : Nat) (actions : List Action) (a : Aliases) : Prop where
  first      : a.paths.head? = some root
  paths      : a.paths.Nodup
  size       : a.size = 1 + ((actions.filterMap (·.registered?)).toFinset.erase root).card
  names      : a.names.Nodup
  unreserved : ∀ name ∈ a.names, name ∉ reserved
  kept       : ∀ path name, a.lookup path = some name → ∀ more,
    (a.after more).act (.lookup path) = (a.after more, some name) ∧
    (a.after more).act (.register path) = (a.after more, some name)
  stems      : a.length = length
  fresh      : ∀ path ∉ a.paths, ∃ k, a.Numbered path k

-- The paths are the root and what was registered, each once.
theorem size_after_ofRoot (root : String) (length : Nat) (actions : List Action) :
    ((ofRoot root length).after actions).size
      = 1 + ((actions.filterMap (·.registered?)).toFinset.erase root).card := by
  have hd : ((ofRoot root length).after actions).Distinct := (ofRoot_distinct root length).after
  have hp : ((ofRoot root length).after actions).paths.toFinset
      = insert root ((actions.filterMap (·.registered?)).toFinset.erase root) := by
    ext path
    have hr : path ∈ (ofRoot root length).paths ↔ path = root := List.mem_singleton
    simp only [List.mem_toFinset, mem_paths_after, hr, Finset.mem_insert, Finset.mem_erase]
    tauto
  calc ((ofRoot root length).after actions).size
    _ = ((ofRoot root length).after actions).paths.length := (List.length_map _).symm
    _ = ((ofRoot root length).after actions).paths.toFinset.card :=
      (List.toFinset_card_of_nodup hd.paths).symm
    _ = _ := by rw [hp, Finset.card_insert_of_notMem (Finset.notMem_erase root _), Nat.add_comm]

theorem settled_after_ofRoot (root : String) (length : Nat) (actions : List Action) :
    Settled root length actions ((ofRoot root length).after actions) where
  first           := congrArg some root_after
  paths           := (ofRoot_distinct root length).after.paths
  size            := size_after_ofRoot root length actions
  names           := (ofRoot_distinct root length).after.names
  unreserved      := after_induction (ofRoot_unreserved root length) Unreserved.register
  kept _ _ h more := by
    have hl := @lookup_after_of_some _ _ _ more h
    exact ⟨congrArg _ hl, act_register_of_lookup hl⟩
  stems           := length_after
  fresh _         := exists_numbered

-- The root has the alias that `child` would get first.
example :
    ((ofRoot "Child_1" 5).after
      [.register "child", .lookup "owner", .register "childSecond", .register "child"]).entries
      = [("Child_1", "child_1"), ("child", "child_2"), ("childSecond", "child_3")] := by
  decide +kernel

end TableQuery.Aliases
