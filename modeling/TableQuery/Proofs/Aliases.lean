import Mathlib.Data.List.Nodup
import TableQuery.Aliases
import TableQuery.Proofs.Numbering

/-!
The registry of aliases. A path that is registered keeps its alias, and a new path gets one that
nothing else has, so an alias tells its path.
-/

namespace TableQuery.Aliases

def paths (a : Aliases) : List String :=
  a.entries.map (·.1)

def names (a : Aliases) : List String :=
  a.entries.map (·.2)

variable {a : Aliases} {path p₁ p₂ : String}

theorem lookup_isSome_iff : (a.lookup path).isSome ↔ path ∈ a.paths := by
  simp [lookup, paths]

theorem lookup_eq_none_iff : a.lookup path = none ↔ path ∉ a.paths := by
  rw [← lookup_isSome_iff, Option.not_isSome_iff_eq_none]

theorem lookup_root : a.lookup a.root = some a.rootAlias := by
  simp [lookup, entries]

theorem mem_entries_of_lookup {name : String} (h : a.lookup path = some name) :
    (path, name) ∈ a.entries := by
  have ⟨l₁, l₂, hl, _⟩ := List.lookup_eq_some_iff.mp h
  simp [hl]

theorem rootAlias_mem_names : a.rootAlias ∈ a.names :=
  List.mem_cons_self

theorem mem_names_of_lookup {name : String} (h : a.lookup path = some name) : name ∈ a.names :=
  List.mem_map.mpr ⟨_, mem_entries_of_lookup h, rfl⟩

-- The numbers of `fresh` are distinct names, so the search ends at one that is free.
theorem fresh_not_mem (a : Aliases) (path : String) : a.fresh path ∉ a.names :=
  firstFree_append_not_mem (stem a.length path ++ "_") a.names a.size

theorem aliasOf_of_mem (h : path ∈ a.paths) : a.lookup path = some (a.aliasOf path) := by
  have ⟨name, hn⟩ := Option.isSome_iff_exists.mp (lookup_isSome_iff.mpr h)
  simp [aliasOf, hn]

theorem aliasOf_of_not_mem (h : path ∉ a.paths) : a.aliasOf path = a.fresh path := by
  simp [aliasOf, lookup_eq_none_iff.mpr h]

section Register

theorem register_of_mem (h : path ∈ a.paths) : a.register path = a := by
  rw [register, if_pos (lookup_isSome_iff.mpr h)]

theorem register_entries_of_not_mem (h : path ∉ a.paths) :
    (a.register path).entries = a.entries ++ [(path, a.fresh path)] := by
  rw [register, if_neg (mt lookup_isSome_iff.mp h)]
  rfl

@[simp]
theorem register_root : (a.register path).root = a.root := by
  simp only [register]
  split <;> rfl

@[simp]
theorem register_rootAlias : (a.register path).rootAlias = a.rootAlias := by
  simp only [register]
  split <;> rfl

theorem mem_paths_register : p₁ ∈ (a.register path).paths ↔ p₁ ∈ a.paths ∨ p₁ = path := by
  by_cases h : path ∈ a.paths
  case pos =>
    rw [register_of_mem h, iff_self_or]
    exact (· ▸ h)
  case neg => simp [paths, register_entries_of_not_mem h]

-- An alias, once given, stays.
theorem lookup_register_of_some {name : String} (h : a.lookup p₁ = some name) :
    (a.register path).lookup p₁ = some name := by
  by_cases hm : path ∈ a.paths
  case pos => rw [register_of_mem hm, h]
  case neg =>
    rw [lookup, register_entries_of_not_mem hm, List.lookup_append]
    rw [lookup] at h
    simp [h]

theorem lookup_register_self : (a.register path).lookup path = some (a.aliasOf path) := by
  by_cases h : path ∈ a.paths
  case pos => rw [register_of_mem h, aliasOf_of_mem h]
  case neg =>
    have hl := lookup_eq_none_iff.mpr h
    rw [lookup] at hl
    simp [lookup, register_entries_of_not_mem h, List.lookup_append, hl, aliasOf_of_not_mem h]

end Register

-- No path is registered twice, and no alias is given twice.
structure Distinct (a : Aliases) : Prop where
  paths : a.paths.Nodup
  names : a.names.Nodup

theorem ofRoot_distinct (root : String) (length : Nat) : (ofRoot root length).Distinct where
  paths := List.nodup_singleton _
  names := List.nodup_singleton _

namespace Distinct

theorem register (h : a.Distinct) : (a.register path).Distinct := by
  by_cases hm : path ∈ a.paths
  case pos => rwa [register_of_mem hm]
  case neg =>
    have hf := a.fresh_not_mem path
    constructor
    case paths =>
      simp only [Aliases.paths, register_entries_of_not_mem hm, List.map_append]
      exact List.nodup_append.mpr ⟨h.paths, List.nodup_singleton _, by grind [Aliases.paths]⟩
    case names =>
      simp only [Aliases.names, register_entries_of_not_mem hm, List.map_append]
      exact List.nodup_append.mpr ⟨h.names, List.nodup_singleton _, by grind [Aliases.names]⟩

theorem path_unique {name : String} (h : a.Distinct) (h₁ : a.lookup p₁ = some name)
    (h₂ : a.lookup p₂ = some name) : p₁ = p₂ := by
  have he := List.inj_on_of_nodup_map h.names (mem_entries_of_lookup h₁) (mem_entries_of_lookup h₂)
  exact congrArg Prod.fst (he rfl)

end Distinct

end TableQuery.Aliases
