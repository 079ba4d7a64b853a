import TableQuery.Proofs.Aliases
import TableQuery.Scope

/-!
The joins of a query. Columns and fragments only ever ask for joins, one after the other, and what
holds of the registry and the joins together is kept by each of them.
-/

namespace TableQuery.Scope

variable {s : Scope} {field f : String} {kind : JoinKind} {j : Join}

def fields (s : Scope) : List String :=
  s.joins.map (·.field)

section Join

@[simp]
theorem strengthen_parent : (strengthen kind j).parent = j.parent := by
  cases kind <;> rfl

@[simp]
theorem strengthen_field : (strengthen kind j).field = j.field := by
  cases kind <;> rfl

@[simp]
theorem strengthen_aliasName : (strengthen kind j).aliasName = j.aliasName := by
  cases kind <;> rfl

theorem join?_isSome_iff : (s.join? field).isSome ↔ field ∈ s.fields := by
  simp [join?, fields]

theorem adjust_fields (joins : List Join) :
    (adjust field kind joins).map (·.field) = joins.map (·.field) := by
  rw [adjust, List.map_map]
  apply List.map_congr_left
  intro j _
  simp only [Function.comp_apply]
  split <;> simp

-- An adjusted join is one that was there, up to its kind.
theorem exists_of_mem_adjust {joins : List Join} (h : j ∈ adjust field kind joins) :
    ∃ i ∈ joins, i.parent = j.parent ∧ i.field = j.field ∧ i.aliasName = j.aliasName := by
  have ⟨i, hi, hj⟩ := List.mem_map.mp h
  refine ⟨i, hi, ?_⟩
  subst hj
  split <;> simp

theorem join_of_mem (h : field ∈ s.fields) :
    s.join field kind = { s with joins := adjust field kind s.joins } := by
  rw [join, if_pos (join?_isSome_iff.mpr h)]

theorem join_of_not_mem (h : field ∉ s.fields) :
    s.join field kind = {
      aliases := s.aliases.register field
      joins   := s.joins ++ [⟨s.aliases.rootAlias, field, s.aliases.aliasOf field, kind⟩] } := by
  simp [join, mt join?_isSome_iff.mp h]

@[simp]
theorem join_root : (s.join field kind).aliases.root = s.aliases.root := by
  simp only [join]
  split <;> simp

@[simp]
theorem join_rootAlias : (s.join field kind).aliases.rootAlias = s.aliases.rootAlias := by
  simp only [join]
  split <;> simp

end Join

-- What holds of the joins whatever else has been registered.
structure Aligned (s : Scope) : Prop where
  fields : s.fields.Nodup
  parent : ∀ j ∈ s.joins, j.parent = s.aliases.rootAlias
  lookup : ∀ j ∈ s.joins, s.aliases.lookup j.field = some j.aliasName

-- A join that is there already only changes its kind, so that every field of the invariant is the
-- one of before. A new one takes the registry a step further.
theorem Aligned.join (h : s.Aligned) (field : String) (kind : JoinKind) :
    (s.join field kind).Aligned := by
  by_cases hm : field ∈ s.fields
  case pos =>
    rw [join_of_mem hm]
    constructor
    case fields => rw [Scope.fields, adjust_fields]; exact h.fields
    case parent =>
      intro j hj
      have ⟨i, hi, hp, _⟩ := exists_of_mem_adjust hj
      exact hp ▸ h.parent i hi
    case lookup =>
      intro j hj
      have ⟨i, hi, _, hf, ha⟩ := exists_of_mem_adjust hj
      exact hf ▸ ha ▸ h.lookup i hi
  case neg =>
    rw [join_of_not_mem hm]
    constructor
    case fields =>
      rw [Scope.fields, List.map_append]
      exact List.nodup_append.mpr ⟨h.fields, List.nodup_singleton _, by grind [Scope.fields]⟩
    case parent =>
      intro j hj
      rw [Aliases.register_rootAlias]
      cases List.mem_append.mp hj
      case inl hj => exact h.parent j hj
      case inr hj => rw [List.mem_singleton.mp hj]
    case lookup =>
      intro j hj
      cases List.mem_append.mp hj
      case inl hj => exact Aliases.lookup_register_of_some (h.lookup j hj)
      case inr hj => rw [List.mem_singleton.mp hj]; exact Aliases.lookup_register_self

theorem Aligned.join_unique (h : s.Aligned) {i : Join} (hi : i ∈ s.joins) (hj : j ∈ s.joins)
    (hf : i.field = j.field) : i = j :=
  List.inj_on_of_nodup_map h.fields hi hj hf

-- What the registry and the joins have to do with each other.
structure Coherent (s : Scope) : Prop where
  distinct : s.aliases.Distinct
  fields   : s.fields.Nodup
  parent   : ∀ j ∈ s.joins, j.parent = s.aliases.rootAlias
  lookup   : ∀ j ∈ s.joins, s.aliases.lookup j.field = some j.aliasName
  joined   : ∀ path ∈ s.aliases.paths, path ≠ s.aliases.root → path ∈ s.fields

theorem ofRoot_coherent (root : String) (aliasLength : Nat) :
    (ofRoot root aliasLength).Coherent where
  distinct := Aliases.ofRoot_distinct root aliasLength
  fields   := List.nodup_nil
  parent _ := nofun
  lookup _ := nofun
  joined _ hp hr := absurd (List.mem_singleton.mp hp) hr

namespace Coherent

theorem aligned (h : s.Coherent) : s.Aligned :=
  ⟨h.fields, h.parent, h.lookup⟩

-- Only what is joined is registered.
theorem join (h : s.Coherent) (field : String) (kind : JoinKind) :
    (s.join field kind).Coherent := by
  have ⟨hf, hp, hl⟩ := h.aligned.join field kind
  by_cases hm : field ∈ s.fields
  case pos =>
    refine ⟨?distinct, hf, hp, hl, ?joined⟩
    case distinct => rw [join_of_mem hm]; exact h.distinct
    case joined =>
      rw [join_of_mem hm, Scope.fields, adjust_fields]
      exact h.joined
  case neg =>
    refine ⟨?distinct, hf, hp, hl, ?joined⟩
    case distinct => rw [join_of_not_mem hm]; exact h.distinct.register
    case joined =>
      rw [join_of_not_mem hm]
      intro path hp hr
      rw [Aliases.register_root] at hr
      rw [Scope.fields, List.map_append, List.mem_append]
      cases Aliases.mem_paths_register.mp hp
      case inl hp => exact .inl (h.joined path hp hr)
      case inr hp => exact .inr (by simp [hp])

theorem existsUnique_join (h : s.Coherent) {path : String} (hp : path ∈ s.aliases.paths)
    (hr : path ≠ s.aliases.root) : ∃! j, j ∈ s.joins ∧ j.field = path := by
  have ⟨j, hj, hf⟩ := List.mem_map.mp (h.joined path hp hr)
  exact ⟨j, ⟨hj, hf⟩, fun i ⟨hi, he⟩ => h.aligned.join_unique hi hj (he.trans hf.symm)⟩

-- Two joins with one alias would be for one path.
theorem aliasNames_nodup (h : s.Coherent) : (s.joins.map (·.aliasName)).Nodup := by
  apply List.Nodup.map_on
  case d => exact h.fields.of_map
  case H =>
    intro i hi j hj ha
    exact h.aligned.join_unique hi hj
      (h.distinct.path_unique (h.lookup i hi) (ha ▸ h.lookup j hj))

-- The root's own name is the one path whose alias is the root's.
theorem aliasName_eq_rootAlias_iff (h : s.Coherent) (hj : j ∈ s.joins) :
    j.aliasName = s.aliases.rootAlias ↔ j.field = s.aliases.root where
  mp ha  := h.distinct.path_unique (h.lookup j hj) (ha ▸ Aliases.lookup_root)
  mpr hf := Option.some_inj.mp <| (h.lookup j hj).symm.trans (hf ▸ Aliases.lookup_root)

end Coherent

-- Asks for several joins, one after the other.
def joinAll (s : Scope) (asked : List (String × JoinKind)) : Scope :=
  asked.foldl (fun s a => s.join a.1 a.2) s

section JoinAll

variable {asked : List (String × JoinKind)}

theorem Coherent.joinAll (h : s.Coherent) : (s.joinAll asked).Coherent := by
  induction asked generalizing s
  case nil          => exact h
  case cons a _ ih  => exact ih (h.join a.1 a.2)

@[simp]
theorem joinAll_root : (s.joinAll asked).aliases.root = s.aliases.root := by
  induction asked generalizing s
  case nil         => rfl
  case cons _ _ ih => exact ih.trans join_root

@[simp]
theorem joinAll_rootAlias : (s.joinAll asked).aliases.rootAlias = s.aliases.rootAlias := by
  induction asked generalizing s
  case nil         => rfl
  case cons _ _ ih => exact ih.trans join_rootAlias

theorem joinAll_append (asked₁ asked₂ : List (String × JoinKind)) :
    s.joinAll (asked₁ ++ asked₂) = (s.joinAll asked₁).joinAll asked₂ :=
  List.foldl_append ..

end JoinAll

section Asked

variable (relationships : List String) (usual : JoinKind)

-- What a path asks for: a join to the relationship that it leads through, if it leads through one.
def asked? (p : FieldPath) : Option (String × JoinKind) :=
  (p.base?.filter relationships.contains).map (·, if p.isNullable then .left else usual)

def askedByColumn (c : Column) : List (String × JoinKind) :=
  c.layout.paths.filterMap (asked? relationships usual)

def askedByFragment (root fragment : String) : List (String × JoinKind) :=
  (Fragment.referencedFields fragment root).filter relationships.contains |>.map (·, usual)

theorem joinPath_eq (p : FieldPath) :
    s.joinPath relationships usual p = s.joinAll (asked? relationships usual p).toList := by
  simp only [joinPath, asked?]
  cases p.base?
  case none      => rfl
  case some base => by_cases h : base ∈ relationships <;> simp [Option.filter, joinAll, h]

theorem joinAll_asked_cons (p : FieldPath) (ps : List FieldPath) :
    s.joinAll ((p :: ps).filterMap (asked? relationships usual))
      = (s.joinPath relationships usual p).joinAll (ps.filterMap (asked? relationships usual)) := by
  rw [joinPath_eq, ← joinAll_append]
  cases h : asked? relationships usual p <;> simp [h]

-- A sub-column has one field, so going through the sub-columns is going through the paths.
theorem joinSubColumns_eq (c : Column) (fs : List SubField) :
    (fs.map c.ofSubField).foldlM (fun s sub =>
        return joinColumn.joinPath? relationships usual s (← sub.fieldPath)) s
      = Except.ok (s.joinAll ((fs.map (·.path)).filterMap (asked? relationships usual))) := by
  induction fs generalizing s
  case nil          => rfl
  case cons f fs ih =>
    rw [List.map_cons, List.map_cons, List.foldlM_cons, joinAll_asked_cons]
    exact ih

theorem joinColumn_eq (c : Column) :
    s.joinColumn relationships usual c = .ok (s.joinAll (askedByColumn relationships usual c)) := by
  unfold joinColumn askedByColumn Column.isMultiField Column.subColumns Column.fieldPath
  cases c.layout
  case empty            => rfl
  case single           => rw [Layout.paths, joinAll_asked_cons]; rfl
  case multi ps _ slots => exact joinSubColumns_eq relationships usual c (SubField.zip ps slots)

theorem joinColumns_eq (columns : List Column) :
    s.joinColumns relationships usual columns
      = .ok (s.joinAll (columns.flatMap (askedByColumn relationships usual))) := by
  induction columns generalizing s
  case nil               => rfl
  case cons c columns ih =>
    rw [List.flatMap_cons, joinAll_append, ← ih, joinColumns, List.foldlM_cons, joinColumn_eq]
    rfl

theorem joinReferences_eq (fragment : String) :
    s.joinReferences relationships usual fragment
      = s.joinAll (askedByFragment relationships usual s.aliases.rootAlias fragment) := by
  simp only [joinReferences, joinAll, askedByFragment, List.foldl_map, List.foldl_filter]

-- Joins leave the root's alias alone, so every fragment refers to the same root.
theorem joinAllReferences_eq (fragments : List String) :
    s.joinAllReferences relationships usual fragments = s.joinAll
      (fragments.flatMap (askedByFragment relationships usual s.aliases.rootAlias)) := by
  induction fragments generalizing s
  case nil                      => rfl
  case cons fragment fragments ih =>
    rw [List.flatMap_cons, joinAll_append, ← joinReferences_eq, joinAllReferences, List.foldl_cons,
      ← joinAllReferences, ih, joinReferences_eq, joinAll_rootAlias]

end Asked

end TableQuery.Scope
