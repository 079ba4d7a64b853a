import TableQuery.Proofs.Scope

/-!
The order and the kinds of joins. They stand in the order in which they were first asked for, and a
join is a left join if it was ever asked for as one, whatever else it was asked for as.
-/

namespace TableQuery.Scope

variable {s : Scope} {field f : String} {kind : JoinKind} {j : Join}
  {asked : List (String × JoinKind)}

section Order

theorem fields_join :
    (s.join field kind).fields = if field ∈ s.fields then s.fields else s.fields ++ [field] := by
  split
  case isTrue h  => rw [join_of_mem h, fields, adjust_fields, ← fields]
  case isFalse h => rw [join_of_not_mem h, fields, List.map_append, ← fields]; rfl

-- Joins that are there already only hide what is asked for again.
theorem fields_joinAll :
    (s.joinAll asked).fields
      = s.fields ++ ((asked.map (·.1)).filter fun f => f ∉ s.fields).eraseDups := by
  induction asked generalizing s
  case nil          => simp [joinAll]
  case cons a _ ih  =>
    rw [joinAll, List.foldl_cons, ← joinAll, ih, fields_join, List.map_cons]
    by_cases h : a.1 ∈ s.fields
    case pos => rw [if_pos h, List.filter_cons_of_neg (by simpa)]
    case neg =>
      have hf (f : String) :
          decide (f ∉ s.fields ++ [a.1]) = (!f == a.1 && decide (f ∉ s.fields)) := by
        grind
      rw [if_neg h, List.filter_cons_of_pos (by simpa), List.eraseDups_cons, List.filter_filter,
        List.append_assoc, List.singleton_append]
      simp only [hf]

theorem fields_joinAll_of_nil (h : s.joins = []) :
    (s.joinAll asked).fields = (asked.map (·.1)).eraseDups := by
  rw [fields_joinAll, fields, h]
  simp

end Order

section Kinds

-- Whether the field is joined by a left join.
def IsLeft (s : Scope) (f : String) : Prop :=
  ∃ j ∈ s.joins, j.field = f ∧ j.kind = .left

theorem kind_strengthen_eq_left_iff :
    (strengthen kind j).kind = .left ↔ j.kind = .left ∨ kind = .left := by
  cases kind <;> simp [strengthen]

theorem isLeft_join :
    (s.join field kind).IsLeft f ↔ s.IsLeft f ∨ (f = field ∧ kind = .left) := by
  by_cases hm : field ∈ s.fields
  case pos =>
    have ⟨i, hi, hf⟩ := List.mem_map.mp hm
    rw [join_of_mem hm]
    constructor
    case mp =>
      intro ⟨j, hj, hjf, hk⟩
      obtain ⟨i, hi, rfl⟩ := List.mem_map.mp hj
      split at hjf
      case isTrue h =>
        rw [strengthen_field] at hjf
        rw [if_pos h, kind_strengthen_eq_left_iff] at hk
        exact hk.imp (⟨i, hi, hjf, ·⟩) (⟨hjf ▸ h, ·⟩)
      case isFalse h =>
        rw [if_neg h] at hk
        exact .inl ⟨i, hi, hjf, hk⟩
    case mpr =>
      intro h
      cases h
      case inl h =>
        have ⟨i, hi, hif, hk⟩ := h
        refine ⟨_, List.mem_map_of_mem hi, ?_⟩
        split
        case isTrue =>
          exact ⟨strengthen_field.trans hif, kind_strengthen_eq_left_iff.mpr (.inl hk)⟩
        case isFalse => exact ⟨hif, hk⟩
      case inr h =>
        refine ⟨_, List.mem_map_of_mem hi, ?_⟩
        rw [if_pos hf, kind_strengthen_eq_left_iff, strengthen_field]
        exact ⟨hf.trans h.left.symm, .inr h.right⟩
  case neg =>
    rw [join_of_not_mem hm]
    simp [IsLeft, or_and_right, exists_or, eq_comm]

theorem isLeft_joinAll :
    (s.joinAll asked).IsLeft f ↔ s.IsLeft f ∨ (f, .left) ∈ asked := by
  induction asked generalizing s
  case nil          => simp [joinAll]
  case cons a _ ih  =>
    rw [joinAll, List.foldl_cons, ← joinAll, ih, isLeft_join, List.mem_cons, or_assoc,
      Prod.ext_iff, eq_comm (a := a.2)]

theorem Aligned.kind_eq_left_iff (h : s.Aligned) (hj : j ∈ s.joins) :
    j.kind = .left ↔ s.IsLeft j.field where
  mp hk := ⟨j, hj, rfl, hk⟩
  mpr   := fun ⟨_, hi, hf, hk⟩ => h.join_unique hi hj hf ▸ hk

end Kinds

section Asked

variable {relationships : List String} {usual : JoinKind} {c : Column} {root fragment : String}

theorem map_fst_askedByColumn :
    (askedByColumn relationships usual c).map (·.1)
      = (c.layout.paths.filterMap (·.base?)).filter relationships.contains := by
  simp [askedByColumn, asked?, List.map_filterMap, List.filter_filterMap, Function.comp_def]

theorem map_fst_askedByFragment :
    (askedByFragment relationships usual root fragment).map (·.1)
      = (Fragment.referencedFields fragment root).filter relationships.contains := by
  simp [askedByFragment, Function.comp_def]

-- A column asks for a left join by a path that need not lead anywhere, or where this is usual.
theorem left_mem_askedByColumn :
    (f, .left) ∈ askedByColumn relationships usual c ↔
      f ∈ relationships ∧ ∃ path ∈ c.layout.paths, path.base? = some f ∧
        (usual = .left ∨ path.isNullable) := by
  simp only [askedByColumn, asked?, List.mem_filterMap, Option.map_eq_some_iff,
    Option.filter_eq_some_iff, List.contains_iff_mem, Prod.mk.injEq]
  constructor
  case mp =>
    rintro ⟨path, hp, _, ⟨hb, hr⟩, rfl, hk⟩
    exact ⟨hr, path, hp, hb, by grind⟩
  case mpr =>
    rintro ⟨hr, path, hp, hb, hk⟩
    exact ⟨path, hp, f, ⟨hb, hr⟩, rfl, by grind⟩

theorem left_mem_askedByFragment :
    (f, .left) ∈ askedByFragment relationships usual root fragment ↔
      f ∈ relationships ∧ f ∈ Fragment.referencedFields fragment root ∧ usual = .left := by
  simp [askedByFragment]
  tauto

end Asked

end TableQuery.Scope
