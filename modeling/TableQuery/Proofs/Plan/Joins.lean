import TableQuery.Proofs.Joins
import TableQuery.Proofs.Plan.Statement

/-!
The joins of a plan: which they are, in which order they stand and of which kind each one is, told
from the request, the caller's fragments and the settings alone.
-/

namespace TableQuery

namespace Scope

variable {entity : Entity} {request : Request} {clauses : Clauses} {settings : Settings}

-- Fragments only ask for joins of the usual kind.
theorem isLeft_resolved_iff {field : String} :
    (resolved entity request clauses settings).IsLeft field ↔
      Referenced entity request clauses
        (resolved entity request clauses settings).aliases.rootAlias field ∧
      (settings.joinKind = .left ∨ ∃ column ∈ request.columns, ∃ path ∈ column.layout.paths,
        path.base? = some field ∧ path.isNullable) := by
  have hn : ¬(ofRoot entity.name settings.aliasLength).IsLeft field := by simp [IsLeft, ofRoot]
  rw [rootAlias_resolved, resolved, isLeft_joinAll, or_iff_right hn]
  simp only [List.mem_append, List.mem_flatMap, left_mem_askedByColumn, left_mem_askedByFragment]
  constructor
  case mp =>
    intro h
    cases h
    case inl h =>
      obtain ⟨column, hc, hr, path, hp, hb, hk⟩ := h
      exact ⟨⟨hr, .inl ⟨column, hc, path, hp, hb⟩⟩, hk.imp_right (⟨column, hc, path, hp, hb, ·⟩)⟩
    case inr h =>
      obtain ⟨fragment, hf, hr, hm, hk⟩ := h
      exact ⟨⟨hr, .inr ⟨fragment, hf, hm⟩⟩, .inl hk⟩
  case mpr =>
    rintro ⟨hr, hk⟩
    cases hk
    case inl hk =>
      cases hr.reference
      case inl h =>
        obtain ⟨column, hc, path, hp, hb⟩ := h
        exact .inl ⟨column, hc, hr.relationship, path, hp, hb, .inl hk⟩
      case inr h =>
        obtain ⟨fragment, hf, hm⟩ := h
        exact .inr ⟨fragment, hf, hr.relationship, hm, hk⟩
    case inr hk =>
      obtain ⟨column, hc, path, hp, hb, hn⟩ := hk
      exact .inl ⟨column, hc, hr.relationship, path, hp, hb, .inr hn⟩

end Scope

namespace Plan

variable {entity : Entity} {request : Request} {clauses : Clauses} {settings : Settings}
  {p p' : Plan} {columns : List Column}

theorem fields_of_prepare (h : prepare entity request clauses settings = .ok p) :
    p.scope.joins.map (·.field)
      = ((request.bases ++ clauses.references p.root).filter
          entity.relationships.contains).eraseDups := by
  rw [root, scope_of_prepare h]
  exact Scope.fields_resolved

theorem kind_eq_left_iff_of_prepare (h : prepare entity request clauses settings = .ok p)
    {j : Join} (hj : j ∈ p.scope.joins) :
    j.kind = .left ↔ settings.joinKind = .left ∨ ∃ column ∈ request.columns,
      ∃ path ∈ column.layout.paths, path.base? = some j.field ∧ path.isNullable := by
  have hr := (mem_fields_of_prepare h j.field).mp (List.mem_map_of_mem hj)
  rw [(coherent_of_prepare h).aligned.kind_eq_left_iff hj, scope_of_prepare h,
    Scope.isLeft_resolved_iff]
  rw [root, scope_of_prepare h] at hr
  exact and_iff_right hr

theorem kinds_nodup_of_prepare (h : prepare entity request clauses settings = .ok p) :
    (p.scope.joins.map fun j => (j.field, j.kind)).Nodup := by
  have hf := (coherent_of_prepare h).fields
  refine .of_map Prod.fst ?_
  rwa [List.map_map]

-- A join is told by its field and its kind, and these by what the request's columns hold.
theorem mem_kinds_of_prepare (h : prepare entity request clauses settings = .ok p)
    {field : String} {kind : JoinKind} :
    (field, kind) ∈ p.scope.joins.map (fun j => (j.field, j.kind)) ↔
      Referenced entity request clauses p.root field ∧
      (kind = .left ↔ settings.joinKind = .left ∨ ∃ column ∈ request.columns,
        ∃ path ∈ column.layout.paths, path.base? = some field ∧ path.isNullable) := by
  rw [← mem_fields_of_prepare h]
  constructor
  case mp =>
    intro hm
    have ⟨j, hj, he⟩ := List.mem_map.mp hm
    cases he
    exact ⟨List.mem_map_of_mem hj, kind_eq_left_iff_of_prepare h hj⟩
  case mpr =>
    intro ⟨hf, hk⟩
    have ⟨j, hj, he⟩ := List.mem_map.mp hf
    subst he
    rw [← kind_eq_left_iff_of_prepare h hj] at hk
    have he : j.kind = kind := by cases kind <;> cases hj : j.kind <;> simp_all
    exact List.mem_map.mpr ⟨j, hj, congrArg (j.field, ·) he⟩

theorem prepare_columns_perm (h : prepare entity request clauses settings = .ok p)
    (hc : columns.Perm request.columns) :
    ∃ p', prepare entity { request with columns } clauses settings = .ok p' := by
  have ⟨hs, he, hv⟩ := check_eq_ok_iff.mp (prepare_eq_ok_iff.mp h).left
  have ⟨hl, ho⟩ := Request.validate_eq_ok_iff.mp hv
  refine ⟨_, prepare_eq_ok_iff.mpr ⟨check_eq_ok_iff.mpr ⟨hs, he, ?_⟩, rfl⟩⟩
  refine Request.validate_eq_ok_iff.mpr ⟨hl, fun o hm => ?_⟩
  rw [Request.InRange, hc.length_eq]
  exact ho o hm

-- A path with a single segment leads through no relationship, so a mark on it asks for nothing.
theorem joins_first_seen (h : prepare entity request clauses settings = .ok p) :
    p.scope.joins.map (·.field)
      = ((request.bases ++ clauses.references p.root).filter
          entity.relationships.contains).eraseDups ∧
    (∀ j ∈ p.scope.joins, j.kind = .left ↔ settings.joinKind = .left ∨
      ∃ column ∈ request.columns, ∃ path ∈ column.layout.paths,
        path.base? = some j.field ∧ path.isNullable) ∧
    ∀ columns, columns.Perm request.columns →
      ∃ p', prepare entity { request with columns } clauses settings = .ok p' ∧
        (p'.scope.joins.map fun j => (j.field, j.kind)).Perm
          (p.scope.joins.map fun j => (j.field, j.kind)) := by
  refine ⟨fields_of_prepare h, fun _ => kind_eq_left_iff_of_prepare h, fun columns hc => ?_⟩
  have ⟨p', h'⟩ := prepare_columns_perm h hc
  refine ⟨p', h', (List.perm_ext_iff_of_nodup (kinds_nodup_of_prepare h')
    (kinds_nodup_of_prepare h)).mpr fun (field, kind) => ?_⟩
  have hr : p'.root = p.root := (root_eq_of_prepare h').trans (root_eq_of_prepare h).symm
  have hm {P : Column → Prop} : (∃ c ∈ columns, P c) ↔ ∃ c ∈ request.columns, P c := by
    simp only [hc.mem_iff]
  simp only [mem_kinds_of_prepare h', mem_kinds_of_prepare h, referenced_iff, hr, hm]

-- The second column wants a left join where the first was content with an inner one; the fragment
-- refers to one more relationship, and to a field that is none.
theorem joins_first_seen_of_nullable :
    ∃ p, prepare { name := "Parent", relationships := ["child", "owner", "city"] }
        { columns := [.ofDescriptor "owner.name + child.a" "", .ofDescriptor "child?.b" ""] }
        { conditions := ["parent.city.x = parent.address.y"] } { joinKind := .inner } = .ok p ∧
      p.scope.joins.map (·.field) = ["owner", "child", "city"] ∧
      (∀ j ∈ p.scope.joins, j.field = "child" → j.kind = .left) ∧
      ∃ p', prepare { name := "Parent", relationships := ["child", "owner", "city"] }
        { columns := [.ofDescriptor "child?.b" "", .ofDescriptor "owner.name + child.a" ""] }
        { conditions := ["parent.city.x = parent.address.y"] } { joinKind := .inner } = .ok p' ∧
        ("child", .left) ∈ p'.scope.joins.map fun j => (j.field, j.kind) := by
  refine exists_prepare (check_eq_ok_of_order_eq_nil rfl rfl (by decide) rfl) fun hp => ?_
  generalize hq : prepared _ _ _ _ = p at hp ⊢
  obtain ⟨hf, hk, hc⟩ := joins_first_seen hp
  have hn : ⟨[⟨"child", true⟩, ⟨"b", false⟩]⟩ ∈
      (Column.ofDescriptor "child?.b" "").layout.paths := by
    decide +kernel
  have hl : ∀ j ∈ p.scope.joins, j.field = "child" → j.kind = .left := fun j hj he =>
    (hk j hj).mpr (.inr ⟨_, List.mem_cons_of_mem _ List.mem_cons_self, _, hn, he ▸ rfl, rfl⟩)
  have ho : p.scope.joins.map (·.field) = ["owner", "child", "city"] := by
    rw [hf, ← hq]
    decide +kernel
  obtain ⟨p', hp', hm⟩ := hc _ (.swap _ _ [])
  refine ⟨ho, hl, p', hp', hm.mem_iff.mpr ?_⟩
  have hj : "child" ∈ p.scope.joins.map (·.field) := by simp [ho]
  have ⟨j, hj, he⟩ := List.mem_map.mp hj
  exact List.mem_map.mpr ⟨j, hj, Prod.ext he (hl j hj he)⟩

-- The mark is on the child itself, not on the way through it, so its join stays an inner one.
theorem inner_join_of_marked_field :
    ∃ p, prepare { name := "Parent", relationships := ["child"] }
        { columns := [.ofDescriptor "child?" "", .ofDescriptor "child.name" ""] } {}
        { joinKind := .inner } = .ok p ∧
      (∃ j ∈ p.scope.joins, j.field = "child" ∧ j.kind = .inner) ∧
      ∃ column ∈ p.request.columns, ∃ path ∈ column.layout.paths,
        path.segments.head?.map (·.name) = some "child" ∧ path.isNullable := by
  refine exists_prepare (check_eq_ok_of_order_eq_nil rfl rfl (by decide) rfl) fun hp => ?_
  refine ⟨by decide +kernel, .ofDescriptor "child?" "", ?mem, ⟨[⟨"child", true⟩]⟩, ?path, rfl, rfl⟩
  case mem  => exact List.mem_cons_self
  case path => decide +kernel

end Plan

end TableQuery
