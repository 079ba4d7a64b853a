import TableQuery.Proofs.Fragment
import TableQuery.Proofs.Plan.Statement

/-!
The caller's fragments in a plan. All of their references to relationships have been written by
aliases, and nothing in them would be written in another way again.
-/

namespace TableQuery.Plan

variable {entity : Entity} {request : Request} {clauses : Clauses} {settings : Settings} {p : Plan}

section Prepare

variable (h : prepare entity request clauses settings = .ok p)
include h

theorem root_ne_empty_of_prepare : p.root ≠ "" :=
  root_eq_of_prepare h ▸ Aliases.rootAlias_ofRoot_ne_empty entity.name

-- A relationship would have the root's alias if it had the entity's name.
theorem readable_of_prepare (he : Text.IsName entity.name)
    (hr : entity.name ∉ entity.relationships) :
    Fragment.Readable p.scope.aliases entity.relationships := by
  have hs := spelled_of_prepare h
  have hd := (coherent_of_prepare h).distinct
  have hn := root_of_prepare h
  constructor
  case root     => exact hs.isName_of_lookup Aliases.lookup_root (hn ▸ he)
  case nonempty => exact mt String.toList_eq_nil_iff.mp (root_ne_empty_of_prepare h)
  case others =>
    intro field a hw ha
    have ⟨hf, hl⟩ := Option.ite_none_right_eq_some.mp ha
    refine ⟨hs.isName_of_lookup hl (by rwa [Text.IsName, String.toList_ofList]), fun hx => ?_⟩
    have hp := hd.path_unique (hx ▸ hl) Aliases.lookup_root
    rw [List.contains_iff_mem, hp, hn] at hf
    exact hr hf

theorem exists_join_of_referenced {fragment field : String} (hf : fragment ∈ clauses.fragments)
    (hm : field ∈ Fragment.referencedFields fragment p.root) (hr : field ∈ entity.relationships) :
    ∃ j ∈ p.scope.joins, j.field = field :=
  List.mem_map.mp ((mem_fields_of_prepare h field).mpr ⟨hr, .inr ⟨fragment, hf, hm⟩⟩)

end Prepare

theorem rewriting_complete (h : prepare entity request clauses settings = .ok p)
    (he : Text.IsName entity.name) (hr : entity.name ∉ entity.relationships) :
    p.clauses = clauses.mapFragments (Fragment.resolve p.scope.aliases entity.relationships) ∧
    (∀ f ∈ p.clauses.fragments,
      (∀ field ∈ Fragment.referencedFields f p.root, field ∉ entity.relationships) ∧
      Fragment.resolve p.scope.aliases entity.relationships f = f) ∧
    ∀ f ∈ clauses.fragments,
      Text.literals (Fragment.resolve p.scope.aliases entity.relationships f) = Text.literals f ∧
      ∀ field ∈ Fragment.referencedFields f p.root, field ∈ entity.relationships →
        ∃ j ∈ p.scope.joins, j.field = field := by
  have hb := readable_of_prepare h he hr
  have hc := clauses_of_prepare h
  refine ⟨hc, ?rewritten, ?original⟩
  case rewritten =>
    rw [hc]
    refine Clauses.forall_mem_mapFragments fun f hf => ⟨fun field hm hx => ?_, hb.resolve_resolve f⟩
    have ⟨hm, ha⟩ := hb.mem_referencedFields_resolve.mp hm
    have ⟨j, hj, hjf⟩ := exists_join_of_referenced h hf hm hx
    have hl := (coherent_of_prepare h).lookup j hj
    rw [Fragment.aliasOf?, String.ofList_toList, if_pos (List.contains_iff_mem.mpr hx), ← hjf,
      hl] at ha
    contradiction
  case original =>
    exact fun f hf => ⟨hb.literals_resolve f, fun field => exists_join_of_referenced h hf⟩

-- What stands in quotes is not a reference, so it stays in the text that is looked through again.
theorem rewriting_complete_of_quoted :
    ∃ p, prepare { name := "P", relationships := ["c"] } {}
        { conditions := ["p.c.a <> 'p.c.b'"] } {} = .ok p ∧
      p.clauses.fragments = ["c_1.a <> 'p.c.b'"] ∧
      Fragment.referencedFields "c_1.a <> 'p.c.b'" p.root = [] ∧
      Fragment.resolve p.scope.aliases ["c"] "c_1.a <> 'p.c.b'" = "c_1.a <> 'p.c.b'" ∧
      ∃ j ∈ p.scope.joins, j.field = "c" := by
  refine exists_prepare (check_eq_ok_of_order_eq_nil rfl rfl (by decide) rfl) fun hp => ?_
  have ⟨_, hr, ho⟩ := rewriting_complete hp (by decide) (by decide)
  have hf : (prepared { name := "P", relationships := ["c"] } {}
      { conditions := ["p.c.a <> 'p.c.b'"] } {}).clauses.fragments = ["c_1.a <> 'p.c.b'"] := by
    decide +kernel
  have ⟨_, hs⟩ := hr "c_1.a <> 'p.c.b'" (hf ▸ List.mem_cons_self)
  have ⟨_, hj⟩ := ho "p.c.a <> 'p.c.b'" List.mem_cons_self
  refine ⟨hf, ?fields, hs, hj "c" ?reference List.mem_cons_self⟩
  case fields    => decide +kernel
  case reference => decide +kernel

end TableQuery.Plan
