import TableQuery.Plan
import TableQuery.Proofs.Joins
import TableQuery.Proofs.Name

/-!
The scope of a plan: the root, and the joins that the request's columns and then the caller's
fragments ask for.
-/

namespace TableQuery

-- Whether the columns or the caller's fragments lead through one of the entity's relationships.
structure Referenced (entity : Entity) (request : Request) (clauses : Clauses)
    (root field : String) : Prop where
  relationship : field ∈ entity.relationships
  reference    : (∃ column ∈ request.columns, ∃ path ∈ column.layout.paths, path.base? = some field)
    ∨ ∃ fragment ∈ clauses.fragments, field ∈ Fragment.referencedFields fragment root

theorem referenced_iff {entity : Entity} {request : Request} {clauses : Clauses}
    {root field : String} : Referenced entity request clauses root field ↔
      field ∈ entity.relationships ∧
      ((∃ column ∈ request.columns, ∃ path ∈ column.layout.paths, path.base? = some field)
        ∨ ∃ fragment ∈ clauses.fragments, field ∈ Fragment.referencedFields fragment root) where
  mp h := ⟨h.relationship, h.reference⟩
  mpr  := fun ⟨hr, hm⟩ => ⟨hr, hm⟩

-- The relationships that the columns' paths would lead through, as the paths come.
def Request.bases (r : Request) : List String :=
  r.columns.flatMap fun c => c.layout.paths.filterMap (·.base?)

-- The fields that the fragments refer to through the root, as the fragments come.
def Clauses.references (c : Clauses) (root : String) : List String :=
  c.fragments.flatMap (Fragment.referencedFields · root)

namespace Scope

def resolved (entity : Entity) (request : Request) (clauses : Clauses) (settings : Settings) :
    Scope :=
  let start := Scope.ofRoot entity.name settings.aliasLength
  start.joinAll <|
    request.columns.flatMap (askedByColumn entity.relationships settings.joinKind)
      ++ clauses.fragments.flatMap
        (askedByFragment entity.relationships settings.joinKind start.aliases.rootAlias)

variable {entity : Entity} {request : Request} {clauses : Clauses} {settings : Settings}

theorem resolved_coherent : (resolved entity request clauses settings).Coherent :=
  (ofRoot_coherent entity.name settings.aliasLength).joinAll

theorem resolved_root : (resolved entity request clauses settings).aliases.root = entity.name :=
  joinAll_root

theorem resolved_spelled : (resolved entity request clauses settings).aliases.Spelled :=
  spelled_joinAll (Aliases.ofRoot_spelled entity.name settings.aliasLength)

theorem rootAlias_resolved : (resolved entity request clauses settings).aliases.rootAlias
    = (Aliases.ofRoot entity.name settings.aliasLength).rootAlias :=
  joinAll_rootAlias

theorem fields_resolved :
    (resolved entity request clauses settings).fields
      = ((request.bases ++ clauses.references
          (resolved entity request clauses settings).aliases.rootAlias).filter
            entity.relationships.contains).eraseDups := by
  rw [rootAlias_resolved, resolved, fields_joinAll_of_nil rfl]
  simp only [List.map_append, List.map_flatMap, map_fst_askedByColumn, map_fst_askedByFragment,
    Request.bases, Clauses.references, List.filter_append, List.filter_flatMap]
  rfl

theorem mem_fields_resolved {field : String} :
    field ∈ (resolved entity request clauses settings).fields ↔
      Referenced entity request clauses
        (resolved entity request clauses settings).aliases.rootAlias field := by
  rw [fields_resolved, List.mem_eraseDups, List.mem_filter, List.contains_iff_mem, referenced_iff,
    and_comm]
  simp only [List.mem_append, Request.bases, Clauses.references, List.mem_flatMap,
    List.mem_filterMap]

end Scope

end TableQuery
