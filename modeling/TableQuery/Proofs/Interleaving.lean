import TableQuery.Proofs.Joins
import TableQuery.Proofs.Registry

/-!
Joins next to a registry with which paths are registered for other ends as well. Whatever is
registered in between, the joins keep their places and their aliases; all that ever changes is that
an inner join becomes a left one.
-/

namespace TableQuery

-- What can become of a join.
def Join.Becomes (i j : Join) : Prop :=
  j = i ∨ j = { i with kind := .left }

namespace Scope

-- What can be done with the registry and the joins, in any order.
inductive Action
  | register (path : String)
  | join (field : String) (kind : JoinKind)
  | joinColumn (c : Column) (relationships : List String) (usual : JoinKind)

-- The joins that are asked for.
def Action.asked : Action → List (String × JoinKind)
  | register _                       => []
  | join field kind                  => [(field, kind)]
  | joinColumn c relationships usual => askedByColumn relationships usual c

def register (s : Scope) (path : String) : Scope :=
  { s with aliases := s.aliases.register path }

def act (s : Scope) : Action → Except ColumnError Scope
  | .register path                    => .ok (s.register path)
  | .join field kind                  => .ok (s.join field kind)
  | .joinColumn c relationships usual => s.joinColumn relationships usual c

def after (s : Scope) (actions : List Action) : Except ColumnError Scope :=
  actions.foldlM act s

variable {s s' s'' : Scope} {field path f : String} {kind : JoinKind} {j : Join}
  {asked : List (String × JoinKind)}

section Induction

variable {P : List (String × JoinKind) → Scope → Prop}
  (hr : ∀ {asked s path}, P asked s → P asked (register s path))
  (hj : ∀ {asked s field kind}, P asked s → P (asked ++ [(field, kind)]) (join s field kind))
include hj

theorem joinAll_induction (more : List (String × JoinKind)) (h : P asked s) :
    P (asked ++ more) (s.joinAll more) := by
  induction more generalizing asked s
  case nil             => rwa [List.append_nil]
  case cons a more ih  => exact List.append_cons asked a more ▸ ih (hj h)

include hr

-- A column asks for its joins one after the other, so it is enough to look at a path that is
-- registered and at one join that is asked for. Neither fails, and therefore no action does.
theorem act_induction (a : Action) (h : P asked s) :
    ∃ s', s.act a = .ok s' ∧ P (asked ++ a.asked) s' := by
  cases a
  case register path    => exact ⟨_, rfl, (List.append_nil asked).symm ▸ hr h⟩
  case join field kind  => exact ⟨_, rfl, hj h⟩
  case joinColumn c relationships usual =>
    exact ⟨_, joinColumn_eq relationships usual c, joinAll_induction hj _ h⟩

theorem after_induction (actions : List Action) (h : P asked s) :
    ∃ s', s.after actions = .ok s' ∧ P (asked ++ actions.flatMap (·.asked)) s' := by
  induction actions generalizing asked s
  case nil => exact ⟨s, rfl, (List.append_nil asked).symm ▸ h⟩
  case cons a actions ih =>
    obtain ⟨s₁, ha, h₁⟩ := act_induction hr hj a h
    obtain ⟨s', hs, h'⟩ := ih h₁
    refine ⟨s', ?_, ?_⟩
    · rw [after, List.foldlM_cons, ha]
      exact hs
    · rwa [List.flatMap_cons, ← List.append_assoc]

end Induction

theorem Aligned.register (h : s.Aligned) (path : String) : (s.register path).Aligned where
  fields       := h.fields
  parent j hj  := Aliases.register_rootAlias (a := s.aliases) ▸ h.parent j hj
  lookup j hj  := Aliases.lookup_register_of_some (h.lookup j hj)

-- What holds of the joins after all that has been asked for.
structure Maintained (asked : List (String × JoinKind)) (s : Scope) : Prop where
  aligned : s.Aligned
  order   : s.fields = (asked.map (·.1)).eraseDups
  kind    : ∀ j ∈ s.joins, j.kind = .left ↔ (j.field, .left) ∈ asked

namespace Maintained

theorem start (aliases : Aliases) : Maintained [] { aliases } where
  aligned   := ⟨List.nodup_nil, nofun, nofun⟩
  order     := rfl
  kind _    := nofun

theorem isLeft_iff (h : Maintained asked s) : s.IsLeft f ↔ (f, .left) ∈ asked := by
  constructor
  case mp =>
    intro ⟨j, hj, hf, hk⟩
    exact hf ▸ (h.kind j hj).mp hk
  case mpr =>
    intro hm
    have hf : f ∈ s.fields := by
      rw [h.order, List.mem_eraseDups]
      exact List.mem_map_of_mem hm
    have ⟨j, hj, hjf⟩ := List.mem_map.mp hf
    exact ⟨j, hj, hjf, (h.kind j hj).mpr (hjf ▸ hm)⟩

theorem register (h : Maintained asked s) : Maintained asked (s.register path) :=
  ⟨h.aligned.register path, h.order, h.kind⟩

theorem join (h : Maintained asked s) :
    Maintained (asked ++ [(field, kind)]) (s.join field kind) where
  aligned := h.aligned.join field kind
  order := by
    rw [fields_join, h.order, List.map_append, List.eraseDups_append]
    by_cases hm : field ∈ asked.map (·.1)
    case pos => simp [List.removeAll, hm]
    case neg => simp [List.removeAll, hm, List.eraseDups_cons]
  kind j hj := by
    rw [(h.aligned.join field kind).kind_eq_left_iff hj, isLeft_join, h.isLeft_iff]
    simp [eq_comm]

end Maintained

-- That every join is still in its place, as itself or as a left join.
def Grown (s s' : Scope) : Prop :=
  ∀ (n : Nat) (i : Join), s.joins[n]? = some i → ∃ j, s'.joins[n]? = some j ∧ i.Becomes j

theorem becomes_strengthen (kind : JoinKind) (i : Join) : i.Becomes (strengthen kind i) := by
  cases kind
  case inner => exact .inl rfl
  case left  => exact .inr rfl

namespace Grown

theorem refl (s : Scope) : s.Grown s :=
  fun _ i hi => ⟨i, hi, .inl rfl⟩

theorem trans (h : s.Grown s') (h' : s'.Grown s'') : s.Grown s'' := by
  intro n i hi
  obtain ⟨j, hj, hij⟩ := h n i hi
  obtain ⟨k, hk, hjk⟩ := h' n j hj
  refine ⟨k, hk, ?_⟩
  cases hij
  case inl he => exact he ▸ hjk
  case inr he =>
    subst he
    exact .inr (hjk.elim id id)

theorem register (h : s.Grown s') : s.Grown (s'.register path) :=
  h

theorem join (s : Scope) (field : String) (kind : JoinKind) : s.Grown (s.join field kind) := by
  intro n i hi
  by_cases hm : field ∈ s.fields
  case pos =>
    rw [join_of_mem hm, adjust, List.getElem?_map, hi]
    refine ⟨_, rfl, ?_⟩
    change i.Becomes (if i.field = field then strengthen kind i else i)
    split
    case isTrue  => exact becomes_strengthen kind i
    case isFalse => exact .inl rfl
  case neg =>
    rw [join_of_not_mem hm]
    exact ⟨i, List.getElem?_append_left (List.getElem?_eq_some_iff.mp hi).1 ▸ hi, .inl rfl⟩

end Grown

-- The root's alias stays, so a join is always from it. A field that is registered before it is
-- joined has its alias from then on.
theorem joins_maintained (root : String) (length : Nat) (earlier : List Aliases.Action)
    (actions : List Action) :
    ∃ s, after { aliases := (Aliases.ofRoot root length).after earlier } actions = .ok s ∧
      Maintained (actions.flatMap (·.asked)) s ∧
      ∀ more, ∃ s', s.after more = .ok s' ∧ s.Grown s' := by
  have ⟨s, hs, hm⟩ := after_induction Maintained.register Maintained.join actions
    (Maintained.start ((Aliases.ofRoot root length).after earlier))
  refine ⟨s, hs, hm, fun more => ?_⟩
  have ⟨s', hs', hg⟩ := @after_induction s [] (fun _ s' => s.Grown s') Grown.register
    (fun h => h.trans (.join _ _ _)) more (.refl s)
  exact ⟨s', hs', hg⟩

-- `child` has been registered for another end by the time it is joined.
example :
    ((ofRoot "Parent" 5).after [.register "child", .join "owner" .inner, .joinColumn
      (.ofDescriptor "owner.b + child?.a" "") ["child", "owner"] .inner]).toOption.map (·.joins)
      = some [⟨"parent", "owner", "owner_2", .inner⟩, ⟨"parent", "child", "child_1", .left⟩] := by
  decide +kernel

end Scope

end TableQuery
