import TableQuery.Proofs.Fragment
import TableQuery.Text.Blank

/-!
What stands in front of the references of a fragment. Aliases are written in the places of names, so
the words that a fragment opens with are the ones it had before it was rewritten.
-/

namespace TableQuery.Fragment

open Text

variable {root opening cs ds : List Char} {c : Char} {quoted : Bool} {before before' : Option Char}

theorem prefix_of_prefix_append_cons (hc : c ∉ opening) (h : opening <+: cs ++ c :: ds) :
    opening <+: cs := by
  have hx : cs ++ [c] <+: cs ++ c :: ds := by simp
  cases List.prefix_or_prefix_of_prefix h hx
  case inl h =>
    cases List.prefix_concat_iff.mp h
    case inl h => exact absurd (h ▸ List.mem_concat_self) hc
    case inr h => exact h
  case inr h => exact absurd (h.mem List.mem_concat_self) hc

theorem forall_mem_getLast?_tail {P : Char → Prop} (h : ∀ d ∈ (c :: cs).getLast?, P d) :
    ∀ d ∈ cs.getLast?, P d := by
  intro d hd
  refine h d ?_
  rw [List.getLast?_cons, hd]
  rfl

-- An opening has nothing of a path or a literal in it, and ends where a word is over.
structure Closed (opening : List Char) : Prop where
  point : '.' ∉ opening
  quote : '\'' ∉ opening
  last  : ∀ c ∈ opening.getLast?, ¬isWord c

namespace Closed

theorem tail (h : Closed (c :: opening)) : Closed opening where
  point := fun hm => h.point (List.mem_cons_of_mem c hm)
  quote := fun hm => h.quote (List.mem_cons_of_mem c hm)
  last  := forall_mem_getLast?_tail h.last

theorem eq_nil (h : Closed opening) (hw : ∀ c ∈ opening, isWord c) : opening = [] := by
  by_contra hn
  have hl := List.getLast?_eq_some_getLast hn
  exact h.last _ hl (hw _ (List.mem_of_getLast? hl))

theorem prefix_cons (h : Closed opening) (hp : opening <+: c :: ds)
    (ih : ∀ {opening}, Closed opening → opening <+: ds → opening <+: cs) :
    opening <+: c :: cs := by
  cases opening
  case nil => exact List.nil_prefix
  case cons d opening =>
    have ⟨hc, hp⟩ := List.cons_prefix_cons.mp hp
    exact List.cons_prefix_cons.mpr ⟨hc, ih h.tail hp⟩

theorem isBoundary_getLast? (h : Closed opening) : isBoundary opening.getLast? := by
  cases hl : opening.getLast?
  case none   => rfl
  case some c =>
    have hw := h.last c hl
    have hp : c ≠ '.' := fun hc => h.point (hc ▸ List.mem_of_getLast? hl)
    simp [isBoundary, hw, hp]

end Closed

section Resolve

variable {aliases : Aliases} {relationships : List String}

-- Of the references only those are written in another way that get an alias, and what is left of
-- the opening there would have to be a part of it.
theorem Closed.prefix_of_prefix_written (hs : aliases.Spelled) (ho : Closed opening)
    (h : opening <+: written aliases relationships
      (piecesFrom aliases.rootAlias.toList quoted before cs)) : opening <+: cs := by
  fun_induction piecesFrom aliases.rootAlias.toList quoted before cs generalizing opening with
  | case1 => exact h
  | case2 quoted before cs ih => exact ho.prefix_cons (written_char _ ▸ h) ih
  | case3 quoted before c cs _ _ field rest hr _ =>
    obtain ⟨hc, _, hw⟩ := reference?_eq_some_iff.mp hr
    rw [written, List.flatMap_cons, Piece.resolved_reference] at h
    cases ha : aliasOf? aliases relationships field
    case none   =>
      simp only [ha, List.append_assoc, List.cons_append] at h
      rw [hc]
      exact (prefix_of_prefix_append_cons ho.point h).trans (List.prefix_append ..)
    case some a =>
      simp only [ha, List.append_assoc, List.cons_append] at h
      have hp := prefix_of_prefix_append_cons ho.point h
      have hl := (Option.ite_none_right_eq_some.mp ha).right
      have hn := hs.isName_of_lookup hl (by rwa [IsName, String.toList_ofList])
      rw [ho.eq_nil fun c hc => hn c (hp.mem hc)]
      exact List.nil_prefix
  | case4 quoted before c cs _ _ _ ih => exact ho.prefix_cons (written_char _ ▸ h) ih
  | case5 quoted before c cs _ _ ih => exact ho.prefix_cons (written_char _ ▸ h) ih

theorem Closed.prefix_of_prefix_resolve {fragment : String} (hs : aliases.Spelled)
    (ho : Closed opening) (h : opening <+: (resolve aliases relationships fragment).toList) :
    opening <+: fragment.toList := by
  rw [toList_resolve] at h
  exact ho.prefix_of_prefix_written hs h

end Resolve

-- What is in front of a text counts only as a boundary.
theorem piecesFrom_congr_before (h : isBoundary before = isBoundary before') :
    piecesFrom root quoted before cs = piecesFrom root quoted before' cs := by
  cases cs
  case nil  => rw [piecesFrom, piecesFrom]
  case cons => rw [piecesFrom, piecesFrom, h]

-- A reference that started in an opening would have the end of it in the root's name.
theorem reference?_cons_eq_none (hp : '.' ∉ c :: ds) (hl : ∀ d ∈ (c :: ds).getLast?, d ∉ root) :
    reference? root (c :: (ds ++ cs)) = none := by
  rw [Option.eq_none_iff_forall_ne_some]
  intro (field, rest) hs
  have ⟨hc, _⟩ := reference?_eq_some_iff.mp hs
  have ho : c :: ds <+: c :: (ds ++ cs) := List.prefix_append (c :: ds) cs
  have hr := prefix_of_prefix_append_cons hp (hc ▸ ho)
  have hd := List.getLast?_eq_some_getLast (List.cons_ne_nil c ds)
  exact hl _ hd (hr.mem (List.mem_of_getLast? hd))

theorem Closed.piecesFrom_append (h : Closed opening) (hl : ∀ c ∈ opening.getLast?, c ∉ root) :
    piecesFrom root quoted before (opening ++ cs)
      = opening.map .char ++ piecesFrom root quoted (opening.getLast?.or before) cs := by
  induction opening generalizing before
  case nil => rfl
  case cons c opening ih =>
    have hq : c ≠ '\'' := fun hc => h.quote (hc ▸ List.mem_cons_self)
    rw [List.cons_append, piecesFrom_cons_of_none hq (reference?_cons_eq_none h.point hl),
      ih h.tail (forall_mem_getLast?_tail hl), Placeholder.getLast?_cons_or]
    rfl

theorem Closed.resolve_append {aliases : Aliases} {s : String} (h : Closed s.toList)
    (hl : ∀ c ∈ s.toList.getLast?, c ∉ aliases.rootAlias.toList)
    (relationships : List String) (t : String) :
    resolve aliases relationships (s ++ t) = s ++ resolve aliases relationships t := by
  have hb : isBoundary (s.toList.getLast?.or none) = isBoundary none := by
    rw [Option.or_none]
    exact h.isBoundary_getLast?
  have hc (cs : List Char) : written aliases relationships (cs.map .char) = cs := by
    simp [written, List.flatMap_map, Piece.resolved]
  rw [← String.toList_inj, String.toList_append, toList_resolve, toList_resolve, pieces, pieces,
    String.toList_append, h.piecesFrom_append hl, piecesFrom_congr_before hb, written,
    List.flatMap_append, ← written, hc, ← written]

end TableQuery.Fragment
