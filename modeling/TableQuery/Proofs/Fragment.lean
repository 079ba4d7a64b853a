import TableQuery.Proofs.Name
import TableQuery.Proofs.Quotation

/-!
What references are written as, and how the text that comes of it is read again. A path that is
written for a reference is read as a run of characters, and all that is left of the references is
found where it was.
-/

namespace TableQuery.Fragment

open Text

variable {root field rest cs ds : List Char} {c : Char} {quoted : Bool} {before : Option Char}

-- What paths are written with.
def isPath (c : Char) : Bool :=
  isWord c || c == '.'

theorem isPath_of_isWord (h : isWord c) : isPath c := by
  rw [isPath, h, Bool.true_or]

theorem not_isBoundary_of_isPath (h : isPath c) : ¬isBoundary (some c) := by
  grind [isBoundary, isPath]

theorem ne_quote_of_isPath (h : isPath c) : c ≠ '\'' := by
  intro hc
  rw [hc] at h
  exact absurd h (by decide)

theorem takeWhile_isWord_append (h : ∀ c ∈ ds, isWord c) :
    (ds ++ '.' :: cs).takeWhile isWord = ds := by
  rw [List.takeWhile_append_of_pos h, List.takeWhile_cons_of_neg (by decide), List.append_nil]

theorem dropWhile_isWord_append (h : ∀ c ∈ ds, isWord c) :
    (ds ++ '.' :: cs).dropWhile isWord = '.' :: cs := by
  rw [List.dropWhile_append_of_pos h, List.dropWhile_cons_of_neg (by decide)]

theorem reference?_eq_some_iff :
    reference? root cs = some (field, rest) ↔
      cs = root ++ '.' :: (field ++ '.' :: rest) ∧ field ≠ [] ∧ ∀ c ∈ field, isWord c := by
  simp only [reference?, Option.bind_eq_bind, Option.bind_eq_some_iff, strip?_eq_some_iff]
  constructor
  case mp =>
    rintro ⟨ds, hc, h⟩
    split at h
    case isTrue  => contradiction
    case isFalse he =>
      obtain ⟨tail, hd, h⟩ := Option.bind_eq_some_iff.mp h
      obtain ⟨hf, hr⟩ := Prod.mk.inj (Option.some.inj h)
      have hs := @List.takeWhile_append_dropWhile _ isWord ds
      rw [hf, strip?_eq_some_iff.mp hd, hr] at hs
      refine ⟨by rw [hc, ← hs, List.append_assoc]; rfl, ?_, ?_⟩
      · rw [← hf]
        exact fun hn => he (List.isEmpty_iff.mpr hn)
      · rw [← hf]
        exact List.all_eq_true.mp List.all_takeWhile
  case mpr =>
    rintro ⟨hc, hn, hw⟩
    refine ⟨field ++ '.' :: rest, by rw [hc, List.append_assoc]; rfl, ?_⟩
    rw [takeWhile_isWord_append hw, dropWhile_isWord_append hw,
      if_neg (mt List.isEmpty_iff.mp hn)]
    rfl

-- A reference is all path characters, so nothing behind the path at the head of a text counts.
theorem reference?_isSome_iff (hr : ∀ c ∈ root, isWord c) :
    (reference? root cs).isSome ↔ ∃ field : List Char, field ≠ [] ∧ (∀ c ∈ field, isWord c) ∧
      root ++ '.' :: (field ++ ['.']) <+: cs.takeWhile isPath := by
  rw [Option.isSome_iff_exists]
  constructor
  case mp =>
    intro ⟨(field, rest), h⟩
    have ⟨hc, hn, hw⟩ := reference?_eq_some_iff.mp h
    have hp : ∀ c ∈ root ++ '.' :: (field ++ ['.']), isPath c := by
      grind [isPath]
    refine ⟨field, hn, hw, rest.takeWhile isPath, ?_⟩
    rw [← List.takeWhile_append_of_pos hp, hc]
    simp
  case mpr =>
    intro ⟨field, hn, hw, hp⟩
    have ⟨rest, hc⟩ := hp.trans (List.takeWhile_prefix isPath)
    exact ⟨(field, rest), reference?_eq_some_iff.mpr ⟨by rw [← hc]; simp, hn, hw⟩⟩

theorem reference?_eq_none_congr (hr : ∀ c ∈ root, isWord c)
    (h : cs.takeWhile isPath = ds.takeWhile isPath) :
    reference? root cs = none ↔ reference? root ds = none := by
  rw [← Option.not_isSome_iff_eq_none, ← Option.not_isSome_iff_eq_none, reference?_isSome_iff hr,
    reference?_isSome_iff hr, h]

-- A path starts with one name only.
theorem reference?_append_eq_none {name : List Char} (hr : ∀ c ∈ root, isWord c)
    (hn : ∀ c ∈ name, isWord c) (h : name ≠ root) : reference? root (name ++ '.' :: cs) = none := by
  rw [Option.eq_none_iff_forall_ne_some]
  intro (field, rest) hs
  have ⟨hc, _⟩ := reference?_eq_some_iff.mp hs
  have hw := congrArg (List.takeWhile isWord) hc
  rw [takeWhile_isWord_append hn, takeWhile_isWord_append hr] at hw
  exact h hw

section Pieces

-- Only at a boundary a reference can start, and there is none inside a path.
theorem piecesFrom_cons_of_not_boundary (hc : c ≠ '\'') (hb : ¬isBoundary before) :
    piecesFrom root quoted before (c :: cs) = .char c :: piecesFrom root quoted (some c) cs := by
  rw [piecesFrom, if_neg hc, if_neg (by simp [hb])]

theorem piecesFrom_cons_of_none (hc : c ≠ '\'') (hn : reference? root (c :: cs) = none) :
    piecesFrom root quoted before (c :: cs) = .char c :: piecesFrom root quoted (some c) cs := by
  rw [piecesFrom, if_neg hc]
  split
  case isFalse => rfl
  case isTrue =>
    split
    case h_1 h => rw [hn] at h; contradiction
    case h_2   => rfl

theorem piecesFrom_append_of_not_boundary (hd : ∀ c ∈ ds, isPath c) (hb : ¬isBoundary before) :
    piecesFrom root quoted before (ds ++ cs) =
      ds.map .char ++ piecesFrom root quoted (ds.getLast?.or before) cs := by
  induction ds generalizing before
  case nil          => rfl
  case cons d ds ih =>
    have ⟨hc, hd⟩ := List.forall_mem_cons.mp hd
    rw [List.cons_append, piecesFrom_cons_of_not_boundary (ne_quote_of_isPath hc) hb,
      ih hd (not_isBoundary_of_isPath hc), Placeholder.getLast?_cons_or]
    rfl

theorem piecesFrom_append_of_none (hd : ∀ c ∈ ds, isPath c)
    (hn : reference? root (ds ++ cs) = none) :
    piecesFrom root quoted before (ds ++ cs) =
      ds.map .char ++ piecesFrom root quoted (ds.getLast?.or before) cs := by
  cases ds
  case nil       => rfl
  case cons d ds =>
    have ⟨hc, hd⟩ := List.forall_mem_cons.mp hd
    rw [List.cons_append] at hn ⊢
    rw [piecesFrom_cons_of_none (ne_quote_of_isPath hc) hn,
      piecesFrom_append_of_not_boundary hd (not_isBoundary_of_isPath hc),
      Placeholder.getLast?_cons_or]
    rfl

theorem piecesFrom_reference (hq : ¬quoted) (hb : isBoundary before) (hn : root ≠ [])
    (hr : ∀ c ∈ root, isWord c) (hf : field ≠ []) (hw : ∀ c ∈ field, isWord c) :
    piecesFrom root quoted before (root ++ '.' :: (field ++ '.' :: cs)) =
      .reference field :: piecesFrom root quoted (some '.') cs := by
  have hs := reference?_eq_some_iff.mpr ⟨@rfl _ (root ++ '.' :: (field ++ '.' :: cs)), hf, hw⟩
  have ⟨c, cs', hc⟩ := List.exists_cons_of_ne_nil hn
  have hq' := ne_quote_of_isPath (isPath_of_isWord (hr c (hc ▸ List.mem_cons_self)))
  rw [hc, List.cons_append] at hs ⊢
  rw [piecesFrom, if_neg hq', if_pos (by simp [hq, hb])]
  split
  case h_1 field' rest h =>
    rw [hs] at h
    cases h
    rfl
  case h_2 h => rw [hs] at h; contradiction

end Pieces

section Resolve

variable (aliases : Aliases) (relationships : List String)

-- The alias that a reference is written by, if it is to a relationship.
def aliasOf? (field : List Char) : Option String :=
  if relationships.contains (.ofList field) then aliases.lookup (.ofList field) else none

-- What is read in the place of a piece.
def Piece.respelled : Piece → List Piece
  | char c          => [char c]
  | reference field =>
    match aliasOf? aliases relationships field with
    | some a => (a.toList ++ ['.']).map char
    | none   => [reference field]

theorem Piece.resolved_reference :
    (reference field).resolved aliases relationships =
      match aliasOf? aliases relationships field with
      | some a => a.toList ++ ['.']
      | none   => aliases.rootAlias.toList ++ '.' :: field ++ ['.'] := by
  rw [resolved, aliasOf?]
  split <;> rfl

-- That the aliases of relationships are names, as the root's is, and none is the root's.
structure Readable : Prop where
  root     : IsName aliases.rootAlias
  nonempty : aliases.rootAlias.toList ≠ []
  others   : ∀ field a, (∀ c ∈ field, isWord c) → aliasOf? aliases relationships field = some a →
    IsName a ∧ a ≠ aliases.rootAlias

def written (pieces : List Piece) : List Char :=
  pieces.flatMap (·.resolved aliases relationships)

theorem toList_resolve (fragment : String) :
    (resolve aliases relationships fragment).toList =
      written aliases relationships (pieces aliases.rootAlias fragment) := by
  rw [resolve, String.toList_ofList]
  rfl

variable {aliases relationships}

theorem written_char (ps : List Piece) :
    written aliases relationships (.char c :: ps) = c :: written aliases relationships ps := by
  rw [written, List.flatMap_cons, Piece.resolved]
  rfl

theorem written_respelled (p : Piece) :
    written aliases relationships (p.respelled aliases relationships)
      = p.resolved aliases relationships := by
  cases p
  case char c          => rfl
  case reference field =>
    rw [Piece.respelled, Piece.resolved_reference]
    cases ha : aliasOf? aliases relationships field
    case none   => simp [written, Piece.resolved_reference, ha]
    case some a => simp [written, Piece.resolved, List.flatMap_map]

theorem reference_mem_respelled_iff {p : Piece} :
    .reference field ∈ p.respelled aliases relationships ↔
      p = .reference field ∧ aliasOf? aliases relationships field = none := by
  cases p
  case char c           => simp [Piece.respelled]
  case reference field' =>
    rw [Piece.respelled]
    split
    case h_1 a ha => grind
    case h_2 ha   => grind

theorem mem_referencedFields {fragment root f : String} :
    f ∈ referencedFields fragment root ↔ .reference f.toList ∈ pieces root fragment := by
  rw [referencedFields, List.mem_eraseDups, List.mem_filterMap]
  constructor
  case mp =>
    intro ⟨p, hp, hf⟩
    cases p
    case char          => contradiction
    case reference field =>
      rw [← Option.some.inj hf, String.toList_ofList]
      exact hp
  case mpr => exact fun hp => ⟨_, hp, congrArg some String.ofList_toList⟩

-- In a path nothing is written in another way.
theorem takeWhile_written (hb : ¬isBoundary before) :
    (written aliases relationships (piecesFrom root quoted before cs)).takeWhile isPath
      = cs.takeWhile isPath := by
  induction cs generalizing before quoted
  case nil          => rw [piecesFrom]; rfl
  case cons c cs ih =>
    by_cases hc : isPath c
    case pos =>
      rw [piecesFrom_cons_of_not_boundary (ne_quote_of_isPath hc) hb, written_char,
        List.takeWhile_cons_of_pos hc, List.takeWhile_cons_of_pos hc,
        ih (not_isBoundary_of_isPath hc)]
    case neg =>
      have hp : ∃ ps, piecesFrom root quoted before (c :: cs) = .char c :: ps := by
        by_cases hq : c = '\''
        case pos => exact ⟨_, by rw [piecesFrom, if_pos hq]⟩
        case neg => exact ⟨_, piecesFrom_cons_of_not_boundary hq hb⟩
      obtain ⟨ps, hp⟩ := hp
      rw [hp, written_char, List.takeWhile_cons_of_neg hc, List.takeWhile_cons_of_neg hc]

-- Nor at the head of one, where a reference could start.
theorem takeWhile_cons_written :
    (c :: written aliases relationships (piecesFrom root quoted (some c) cs)).takeWhile isPath
      = (c :: cs).takeWhile isPath := by
  by_cases hc : isPath c
  case pos =>
    rw [List.takeWhile_cons_of_pos hc, List.takeWhile_cons_of_pos hc,
      takeWhile_written (not_isBoundary_of_isPath hc)]
  case neg => rw [List.takeWhile_cons_of_neg hc, List.takeWhile_cons_of_neg hc]

namespace Readable

variable (h : Readable aliases relationships)
include h

theorem piecesFrom_resolved_append (hb : isBoundary before) (hf : field ≠ [])
    (hw : ∀ c ∈ field, isWord c) :
    piecesFrom aliases.rootAlias.toList false before
        ((Piece.reference field).resolved aliases relationships ++ cs) =
      (Piece.reference field).respelled aliases relationships ++
        piecesFrom aliases.rootAlias.toList false (some '.') cs := by
  rw [Piece.resolved_reference, Piece.respelled]
  cases ha : aliasOf? aliases relationships field
  case none   =>
    have hp := @piecesFrom_reference _ _ cs _ before Bool.false_ne_true hb h.nonempty h.root hf hw
    simpa using hp
  case some a =>
    have ⟨hn, hr⟩ := h.others field a hw ha
    have hp : ∀ c ∈ a.toList ++ ['.'], isPath c := by
      intro c hc
      cases List.mem_append.mp hc
      case inl hc => exact isPath_of_isWord (hn c hc)
      case inr hc => exact List.mem_singleton.mp hc ▸ rfl
    have hx := @reference?_append_eq_none _ cs _ h.root hn (mt String.toList_inj.mp hr)
    rw [← List.singleton_append, ← List.append_assoc] at hx
    have hc := @piecesFrom_append_of_none _ _ _ false before hp hx
    simpa using hc

-- A text is looked through as it was before, but for the references that are written by aliases.
theorem piecesFrom_written :
    piecesFrom aliases.rootAlias.toList quoted before (written aliases relationships
        (piecesFrom aliases.rootAlias.toList quoted before cs))
      = (piecesFrom aliases.rootAlias.toList quoted before cs).flatMap
          (·.respelled aliases relationships) := by
  fun_induction piecesFrom aliases.rootAlias.toList quoted before cs with
  | case1 => rw [written, List.flatMap_nil, piecesFrom]; rfl
  | case2 quoted before cs ih =>
    rw [written_char, piecesFrom, if_pos rfl, ih]
    rfl
  | case3 quoted before c cs _ hb field rest hr ih =>
    rw [Bool.and_eq_true, Bool.not_eq_true'] at hb
    have ⟨_, hf, hw⟩ := reference?_eq_some_iff.mp hr
    rw [hb.left] at ih ⊢
    rw [written, List.flatMap_cons, ← written, h.piecesFrom_resolved_append hb.right hf hw, ih,
      List.flatMap_cons]
  | case4 quoted before c cs hc _ hr ih =>
    rw [written_char, piecesFrom_cons_of_none hc ?none, ih]
    case none => exact (reference?_eq_none_congr h.root takeWhile_cons_written).mpr hr
    rfl
  | case5 quoted before c cs hc hb ih =>
    rw [written_char, piecesFrom, if_neg hc, if_neg hb, ih]
    rfl

theorem pieces_resolve (fragment : String) :
    pieces aliases.rootAlias (resolve aliases relationships fragment)
      = (pieces aliases.rootAlias fragment).flatMap (·.respelled aliases relationships) := by
  rw [pieces, toList_resolve]
  exact h.piecesFrom_written

theorem resolve_resolve (fragment : String) :
    resolve aliases relationships (resolve aliases relationships fragment)
      = resolve aliases relationships fragment := by
  have hw : (fun p : Piece => written aliases relationships (p.respelled aliases relationships))
      = (·.resolved aliases relationships) :=
    funext written_respelled
  rw [← String.toList_inj, toList_resolve, toList_resolve, h.pieces_resolve, written,
    List.flatMap_assoc]
  exact congrArg (List.flatMap · (pieces aliases.rootAlias fragment)) hw

-- Of the references, those are left that are not to relationships with an alias.
theorem mem_referencedFields_resolve {fragment f : String} :
    f ∈ referencedFields (resolve aliases relationships fragment) aliases.rootAlias ↔
      f ∈ referencedFields fragment aliases.rootAlias ∧
        aliasOf? aliases relationships f.toList = none := by
  simp only [mem_referencedFields, h.pieces_resolve, List.mem_flatMap, reference_mem_respelled_iff]
  exact ⟨fun ⟨_, hp, he, ha⟩ => ⟨he ▸ hp, ha⟩, fun ⟨hp, ha⟩ => ⟨_, hp, rfl, ha⟩⟩

end Readable

section Literals

theorem quote_not_mem_chars (hr : ∀ c ∈ root, isWord c) (hw : ∀ c ∈ field, isWord c) :
    '\'' ∉ (Piece.reference field).chars root := by
  have hn {cs : List Char} (h : ∀ c ∈ cs, isWord c) : '\'' ∉ cs :=
    fun hm => absurd (h _ hm) (by decide)
  simp [Piece.chars, hn hr, hn hw]

theorem Readable.quote_not_mem_resolved (h : Readable aliases relationships)
    (hw : ∀ c ∈ field, isWord c) :
    '\'' ∉ (Piece.reference field).resolved aliases relationships := by
  rw [Piece.resolved_reference]
  split
  case h_1 a ha =>
    have ⟨hn, _⟩ := h.others field a hw ha
    simpa using fun hm => absurd (hn _ hm) (by decide)
  case h_2 => exact quote_not_mem_chars h.root hw

theorem resolved_reference_ne_nil :
    (Piece.reference field).resolved aliases relationships ≠ [] := by
  rw [Piece.resolved_reference]
  split <;> simp

-- References stand outside literals, and what is written for them does not have any.
theorem Readable.agree_written (h : Readable aliases relationships) {place : Place}
    (hq : quoted = (place == .inside)) :
    place.Agree (written aliases relationships
      (piecesFrom aliases.rootAlias.toList quoted before cs)) cs := by
  fun_induction piecesFrom aliases.rootAlias.toList quoted before cs generalizing place with
  | case1 => exact ⟨rfl, rfl⟩
  | case2 quoted before cs ih =>
    rw [written_char]
    exact (ih (hq ▸ Place.inside_next_quote.symm)).cons
  | case3 quoted before c cs _ hb field rest hr ih =>
    have hp : place ≠ .inside := by simp_all
    obtain ⟨hc, _, hw⟩ := reference?_eq_some_iff.mp hr
    have hc : c :: cs = (Piece.reference field).chars aliases.rootAlias.toList ++ rest := by
      simp [hc, Piece.chars]
    have hi : Place.outside.Agree _ rest := ih (by simp_all)
    rw [written, List.flatMap_cons, ← written, hc]
    exact hi.append hp (h.quote_not_mem_resolved hw) resolved_reference_ne_nil
      (quote_not_mem_chars h.root hw) (by simp [Piece.chars])
  | case4 quoted before c cs hc _ _ ih =>
    rw [written_char]
    exact (ih (hq.trans (Place.inside_next_of_ne hc).symm)).cons
  | case5 quoted before c cs hc _ ih =>
    rw [written_char]
    exact (ih (hq.trans (Place.inside_next_of_ne hc).symm)).cons

theorem Readable.literals_resolve (h : Readable aliases relationships) (fragment : String) :
    Text.literals (resolve aliases relationships fragment) = Text.literals fragment := by
  rw [Text.literals, toList_resolve]
  exact (h.agree_written rfl).right

end Literals

end Resolve

end TableQuery.Fragment
